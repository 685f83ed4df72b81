import CachingProxy.Http.Message

namespace CachingProxy

/-- One thing handed to a follower. `last` says that nothing comes after it. -/
inductive Delivery
  | head (h : Head) (last : Bool)
  | chunk (b : Bytes) (last : Bool)
  | reset
  deriving DecidableEq

namespace Delivery

def isTerminal : Delivery → Bool
  | head _ last => last
  | chunk _ last => last
  | reset => true

def bytes : Delivery → Bytes
  | chunk b _ => b
  | _ => []

end Delivery

inductive Task
  /-- The head, if it was not handed over before, and the bytes since the last time, if any. -/
  | replay (head : Option Head) (bytes : Option Bytes) (last : Bool)
  | reset
  deriving DecidableEq

/-- The deliveries a task makes, in order. A terminal replay with nothing left to hand over makes
an empty chunk. -/
def Task.deliveries : Task → List Delivery
  | replay (some h) none last => [.head h last]
  | replay (some h) (some b) last => [.head h false, .chunk b last]
  | replay none (some b) last => [.chunk b last]
  | replay none none last => [.chunk [] last]
  | reset => [.reset]

/-- Tasks with the followers they are for, in the order of posting. -/
abbrev Postings (ω : Type) := List (ω × Task)

def Postings.deliveriesFor {ω : Type} [DecidableEq ω] (w : ω) (ps : Postings ω) : List Delivery :=
  (ps.filter fun p => p.1 = w).flatMap fun p => p.2.deliveries

end CachingProxy
