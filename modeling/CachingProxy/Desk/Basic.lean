import CachingProxy.Follower
import CachingProxy.Relay
import CachingProxy.RunLoop

namespace CachingProxy

abbrev WaiterId := Nat

abbrev RelayId := Nat

/-- Where a follower's tasks are executed. -/
inductive Place
  | inline
  | queue
  | loop (id : Nat)
  deriving DecidableEq

/-- A follower: its tasks, where it executes them itself, and what it was handed and nobody has
looked at. -/
structure Waiter where
  place : Place
  tasks : List Task := []
  handed : List Delivery := []

/-- Where a body comes from. -/
inductive Source
  | ended
  | follower (w : WaiterId)
  | client (r : RelayId)
  deriving DecidableEq

/-- A client that reads an answer, and how far it is. -/
inductive Reader
  | stream (w : WaiterId)
  | responding (w : WaiterId)
  | pendingHead (r : RelayId)
  | body (s : Source)
  deriving DecidableEq

inductive Progress
  | asked
  | sending
  | done
  deriving DecidableEq

/-- The origin's side of a relay. -/
structure Fetch where
  relay : RelayId
  progress : Progress := .asked

inductive Refusal
  | gone (name : String)
  | notQueue
  | wrongState (action : String)
  | failed (f : Failure)
  | broken (detail : String)
  deriving DecidableEq

/-- A running cache together with everything that acts on it, under names. Nothing at a desk blocks; what
is not ready can be asked for again. -/
structure Desk where
  cache : Cache WaiterId
  pool : Pool (WaiterId × Task)
  waiters : Assoc WaiterId Waiter := .empty
  nextWaiter : WaiterId := 0
  relays : Assoc RelayId Relay := .empty
  nextRelay : RelayId := 0
  recorders : Assoc String WaiterId := .empty
  groups : Assoc String FlightId := .empty
  leads : Assoc String FlightId := .empty
  readers : Assoc String Reader := .empty
  fetches : Assoc String Fetch := .empty
  channels : Assoc String WaiterId := .empty

abbrev Desk.Run (α : Type) := StateM Desk α

/-- What is done at a desk and may be refused; what was done before stays done. -/
abbrev Desk.Act (α : Type) := ExceptT Refusal (StateM Desk) α

namespace Desk

def new (cache : Cache WaiterId) (loops : Nat) : Except Failure Desk := do
  return { cache, pool := ← Pool.new loops }

def hand (d : Desk) (w : WaiterId) (ds : List Delivery) : Desk :=
  match d.waiters.get? w with
  | some a => { d with waiters := d.waiters.set w { a with handed := a.handed ++ ds } }
  | none => d

def post (d : Desk) (w : WaiterId) (t : Task) : Desk :=
  match d.waiters.get? w with
  | some a =>
    match a.place with
    | .inline => d.hand w t.deliveries
    | .queue => { d with waiters := d.waiters.set w { a with tasks := a.tasks ++ [t] } }
    | .loop id => { d with pool := d.pool.post id (w, t) }
  | none => d

def postAll (d : Desk) (ps : Postings WaiterId) : Desk := ps.foldl (fun d p => d.post p.1 p.2) d

def advanceRelay (d : Desk) (id : RelayId) : Desk :=
  match d.relays.get? id with
  | some r =>
    let (cache, r, ps) := r.advance d.cache
    { d with cache, relays := d.relays.set id r }.postAll ps
  | none => d

/-- Lets the run loops execute all that waits there. -/
def runLoops (d : Desk) : Desk :=
  d.pool.queued.foldl (fun d q => d.hand q.2.1 q.2.2.deliveries) { d with pool := d.pool.drain }

/-- Lets relays and run loops do all they can. -/
def settle (d : Desk) : Desk := (d.relays.keys.foldl advanceRelay d).runLoops

/-- What the named followers were handed since this was last asked, with the run loop that made
the deliveries. -/
def collectEvents (d : Desk) : Desk × List (String × Option Nat × List Delivery) :=
  let found := d.recorders.entries.filterMap fun (name, w) =>
    (d.waiters.get? w).bind fun a =>
      if a.handed = [] then none
      else some (name, (match a.place with | .loop id => some id | _ => none), a.handed)
  let waiters := d.recorders.values.foldl
    (fun ws w => match ws.get? w with
      | some a => ws.set w { a with handed := [] }
      | none => ws)
    d.waiters
  ({ d with waiters }, found)

def onStore {α : Type} (f : Store → Store × α) : Run α := do
  let d ← get
  let (store, a) := f d.cache.store
  set { d with cache := { d.cache with store } }
  return a

def named {α : Type} (table : Desk → Assoc String α) (name : String) : Act α := do
  match (table (← get)).get? name with
  | some a => return a
  | none => throw (.gone name)

end Desk
end CachingProxy
