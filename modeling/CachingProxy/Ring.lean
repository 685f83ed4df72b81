import CachingProxy.Assoc
import CachingProxy.Http.Message

namespace CachingProxy

/-- Slots for answers, filled and reused in the order in which their paths first came. The live ones are
the `size` slots from `start` on, counted around the end. `slotOf` leads from a path to its slot, and
`pathAt` from a slot to its path. -/
structure Ring where
  capacity : Nat
  size : Nat
  /-- The oldest live slot. -/
  start : Nat
  slots : List (Option Response)
  pathAt : List (Option String)
  slotOf : Assoc String Nat

namespace Ring

inductive Outcome
  | inserted
  | replaced
  /-- The oldest slot was taken from this path. -/
  | evicted (path : String)
  deriving DecidableEq

def empty (capacity : Nat) : Ring :=
  ⟨capacity, 0, 0, List.replicate capacity none, List.replicate capacity none, .empty⟩

def slot (r : Ring) (offset : Nat) : Nat := (r.start + offset) % r.capacity

def answerIn (r : Ring) (i : Nat) : Option Response := r.slots[i]?.join

def pathIn (r : Ring) (i : Nat) : Option String := r.pathAt[i]?.join

def get? (r : Ring) (path : String) : Option Response := (r.slotOf.get? path).bind r.answerIn

def write (r : Ring) (i : Nat) (path : String) (a : Response) : Ring :=
  { r with
    slots := r.slots.set i (some a)
    pathAt := r.pathAt.set i (some path)
    slotOf := r.slotOf.set path i }

def oldest (r : Ring) : String := (r.pathIn r.start).getD ""

/-- The ring without its oldest path; its slot is then the last one. -/
def dropOldest (r : Ring) : Ring :=
  { r with
    pathAt := r.pathAt.set r.start none
    slotOf := r.slotOf.erase r.oldest
    start := (r.start + 1) % r.capacity }

def put (r : Ring) (path : String) (a : Response) : Ring × Outcome :=
  match r.slotOf.get? path with
  | some i => ({ r with slots := r.slots.set i (some a) }, .replaced)
  | none =>
    if r.size = r.capacity then (r.dropOldest.write r.start path a, .evicted r.oldest)
    else ({ r with size := r.size + 1 }.write (r.slot r.size) path a, .inserted)

def isEmpty (r : Ring) : Bool := r.size == 0

/-- The live paths, the oldest first. -/
def paths (r : Ring) : List String := (List.range r.size).filterMap fun k => r.pathIn (r.slot k)

def view (r : Ring) : List (String × Response) :=
  r.paths.filterMap fun p => (r.get? p).map fun a => (p, a)

/-- Every noted path leads to a slot in range that holds an answer and notes the path. -/
def forwardOk (r : Ring) : Bool :=
  r.slotOf.entries.all fun (p, i) =>
    decide (i < r.capacity) && r.pathIn i == some p && (r.answerIn i).isSome

/-- Every path noted in a slot leads back to that slot. -/
def backwardOk (r : Ring) : Bool :=
  r.pathAt.zipIdx.all fun (noted, i) => noted.all fun p => r.slotOf.get? p == some i

/-- Every live slot notes a path. -/
def liveOk (r : Ring) : Bool := (List.range r.size).all fun k => (r.pathIn (r.slot k)).isSome

/-- Whether the two notes describe the same live slots. -/
def isConsistent (r : Ring) : Bool :=
  r.slotOf.size == r.size && decide (r.size ≤ r.capacity) && r.forwardOk && r.backwardOk && r.liveOk

end Ring
end CachingProxy
