namespace CachingProxy

inductive Arrival (α : Type)
  | item (a : α)
  | pending
  | closed
  deriving DecidableEq

namespace Arrival

variable {α : Type}

/-- The next of the waiting items, and those after it; `fed` says that a sender is left. -/
def next (waiting : List α) (fed : Bool) : Arrival α × List α :=
  match waiting with
  | a :: r => (item a, r)
  | [] => (if fed then pending else closed, [])

end Arrival

/-- A channel with room for a number of items that nobody has read yet. The reader sees the end once it
is empty and no sender is left; a sender sees that the reader has left. -/
structure Channel (α : Type) where
  room : Nat
  waiting : List α := []
  /-- Whether a sender is left. -/
  fed : Bool := true
  /-- Whether the reader is still there. -/
  heard : Bool := true

inductive Sending
  | sent
  | lost
  | full
  deriving DecidableEq

namespace Channel

variable {α : Type}

def send (c : Channel α) (a : α) : Channel α × Sending :=
  if !c.heard then (c, .lost)
  else if c.room ≤ c.waiting.length then (c, .full)
  else ({ c with waiting := c.waiting ++ [a] }, .sent)

def read (c : Channel α) : Channel α × Arrival α :=
  let (a, waiting) := Arrival.next c.waiting c.fed
  ({ c with waiting }, a)

def hangUp (c : Channel α) : Channel α := { c with fed := false }

def leave (c : Channel α) : Channel α := { c with waiting := [], heard := false }

end Channel
end CachingProxy
