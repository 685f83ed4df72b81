import CachingProxy.Flight.Delivery

namespace CachingProxy

/-- A flight goes from `empty` over `headed` and `streaming` to `closed`, perhaps skipping some; from
all of these but `closed` it may go to `aborted`. -/
inductive Phase
  | empty
  | headed
  | streaming
  | closed
  | aborted
  deriving DecidableEq

namespace Phase

def name : Phase → String
  | empty => "Empty"
  | headed => "HeadersSet"
  | streaming => "Streaming"
  | closed => "Closed"
  | aborted => "Aborted"

def isOver : Phase → Bool
  | closed => true
  | aborted => true
  | _ => false

end Phase

/-- A follower and how much it has been handed. -/
structure Seat (ω : Type) where
  follower : ω
  offset : Nat := 0
  headed : Bool := false
  finished : Bool := false

/-- One fetch in progress for one key, with the head and the body as far as they have come, and a seat
for everybody who waits for them. -/
structure Flight (ω : Type) where
  key : String
  phase : Phase := .empty
  head : Option Head := none
  body : Bytes := []
  seats : List (Seat ω) := []

namespace Seat

variable {ω : Type}

/-- The seat after a flush of `body`, and what is posted for it: the head if it was not handed over
yet and the bytes since the last time. A finished seat is left alone, and nothing is posted when
there is nothing to hand over and more may come. -/
def flush (h : Head) (body : Bytes) (last : Bool) (s : Seat ω) : Seat ω × Postings ω :=
  if s.finished then (s, [])
  else
    let bytes := if s.offset < body.length then some (body.drop s.offset) else none
    let head := if s.headed then none else some h
    let seat := { s with offset := body.length, headed := true }
    if head = none ∧ bytes = none ∧ last = false then (seat, [])
    else ({ seat with finished := last }, [(s.follower, .replay head bytes last)])

def reset (s : Seat ω) : Seat ω × Postings ω :=
  if s.finished then (s, []) else ({ s with finished := true }, [(s.follower, .reset)])

end Seat

namespace Flight

variable {ω : Type}

/-- Notes the head. Only the first one counts, and none once the flight is over. -/
def setHead (f : Flight ω) (h : Head) : Flight ω × Bool :=
  if f.head.isSome || f.phase.isOver then (f, false)
  else ({ f with head := some h, phase := if f.body = [] then .headed else .streaming }, true)

/-- Adds to the body, unless the flight is over. Followers see it at the next flush. -/
def append (f : Flight ω) (b : Bytes) : Flight ω :=
  if f.phase.isOver then f
  else
    { f with
      body := f.body ++ b
      phase := if f.phase = .headed then .streaming else f.phase }

/-- Gives a follower a seat. After a good end it is handed everything at once; after a failure it is
reset and gets no seat. -/
def join (f : Flight ω) (w : ω) : Flight ω × Postings ω :=
  match f.phase with
  | .closed =>
    ({ f with seats := f.seats ++ [⟨w, f.body.length, true, true⟩] },
      [(w, .replay f.head (if f.body = [] then none else some f.body) true)])
  | .aborted => (f, [(w, .reset)])
  | _ => ({ f with seats := f.seats ++ [{ follower := w }] }, [])

/-- Hands every follower what it has not seen. With `last` the flight ends well. Nothing happens
before the head is there or after the end. -/
def flush (f : Flight ω) (last : Bool) : Flight ω × Postings ω :=
  match f.head with
  | some h =>
    if f.phase.isOver then (f, [])
    else
      let served := f.seats.map (Seat.flush h f.body last)
      ({ f with
          seats := served.map Prod.fst
          phase := if last then .closed else f.phase },
        served.flatMap Prod.snd)
  | none => (f, [])

/-- Ends the flight badly: everybody who still expects something is reset. Nothing happens after
the end. -/
def abort (f : Flight ω) : Flight ω × Postings ω :=
  if f.phase.isOver then (f, [])
  else
    let served := f.seats.map Seat.reset
    ({ f with phase := .aborted, seats := served.map Prod.fst }, served.flatMap Prod.snd)

def snapshot? (f : Flight ω) : Option Response := f.head.map fun h => ⟨h, f.body⟩

end Flight
end CachingProxy
