import CachingProxy.Cache
import CachingProxy.Channel

namespace CachingProxy

/-- What became of the request to the origin. -/
inductive Fetched
  | answered (h : Head)
  | failed (f : Failure)
  | panicked
  deriving DecidableEq

/-- What the origin's body brings next. -/
inductive Fed
  | chunk (b : Bytes)
  | failed (f : Failure)
  | ended
  | panicked
  deriving DecidableEq

inductive HeadSlot
  | awaited
  | given (r : Except Failure Head)
  | abandoned

/-- Where the task stands. -/
inductive Stage
  | fetching
  /-- The client has the head; the flight is next. -/
  | opening (h : Head)
  /-- Waiting for the body's next piece. -/
  | pumping (h : Head)
  /-- The flight has the piece; the client is next. -/
  | offering (h : Head) (b : Bytes)
  /-- The body failed; the client is told. -/
  | reporting (detail : String)
  /-- The body ended well; the store is next. -/
  | storing (h : Head)
  /-- The flight is finished next. -/
  | landing
  /-- The client's channel is closed next, after a good end. -/
  | leaving
  /-- The client's channel is closed next, and then the flight is abandoned. -/
  | failing
  /-- The flight is abandoned next. -/
  | abandoning
  /-- The fetch failed: the flight is abandoned, and then the client is told. -/
  | refusing (f : Failure)
  | finished
  deriving DecidableEq

/-- How many pieces a relay's client may leave unread. -/
def clientRoom : Nat := 16

/-- One fetch from the origin, carried by a task of its own to the client that asked, to the flight it
leads, if it leads one, and after a good end to the store. The task works in small steps; it waits where
the origin has sent nothing yet or the client has read too little. -/
structure Relay where
  host : String
  path : String
  /-- The flight it leads, until that is finished or abandoned. -/
  lead : Option FlightId
  stage : Stage := .fetching
  fetched : Option Fetched := none
  feed : List Fed := []
  /-- The body so far, if it is for the store and no flight keeps it. -/
  kept : Bytes := []
  head : HeadSlot := .awaited
  client : Channel (Except String Bytes) := { room := clientRoom }

namespace Relay

variable {ω : Type}

def leading (r : Relay) (c : Cache ω) (f : FlightTable ω → FlightId → FlightTable ω × Postings ω) :
    Cache ω × Postings ω :=
  match r.lead with
  | some id => let (flights, ps) := f c.flights id; ({ c with flights }, ps)
  | none => (c, [])

/-- What the store is given: what the flight has gathered, or else what was kept for it. -/
def gathered? (r : Relay) (c : Cache ω) (h : Head) : Option Response :=
  match r.lead with
  | some id => (c.flights.flight? id).bind Flight.snapshot?
  | none => some ⟨h, r.kept⟩

/-- One step of the task, with what it posts for the followers; nothing if it has to wait. -/
def step (c : Cache ω) (r : Relay) : Option (Cache ω × Relay × Postings ω) :=
  match r.stage with
  | .fetching =>
    match r.fetched with
    | none => none
    | some (.answered h) =>
      some (c, { r with fetched := none, head := .given (.ok h), stage := .opening h }, [])
    | some (.failed f) => some (c, { r with fetched := none, stage := .refusing f }, [])
    | some .panicked =>
      some (c, { r with fetched := none, head := .abandoned, stage := .abandoning }, [])
  | .opening h =>
    let (c, ps) := r.leading c fun t id => (t.setHead id h).flush id false
    some (c, { r with stage := .pumping h }, ps)
  | .pumping h =>
    match r.feed with
    | [] => none
    | .chunk b :: feed =>
      let (c, ps) := r.leading c fun t id => (t.append id b).flush id false
      let kept := if r.lead = none ∧ h.isStorable then r.kept ++ b else r.kept
      some (c, { r with feed, kept, stage := .offering h b }, ps)
    | .failed f :: feed => some (c, { r with feed, stage := .reporting f.message }, [])
    | .ended :: feed => some (c, { r with feed, stage := .storing h }, [])
    | .panicked :: feed => some (c, { r with feed, stage := .failing }, [])
  | .offering h b =>
    match r.client.send (.ok b) with
    | (_, .full) => none
    | (client, _) => some (c, { r with client, stage := .pumping h }, [])
  | .reporting detail =>
    match r.client.send (.error detail) with
    | (_, .full) => none
    | (client, _) => some (c, { r with client, stage := .failing }, [])
  | .storing h =>
    let store := match r.gathered? c h with
      | some a => if h.isStorable then c.store.store r.host r.path a else c.store
      | none => c.store
    some ({ c with store }, { r with stage := .landing }, [])
  | .landing =>
    let (c, ps) := r.leading c FlightTable.finish
    some (c, { r with lead := none, stage := .leaving }, ps)
  | .leaving => some (c, { r with client := r.client.hangUp, stage := .finished }, [])
  | .failing => some (c, { r with client := r.client.hangUp, stage := .abandoning }, [])
  | .abandoning =>
    let (c, ps) := r.leading c FlightTable.abandon
    some (c, { r with lead := none, stage := .finished }, ps)
  | .refusing f =>
    let (c, ps) := r.leading c FlightTable.abandon
    some (c, { r with lead := none, head := .given (.error f), stage := .finished }, ps)
  | .finished => none

/-- At most this many steps are left before the task has to wait. -/
def patience (r : Relay) : Nat := 2 * r.feed.length + 10

def run (c : Cache ω) (r : Relay) : Nat → Cache ω × Relay × Postings ω
  | 0 => (c, r, [])
  | n + 1 =>
    match step c r with
    | none => (c, r, [])
    | some (c, r, ps) => let (c, r, qs) := run c r n; (c, r, ps ++ qs)

def advance (c : Cache ω) (r : Relay) : Cache ω × Relay × Postings ω := run c r r.patience

def leave (r : Relay) : Relay := { r with client := r.client.leave }

def isTaking (r : Relay) : Bool := r.stage ≠ .finished

end Relay
end CachingProxy
