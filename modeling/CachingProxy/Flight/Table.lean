import CachingProxy.Assoc
import CachingProxy.Flight.Basic

namespace CachingProxy

abbrev FlightId := Nat

/-- All flights by number. Whoever starts one holds its lead until it is finished or abandoned; its key
may be struck from the register before that, and then a second flight for the key may start. -/
structure FlightTable (ω : Type) where
  flights : Assoc FlightId (Flight ω) := .empty
  next : FlightId := 0
  /-- The flight that newcomers for a key join. -/
  registered : Assoc String FlightId := .empty
  /-- The flights whose lead is held by somebody. -/
  led : List FlightId := []
  coalesced : Nat := 0

inductive Election
  | leader (id : FlightId)
  | joined (id : FlightId)
  deriving DecidableEq

structure FlightStats where
  inFlight : Nat
  waiting : Nat
  coalesced : Nat

namespace FlightTable

variable {ω : Type}

def create (t : FlightTable ω) (key : String) : FlightTable ω × FlightId :=
  ({ t with flights := t.flights.set t.next { key }, next := t.next + 1 }, t.next)

def flight? (t : FlightTable ω) (id : FlightId) : Option (Flight ω) := t.flights.get? id

def update (t : FlightTable ω) (id : FlightId) (f : Flight ω → Flight ω × Postings ω) :
    FlightTable ω × Postings ω :=
  match t.flight? id with
  | some a => let (b, ps) := f a; ({ t with flights := t.flights.set id b }, ps)
  | none => (t, [])

def setHead (t : FlightTable ω) (id : FlightId) (h : Head) : FlightTable ω :=
  (t.update id fun f => ((f.setHead h).1, [])).1

def append (t : FlightTable ω) (id : FlightId) (b : Bytes) : FlightTable ω :=
  (t.update id fun f => (f.append b, [])).1

def flush (t : FlightTable ω) (id : FlightId) (last : Bool) : FlightTable ω × Postings ω :=
  t.update id fun f => f.flush last

def abort (t : FlightTable ω) (id : FlightId) : FlightTable ω × Postings ω :=
  t.update id Flight.abort

def seat (t : FlightTable ω) (id : FlightId) (w : ω) : FlightTable ω × Postings ω :=
  t.update id fun f => f.join w

def isRegistered (t : FlightTable ω) (id : FlightId) : Bool := t.registered.values.contains id

/-- Joins the flight registered for the key, or starts and leads a new one if there is none. -/
def elect (t : FlightTable ω) (key : String) (w : ω) : FlightTable ω × Postings ω × Election :=
  match t.registered.get? key with
  | some id =>
    let (t, ps) := t.seat id w
    ({ t with coalesced := t.coalesced + 1 }, ps, .joined id)
  | none =>
    let (t, id) := t.create key
    ({ t with registered := t.registered.set key id, led := t.led ++ [id] }, [], .leader id)

/-- Strikes a key from the register, whoever leads its flight. -/
def remove (t : FlightTable ω) (key : String) : FlightTable ω × Bool :=
  ({ t with registered := t.registered.erase key }, t.registered.contains key)

/-- Strikes a flight from the register, unless another one took its place there. -/
def strike (t : FlightTable ω) (id : FlightId) : FlightTable ω :=
  match t.flight? id with
  | some f =>
    if t.registered.get? f.key = some id then { t with registered := t.registered.erase f.key }
    else t
  | none => t

def release (t : FlightTable ω) (id : FlightId) : FlightTable ω :=
  { t with led := t.led.filter fun j => decide (j ≠ id) }

/-- The leader's good end: a last flush, or a reset of the followers if no head ever came. -/
def finish (t : FlightTable ω) (id : FlightId) : FlightTable ω × Postings ω :=
  let (t, flushed) := t.flush id true
  let (t, resets) :=
    if (t.flight? id).any fun f => f.phase = .closed then (t, []) else t.abort id
  ((t.strike id).release id, flushed ++ resets)

/-- The leader's bad end. -/
def abandon (t : FlightTable ω) (id : FlightId) : FlightTable ω × Postings ω :=
  let (t, resets) := t.abort id
  ((t.strike id).release id, resets)

def stats (t : FlightTable ω) : FlightStats :=
  let flights := t.registered.values.filterMap t.flight?
  ⟨t.registered.size, (flights.map fun f => f.seats.length).foldr (· + ·) 0, t.coalesced⟩

end FlightTable
end CachingProxy
