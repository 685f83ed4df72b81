import CachingProxy.Desk.Flights

namespace CachingProxy.Desk

def dropReader (d : Desk) : Reader → Desk
  | .pendingHead id => leaveRelay id
  | .body (.client id) => leaveRelay id
  | _ => d
where
  leaveRelay (id : RelayId) : Desk :=
    match d.relays.get? id with
    | some r => { d with relays := d.relays.set id r.leave }
    | none => d

def addReader (name : String) (r : Reader) : Run Unit :=
  modify fun d =>
    let e := { d with readers := d.readers.set name r }
    match d.readers.get? name with
    | some old => e.dropReader old
    | none => e

def removeReader (name : String) : Run Unit :=
  modify fun d => { d with readers := d.readers.erase name }

def replaceReader (name : String) (r : Reader) : Run Unit :=
  modify fun d => { d with readers := d.readers.set name r }

/-- The decision about a request; a lead or a reader that comes of it is kept under the name. -/
def judge (name : String) (merging : Bool) (q : Inquiry) : Run Verdict := do
  let w ← newWaiter (.loop (← nextLoop))
  let d ← get
  let (cache, ps, v) := d.cache.judge merging q w
  set ({ d with cache }.postAll ps)
  match v with
  | .lead id => addLead name id
  | .wait _ => addReader name (.stream w)
  | _ => pure ()
  return v

/-- A flight is alive while newcomers can join it, somebody leads it, or it has a name. -/
def isAlive (d : Desk) (id : FlightId) : Bool :=
  d.cache.flights.isRegistered id || d.cache.flights.led.contains id || d.groups.values.contains id

def isFed (d : Desk) (w : WaiterId) : Bool :=
  d.channels.values.contains w ||
    d.cache.flights.flights.entries.any fun (id, f) =>
      d.isAlive id && f.seats.any fun s => s.follower == w

def nextDelivery (w : WaiterId) : Run (Arrival Delivery) := do
  let d ← get
  match d.waiters.get? w with
  | some a =>
    let (arrival, handed) := Arrival.next a.handed (d.isFed w)
    set { d with waiters := d.waiters.set w { a with handed } }
    return arrival
  | none => return .closed

def receive (name : String) : Act (Arrival Delivery) := do
  match ← named readers name with
  | .stream w => nextDelivery w
  | _ => throw (.wrongState "recv")

/-- Makes an answer of what a follower is handed; nothing while the head has not come. -/
def respond (name : String) : Act (Option Head) := do
  let w ← match ← named readers name with
    | .stream w => pure w
    | .responding w => pure w
    | _ => throw (.wrongState "respond")
  match ← nextDelivery w with
  | .pending => replaceReader name (.responding w); return none
  | .item a => conclude w (some a)
  | .closed => conclude w none
where
  conclude (w : WaiterId) (d : Option Delivery) : Act (Option Head) := do
    match Follower.answer d with
    | .ok (h, more) =>
      replaceReader name (.body (if more then .follower w else .ended))
      return some h
    | .error f => removeReader name; throw (.failed f)

/-- The head of a relay's answer: `closed` if the relay died without one. -/
def takeHead (name : String) : Act (Arrival Head) := do
  match ← named readers name with
  | .pendingHead id =>
    match ((← get).relays.get? id).map Relay.head with
    | some (.given (.ok h)) => replaceReader name (.body (.client id)); return .item h
    | some (.given (.error f)) => removeReader name; throw (.failed f)
    | some .awaited => return .pending
    | _ => removeReader name; return .closed
  | _ => throw (.wrongState "head")

/-- The next piece of a body, and where its rest comes from. -/
def nextPiece : Source → Run (Arrival (Except String Bytes) × Source)
  | .ended => return (.closed, .ended)
  | .follower w => do
    match ← nextDelivery w with
    | .pending => return (.pending, .follower w)
    | .item d => return withRest w (Follower.piece (some d))
    | .closed => return withRest w (Follower.piece none)
  | .client id => do
    let d ← get
    match d.relays.get? id with
    | some r =>
      let (client, arrival) := r.client.read
      set { d with relays := d.relays.set id { r with client } }
      match arrival with
      | .item (.error e) => return (.item (.error e), .ended)
      | .closed => return (.closed, .ended)
      | a => return (a, .client id)
    | none => return (.closed, .ended)
where
  withRest (w : WaiterId) (p : Except String Bytes × Bool) :
      Arrival (Except String Bytes) × Source :=
    (.item p.1, if p.2 then .follower w else .ended)

def bodyNamed (name action : String) : Act Source := do
  match ← named readers name with
  | .body s => return s
  | _ => throw (.wrongState action)

def takePiece (name : String) : Act (Arrival Bytes) := do
  let (arrival, rest) ← nextPiece (← bodyNamed name "chunk")
  replaceReader name (.body rest)
  match arrival with
  | .item (.ok b) => return .item b
  | .item (.error e) => throw (.broken e)
  | .pending => return .pending
  | .closed => return .closed

structure Collected where
  pieces : Nat := 0
  bytes : Bytes := []
  ending : Arrival String := .pending

def ready (d : Desk) : Source → Nat
  | .ended => 0
  | .follower w => ((d.waiters.get? w).map fun a => a.handed.length).getD 0
  | .client id => ((d.relays.get? id).map fun r => r.client.waiting.length).getD 0

def collectFrom (s : Source) : Nat → Run (Collected × Source)
  | 0 => return ({}, s)
  | n + 1 => do
    match ← nextPiece s with
    | (.item (.ok b), rest) =>
      let (c, s) ← collectFrom rest n
      return ({ c with pieces := c.pieces + 1, bytes := b ++ c.bytes }, s)
    | (.item (.error e), rest) => return ({ ending := .item e }, rest)
    | (.pending, rest) => return ({ ending := .pending }, rest)
    | (.closed, rest) => return ({ ending := .closed }, rest)

def collect (name : String) : Act Collected := do
  let s ← bodyNamed name "collect"
  let (c, rest) ← collectFrom s ((← get).ready s + 1)
  replaceReader name (.body rest)
  return c

def dismiss (name : String) : Run Bool := do
  match (← get).readers.get? name with
  | some r =>
    removeReader name
    modify fun d => d.dropReader r
    return true
  | none => return false

def addChannel (name : String) : Run Unit := do
  let w ← newWaiter (.loop 0)
  modify fun d => { d with channels := d.channels.set name w }
  addReader name (.stream w)

def deliver (name : String) (d : Delivery) : Act Unit := do
  let w ← named channels name
  modify fun e => e.hand w [d]

def dropChannel (name : String) : Run Bool := do
  let d ← get
  set { d with channels := d.channels.erase name }
  return d.channels.contains name

end CachingProxy.Desk
