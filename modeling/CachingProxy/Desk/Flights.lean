import CachingProxy.Desk.Followers

namespace CachingProxy.Desk

def onFlights (f : FlightTable WaiterId → FlightTable WaiterId × Postings WaiterId) : Run Unit :=
  modify fun d =>
    let (flights, ps) := f d.cache.flights
    { d with cache := { d.cache with flights } }.postAll ps

def flight (id : FlightId) : Run (Flight WaiterId) := do
  return ((← get).cache.flights.flight? id).getD { key := "" }

def flightNamed (name : String) : Act FlightId := do
  match (← get).groups.get? name with
  | some id => return id
  | none => named leads name

/-- A flight under the name of its lead or else under its own; whether the lead was named. -/
def leadOrFlightNamed (name : String) : Act (FlightId × Bool) := do
  match (← get).leads.get? name with
  | some id => return (id, true)
  | none => return (← named groups name, false)

def addGroup (name : String) (id : FlightId) : Run Unit :=
  modify fun d => { d with groups := d.groups.set name id }

def newGroup (name key : String) : Run Unit := do
  let d ← get
  let (flights, id) := d.cache.flights.create key
  set { d with cache := { d.cache with flights } }
  addGroup name id

def keepGroup (name flight : String) : Act Unit := do addGroup name (← flightNamed flight)

def lookUp (key : String) (name : Option String) : Run Bool := do
  match (← get).cache.flights.registered.get? key with
  | some id =>
    match name with
    | some n => addGroup n id
    | none => pure ()
    return true
  | none => return false

def setHead (name : String) (h : Head) : Act Bool := do
  let (id, _) ← leadOrFlightNamed name
  let before ← flight id
  onFlights fun t => (t.setHead id h, [])
  return (before.setHead h).2

def append (name : String) (b : Bytes) : Act Unit := do
  let (id, _) ← leadOrFlightNamed name
  onFlights fun t => (t.append id b, [])

/-- A flush through a lead is never the last one. -/
def flush (name : String) (last : Bool) : Act Phase := do
  let (id, led) ← leadOrFlightNamed name
  onFlights fun t => t.flush id (last && !led)
  return (← flight id).phase

def addWaiter (name waiter : String) : Act Nat := do
  let id ← flightNamed name
  let w ← waiterNamed waiter
  onFlights fun t => t.seat id w
  return (← flight id).seats.length

def abort (name : String) : Act Nat := do
  let id ← flightNamed name
  let before ← flight id
  onFlights fun t => t.abort id
  return before.abort.2.length

def info (name : String) : Act (Flight WaiterId) := do flight (← flightNamed name)

def snapshot? (name : String) : Act (Option Response) := do
  return (← flight (← leadOrFlightNamed name).1).snapshot?

/-- Gives a lead a name. A lead that had the name before is dropped, so its flight is abandoned. -/
def addLead (name : String) (id : FlightId) : Run Unit := do
  let old := (← get).leads.get? name
  modify fun d => { d with leads := d.leads.set name id }
  match old with
  | some o => onFlights fun t => t.abandon o
  | none => pure ()

def takeLead (name : String) : Act FlightId := do
  let id ← named leads name
  modify fun d => { d with leads := d.leads.erase name }
  return id

def finish (name : String) : Act Phase := do
  let id ← takeLead name
  onFlights fun t => t.finish id
  return (← flight id).phase

def abandon (name : String) : Act Phase := do
  let id ← takeLead name
  onFlights fun t => t.abandon id
  return (← flight id).phase

def electFor (key : String) (w : WaiterId) : Run Election := do
  let d ← get
  let (flights, ps, e) := d.cache.flights.elect key w
  set ({ d with cache := { d.cache with flights } }.postAll ps)
  return e

def join (key waiter name : String) : Act Bool := do
  match ← electFor key (← waiterNamed waiter) with
  | .leader id => addLead name id; return true
  | .joined _ => return false

/-- Newcomers with followers of their own, one after the other; how many lead and how many joined. -/
def contend (key name : String) : Nat → Run (Nat × Nat)
  | 0 => return (0, 0)
  | n + 1 => do
    let e ← electFor key (← newWaiter .inline)
    match e with
    | .leader id => addLead name id
    | .joined _ => pure ()
    let (leaders, joined) ← contend key name n
    match e with
    | .leader _ => return (leaders + 1, joined)
    | .joined _ => return (leaders, joined + 1)

def removeKey (key : String) : Run Bool := do
  let d ← get
  let (flights, removed) := d.cache.flights.remove key
  set { d with cache := { d.cache with flights } }
  return removed

end CachingProxy.Desk
