import CachingProxy.Desk.Readers

namespace CachingProxy.Desk

/-- Lets the origin's side of a relay go: a request without an answer dies, and a body that was
being sent ends. -/
def dropFetch (d : Desk) (f : Fetch) : Desk :=
  match d.relays.get? f.relay with
  | some r =>
    match f.progress with
    | .asked => { d with relays := d.relays.set f.relay { r with fetched := some .panicked } }
    | .sending => { d with relays := d.relays.set f.relay { r with feed := r.feed ++ [.ended] } }
    | .done => d
  | none => d

/-- A relay with the named lead, if one is named. Its reader and its fetch get the same name; a
fetch that had the name before is let go. -/
def addRelay (name host path : String) (lead : Option String) : Act Unit := do
  let lead ← match lead with
    | some n => some <$> takeLead n
    | none => pure none
  let d ← get
  let id := d.nextRelay
  let d := match d.fetches.get? name with
    | some f => d.dropFetch f
    | none => d
  set { d with
    relays := d.relays.set id { host, path, lead }
    nextRelay := id + 1
    fetches := d.fetches.set name { relay := id } }
  addReader name (.pendingHead id)

def relayAt (name : String) (p : Progress) : Act (RelayId × Relay) := do
  let f ← named fetches name
  match (← get).relays.get? f.relay with
  | some r => if f.progress = p then return (f.relay, r) else throw (.gone name)
  | none => throw (.gone name)

def setRelay (id : RelayId) (r : Relay) : Run Unit :=
  modify fun d => { d with relays := d.relays.set id r }

def setProgress (name : String) (id : RelayId) (p : Progress) : Run Unit :=
  modify fun d => { d with fetches := d.fetches.set name ⟨id, p⟩ }

def completeFetch (name : String) (f : Fetched) : Act Unit := do
  let (id, r) ← relayAt name .asked
  setRelay id { r with fetched := some f }
  setProgress name id (match f with | .answered _ => .sending | _ => .done)

/-- Sends pieces or a failure from the origin; whether the relay still takes them. -/
def feed (name : String) (fs : List Fed) : Act Bool := do
  let (id, r) ← relayAt name .sending
  if r.isTaking then
    setRelay id { r with feed := r.feed ++ fs }
    return true
  else return false

def feedEnd (name : String) : Act Unit := do
  let (id, r) ← relayAt name .sending
  setRelay id { r with feed := r.feed ++ [.ended] }
  setProgress name id .done

end CachingProxy.Desk
