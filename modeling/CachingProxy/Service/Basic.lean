import CachingProxy.Desk.Relays
import CachingProxy.Origin.Fetch
import CachingProxy.Settings
import CachingProxy.Telemetry

namespace CachingProxy

/-- A request is accepted, and unless the store has its answer it is pending until a head comes from the
origin or from another's fetch. Only a request that is answered is counted. -/
structure Service where
  origins : Origins
  merging : Bool
  desk : Desk
  telemetry : Telemetry := {}

/-- What a pending request waits for. -/
inductive Pending
  | bypass
  | relay
  | flight
  deriving DecidableEq

inductive Step (α : Type)
  | answered (a : α)
  | failed (f : Failure)
  | pending (p : Pending)

namespace Service

def new (s : Settings) (processors : Nat) : Except Failure Service := do
  let cache ← Cache.new s.cache
  let desk ← Desk.new cache (s.server.loops.getD processors)
  return { origins := s.origins, merging := s.cache.merging, desk }

def run {α : Type} (s : Service) (a : Desk.Run α) : Service × α :=
  let (r, desk) : α × Desk := StateT.run a s.desk
  ({ s with desk }, r)

def act {α : Type} (s : Service) (a : Desk.Act α) : Service × Except Refusal α :=
  s.run (ExceptT.run a)

def settle (s : Service) : Service := { s with desk := s.desk.settle }

/-- Counts a request whose head was ready after so many nanoseconds. -/
def count (s : Service) (host : String) (p : Provenance) (status : Status) (nanos : Nat) : Service :=
  let t := s.telemetry
  { s with telemetry := match p with
      | .miss => (t.recordFetch host status).recordRequest host p status nanos
      | .bypass => (t.recordFetch host status).recordRequest host p status nanos
      | _ => t.recordRequest host p status nanos }

/-- Takes a request under a name of its own: a stored answer is given at once. -/
def accept (s : Service) (name : String) (q : Inquiry) (nanos : Nat) : Service × Step Response :=
  match s.run (Desk.judge name s.merging q) with
  | (s, .bypass) => (s, .pending .bypass)
  | (s, .hit a) =>
    (s.count q.host .hit a.head.status nanos, .answered ⟨a.head.marked .hit, a.body⟩)
  | (s, .wait _) => (s, .pending .flight)
  | (s, .lead _) =>
    ((s.act (Desk.addRelay name q.host q.path (some name))).1, .pending .relay)
  | (s, .fetch) => ((s.act (Desk.addRelay name q.host q.path none)).1, .pending .relay)

/-- The origin has answered a request that bypasses the cache, or cannot be had. -/
def endBypass (s : Service) (host : String) (outcome : Except Failure Head) (nanos : Nat) :
    Service × Step Head :=
  match outcome with
  | .ok h => (s.count host .bypass h.status nanos, .answered (h.marked .bypass))
  | .error f => (s, .failed f)

def pollRelay (s : Service) (name host : String) (nanos : Nat) : Service × Step Head :=
  match s.act (Desk.takeHead name) with
  | (s, .ok (.item h)) => (s.count host .miss h.status nanos, .answered (h.marked .miss))
  | (s, .ok .pending) => (s, .pending .relay)
  | (s, .error (.failed f)) => (s, .failed f)
  | (s, _) => (s, .failed ⟨.internal, "Upstream relay stopped unexpectedly"⟩)

def pollFlight (s : Service) (name host : String) (nanos : Nat) : Service × Step Head :=
  match s.act (Desk.respond name) with
  | (s, .ok (some h)) => (s.count host .coalesced h.status nanos, .answered h)
  | (s, .error (.failed f)) => (s, .failed f)
  | (s, _) => (s, .pending .flight)

/-- A request has waited too long for another's fetch. -/
def expire (s : Service) (name : String) : Service × Step Head :=
  ((s.run (Desk.dismiss name)).1,
    .failed ⟨.unreachable, "Timed out waiting for coalesced response"⟩)

def completeFetch (s : Service) (name : String) (outcome : Except Failure (Head × List Fed)) :
    Service :=
  match outcome with
  | .ok (h, body) =>
    ((s.act (Desk.completeFetch name (.answered h))).1.act (Desk.feed name body)).1.settle
  | .error f => (s.act (Desk.completeFetch name (.failed f))).1.settle

def purge (s : Service) (f : Store → Store × Nat) : Service × Nat :=
  let (store, n) := f s.desk.cache.store
  ({ s with desk := { s.desk with cache := { s.desk.cache with store } } }, n)

end Service
end CachingProxy
