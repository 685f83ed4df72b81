import CachingProxy.Flight.Table
import CachingProxy.Http.Directive
import CachingProxy.Store

namespace CachingProxy

structure Cache (ω : Type) where
  store : Store
  flights : FlightTable ω := {}

/-- The fewest and the most answers that the settings may have kept for each host. -/
def CacheSize.least : Nat := 1

def CacheSize.greatest : Nat := 65536

structure CacheSettings where
  capacity : Nat := 128
  merging : Bool := true
  deriving DecidableEq

namespace CacheSettings

def check (s : CacheSettings) : Except Failure Unit :=
  if CacheSize.least ≤ s.capacity ∧ s.capacity ≤ CacheSize.greatest then .ok ()
  else
    .error ⟨.settings, "cache.buffer_size_per_host must be between " ++ toString CacheSize.least ++
      " and " ++ toString CacheSize.greatest ++ ", got " ++ toString s.capacity⟩

end CacheSettings

/-- What a client asks for, as far as the cache cares. -/
structure Inquiry where
  method : Method
  host : String
  path : String
  headers : Headers
  deriving DecidableEq

namespace Inquiry

/-- Only `GET` requests whose fields do not forbid it are served from the cache. -/
def passesBy (q : Inquiry) : Bool := q.method ≠ .get || q.headers.forbidStored

def key (q : Inquiry) : String := Store.key q.host q.path

end Inquiry

inductive Verdict
  | bypass
  | hit (a : Response)
  | lead (id : FlightId)
  | wait (id : FlightId)
  | fetch
  deriving DecidableEq

namespace Cache

variable {ω : Type}

def new (s : CacheSettings) : Except Failure (Cache ω) := do
  s.check
  return { store := ← Store.new s.capacity }

/-- The first step: the request passes by, finds an answer, or, when requests are not merged, is
fetched. Otherwise there is no verdict yet. -/
def consult (c : Cache ω) (merging : Bool) (q : Inquiry) : Cache ω × Option Verdict :=
  if q.passesBy then (c, some .bypass)
  else
    let (store, found) := c.store.get q.host q.path
    let c := { c with store }
    match found with
    | some a => (c, some (.hit a))
    | none => (c, if merging then none else some .fetch)

/-- The second step: the request leads a new flight or joins the one in progress. -/
def elect (c : Cache ω) (q : Inquiry) (w : ω) : Cache ω × Postings ω × Verdict :=
  let (flights, ps, e) := c.flights.elect q.key w
  ({ c with flights }, ps, match e with
    | .leader id => .lead id
    | .joined id => .wait id)

/-- Both steps, with nobody acting in between. -/
def judge (c : Cache ω) (merging : Bool) (q : Inquiry) (w : ω) : Cache ω × Postings ω × Verdict :=
  match c.consult merging q with
  | (c, some v) => (c, [], v)
  | (c, none) => c.elect q w

end Cache
end CachingProxy
