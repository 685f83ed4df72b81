import CachingProxy.Service.Answer
import CachingProxy.Service.Basic
import CachingProxy.Service.PurgeOrder
import CachingProxy.Http.MediaType
import CachingProxy.Telemetry.Exposition

namespace CachingProxy

def version : String := "0.1.0"

structure Request where
  method : Method
  target : Target
  headers : Headers
  body : Bytes
  deriving DecidableEq

inductive Route
  | health
  | metrics
  | stats
  | purge
  | proxied
  | nobody
  deriving DecidableEq

namespace Route

def ofPath (p : String) : Route :=
  if p = "/_cache/health" then health
  else if p = "/_cache/metrics" then metrics
  else if p = "/_cache/stats" then stats
  else if p = "/_cache/purge" then purge
  else if p.toList.head? = some '/' then proxied
  else nobody

def takes (r : Route) (m : Method) : Bool :=
  match r with
  | purge => m = .post
  | nobody => true
  | _ => m = .get || m = .head

def allowed : Route → HeaderValue
  | purge => .ofText "POST"
  | _ => .ofText "GET,HEAD"

end Route

namespace Service

def healthAnswer : Answer :=
  .ofResponse (.json .ok
    (Json.object [("status", Json.text "healthy"), ("version", Json.text version)]))

def metricsAnswer (s : Service) : Answer :=
  ⟨⟨.ok, [(.contentType, .ofText "text/plain; version=0.0.4")]⟩,
    Bytes.ofString (Exposition.text s.telemetry), true, none⟩

/-- Ratios are written in full, whole ones with `.0`. -/
def ratio : Decimal.Layout := ⟨some (-4), some 16, true⟩

def storeStatsText (s : StoreStats) : String :=
  Json.object [("hits", Json.natural s.hits), ("misses", Json.natural s.misses),
    ("stores", Json.natural s.stores), ("evictions", Json.natural s.evictions),
    ("hosts", Json.natural s.hosts), ("total_entries", Json.natural s.entries),
    ("buffer_size_per_host", Json.natural s.capacity), ("hit_ratio", ratio.render s.hitRatio)]

def flightStatsText (s : FlightStats) : String :=
  Json.object [("in_flight_groups", Json.natural s.inFlight),
    ("total_waiters", Json.natural s.waiting), ("coalesced_requests", Json.natural s.coalesced)]

def statsAnswer (s : Service) : Answer :=
  .ofResponse (.json .ok (Json.object [
    ("cache", storeStatsText s.desk.cache.store.stats),
    ("coalescing", flightStatsText s.desk.cache.flights.stats)]))

/-- What a purge order does: all is forgotten, or a host, whose name is put in lower case. -/
def obey (s : Service) (o : PurgeOrder) : Service × Except Failure Nat :=
  if o.all then let (s, n) := s.purge Store.purgeAll; (s, .ok n)
  else match o.host with
  | some h => let (s, n) := s.purge fun st => st.purge (Text.lowerString h); (s, .ok n)
  | none => (s, .error ⟨.request, "Specify either \"host\" or \"all\""⟩)

def mostOrderBytes : Nat := 2097152

def purgeAnswer (s : Service) (r : Request) : Service × Answer :=
  if !r.headers.sayJson then
    (s, .text .unsupportedMediaType "Expected request with `Content-Type: application/json`")
  else if mostOrderBytes < r.body.length then
    (s, .text .contentTooLarge "Failed to buffer the request body: length limit exceeded")
  else match PurgeOrder.parse r.body with
  | .error .malformed => (s, .text .badRequest "Failed to parse the request body as JSON")
  | .error .mismatched =>
    (s, .text .unprocessable "Failed to deserialize the JSON body into the target type")
  | .ok order =>
    match s.obey order with
    | (s, .ok n) =>
      (s, .ofResponse (.json .ok (Json.object [("success", Json.boolean true),
        ("message", Json.text ("Purged " ++ toString n ++ " cache entries")),
        ("purged_count", Json.natural n)])))
    | (s, .error f) => (s, .ofResponse f.response)

def inquiry? (r : Request) : Except Failure Inquiry :=
  match requestHost? r.headers r.target with
  | some host => .ok ⟨r.method, host, r.target.resource, r.headers⟩
  | none => .error ⟨.request, "Missing or invalid Host header"⟩

/-- Reads a body to its end, letting everybody else go on after each reading; at most `fuel`
readings. -/
def readBody (name : String) : Nat → Service → Service × Bytes × Option String
  | 0, s => (s, [], none)
  | fuel + 1, s =>
    match s.act (Desk.collect name) with
    | (s, .ok c) =>
      match c.ending with
      | .closed => (s.settle, c.bytes, none)
      | .item e => (s.settle, c.bytes, some e)
      | .pending =>
        let (s, bs, e) := readBody name fuel s.settle
        (s, c.bytes ++ bs, e)
    | (s, .error _) => (s, [], none)

/-- The bytes that a fetch brings to its own client, and why the body broke off, if it did. -/
def bodyOf : List Fed → Bytes × Option String
  | .chunk b :: r => let (bs, e) := bodyOf r; (b ++ bs, e)
  | .failed f :: _ => ([], some f.message)
  | .panicked :: _ => ([], some "the origin's body was abandoned")
  | .ended :: _ => ([], none)
  | [] => ([], none)

def conclude (name : String) (pieces : Nat) : Service × Step Head → Service × Answer
  | (s, .answered h) =>
    let (s, body, broken) := readBody name (pieces + 1) s
    (s, ⟨h, body, false, broken⟩)
  | (s, .failed f) => (s, .ofResponse f.response)
  | (s, .pending _) =>
    match s.expire name with
    | (s, .failed f) => (s, .ofResponse f.response)
    | (s, _) => (s, .empty .internal [])

/-- Deals with a proxied request while no other one is pending. -/
def proxy (s : Service) (network : Network) (name : String) (r : Request) : Service × Answer :=
  match inquiry? r with
  | .error f => (s, .ofResponse f.response)
  | .ok q =>
    let fetched := (s.origins.fetch network q.host q.path q.headers).1
    let pieces := match fetched with
      | .ok (_, body) => body.length
      | .error _ => 0
    match s.accept name q 0 with
    | (s, .answered a) => (s, .ofResponse a)
    | (s, .failed f) => (s, .ofResponse f.response)
    | (s, .pending .bypass) =>
      match s.endBypass q.host (fetched.map Prod.fst) 0 with
      | (s, .answered h) =>
        let (body, broken) := match fetched with
          | .ok (_, feed) => bodyOf feed
          | .error _ => ([], none)
        (s, ⟨h, body, false, broken⟩)
      | (s, .failed f) => (s, .ofResponse f.response)
      | (s, .pending _) => (s, .empty .internal [])
    | (s, .pending .relay) =>
      conclude name pieces ((s.completeFetch name fetched).pollRelay name q.host 0)
    | (s, .pending .flight) => conclude name pieces (s.pollFlight name q.host 0)

def dispatch (s : Service) (network : Network) (name : String) (r : Request) : Service × Answer :=
  let route := Route.ofPath r.target.path
  if !route.takes r.method then (s, .empty .methodNotAllowed [(.allow, route.allowed)])
  else match route with
  | .health => (s, healthAnswer)
  | .metrics => (s, s.metricsAnswer)
  | .stats => (s, s.statsAnswer)
  | .purge => s.purgeAnswer r
  | .proxied => s.proxy network name r
  | .nobody => (s, .empty .notFound [])

/-- The answer to a request, named `name`, while no other one is pending. -/
def serve (s : Service) (network : Network) (name : String) (r : Request) : Service × Answer :=
  let (s, a) := s.dispatch network name r
  (s, if r.method = .head then a.measured.withoutBody else a.measured)

end Service
end CachingProxy
