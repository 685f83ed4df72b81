import CachingProxy.Http.HopByHop
import CachingProxy.Http.Target
import CachingProxy.Origin.Table
import CachingProxy.Relay
import CachingProxy.Url.Basic

namespace CachingProxy

/-- A request as it goes to an origin. -/
structure Call where
  url : Url
  headers : Headers
  deriving DecidableEq

/-- What the network makes of one attempt. -/
inductive Reply
  /-- Nobody accepts the connection. -/
  | refused
  /-- The connection ends before a head has come. -/
  | lost
  /-- The head does not come in time. -/
  | late
  /-- A head, and then what the body brings, up to its end. -/
  | answered (h : Head) (body : List Fed)
  deriving DecidableEq

/-- The replies to a call, the first attempt being number zero. -/
abbrev Network := Call → Nat → Reply

def Failure.unbuildable (u : Option Url) : Failure :=
  ⟨.origin, "builder error" ++ (u.map fun u => " for url (" ++ u.render ++ ")").getD ""⟩

def Failure.unsent (u : Url) : String := "error sending request for url (" ++ u.render ++ ")"

namespace Url

def hasHost (u : Url) : Bool := u.host.any fun h => h ≠ .domain ""

/-- The address without user information, which goes into a header field instead; one whose name is
not text stays as it is. -/
def withoutUser (u : Url) : Url :=
  match (Percent.decode u.username.toList).text? with
  | some name =>
    let password := u.password.bind fun p => (Percent.decode p.toList).text?
    if name ≠ "" ∨ password.isSome then { u with username := "", password := none } else u
  | none => u

end Url

def passedOn : List HeaderName := [.accept, .acceptLanguage, .userAgent]

namespace Origin

/-- The fields that every request to the origin carries, if all of them are legal. -/
def ownFields? (o : Origin) : Option Headers :=
  o.headers.entries.mapM fun (n, v) => do return (← HeaderName.ofString? n, ← HeaderValue.ofString? v)

/-- The request for a path; it is not sent to an address that is no URL of the web. -/
def call (o : Origin) (path : String) (request : Headers) : Except Failure Call :=
  match Url.parse (o.address path) with
  | .error _ => .error (.unbuildable none)
  | .ok u =>
    if !u.hasHost then .error (.unbuildable (some u))
    else match o.ownFields? with
    | none => .error (.unbuildable none)
    | some own =>
      let u := u.withoutUser
      let forwarded := passedOn.flatMap fun n => (request.values n).map fun v => (n, v)
      if u.scheme ≠ "http" ∧ u.scheme ≠ "https" then .error (.unbuildable (some u))
      else match Target.parse (Bytes.ofString u.render) with
      | .ok _ => .ok ⟨u, own ++ forwarded⟩
      | .error _ => .error (.unbuildable (some u))

end Origin

/-- What is made of a reply: fields that concern the connection only are left out. -/
def Reply.outcome (u : Url) : Reply → Except Failure (Head × List Fed)
  | refused => .error ⟨.unreachable, Failure.unsent u⟩
  | lost => .error ⟨.origin, Failure.unsent u⟩
  | late => .error ⟨.unreachable, "Upstream timeout: " ++ Failure.unsent u⟩
  | answered h body => .ok (⟨h.status, h.headers.endToEnd⟩, body)

/-- Tries until an attempt succeeds or `left` more have failed; the last outcome, and how many
attempts were made before and now. The pause after a failed attempt is left out: it is
`100 * 2 ^ (k - 1)` milliseconds after the `k`-th one, a number that leaves the range of 64 bits from the
59th failed attempt on. -/
def retry {α : Type} (attempt : Nat → Except Failure α) : Nat → Nat → Except Failure α × Nat
  | left, k =>
    match attempt k, left with
    | .ok a, _ => (.ok a, k + 1)
    | .error e, 0 => (.error e, k + 1)
    | .error _, left + 1 => retry attempt left (k + 1)

def Origin.attempt (o : Origin) (network : Network) (path : String) (request : Headers) (k : Nat) :
    Except Failure (Head × List Fed) := do
  let c ← o.call path request
  (network c k).outcome c.url

/-- The answer of the host's origin, and how many attempts it took. -/
def Origins.fetch (o : Origins) (network : Network) (host path : String) (request : Headers) :
    Except Failure (Head × List Fed) × Nat :=
  match o.resolve host with
  | .error f => (.error f, 0)
  | .ok (_, origin) => retry (origin.attempt network path request) (origin.attempts - 1) 0

end CachingProxy
