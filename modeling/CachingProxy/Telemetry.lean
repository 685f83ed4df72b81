import CachingProxy.Assoc
import CachingProxy.Decimal.Shortest
import CachingProxy.Http.Message

namespace CachingProxy

/-- A bound of the duration histogram in seconds, with the text it is labelled by. -/
structure Bound where
  seconds : Float
  label : String

/-- How long heads took: how many took no longer than each bound, how many there were in all, and
the sum of their durations in seconds. -/
structure Timing where
  within : List Nat
  count : Nat := 0
  sum : Float := 0

namespace Timing

def bounds : List Bound :=
  [⟨0.001, "0.001"⟩, ⟨0.005, "0.005"⟩, ⟨0.01, "0.01"⟩, ⟨0.025, "0.025"⟩, ⟨0.05, "0.05"⟩,
    ⟨0.1, "0.1"⟩, ⟨0.25, "0.25"⟩, ⟨0.5, "0.5"⟩, ⟨1, "1"⟩, ⟨2.5, "2.5"⟩, ⟨5, "5"⟩, ⟨10, "10"⟩]

def empty : Timing := { within := bounds.map fun _ => 0 }

def observe (t : Timing) (seconds : Float) : Timing where
  within := (t.within.zip bounds).map fun (n, b) => if seconds ≤ b.seconds then n + 1 else n
  count := t.count + 1
  sum := t.sum + seconds

end Timing

def secondsOf (nanos : Nat) : Float :=
  (nanos / 1000000000).toFloat + (nanos % 1000000000).toFloat / 1000000000

structure Telemetry where
  requests : Assoc (String × Status × Provenance) Nat := .empty
  timings : Assoc (String × Provenance) Timing := .empty
  fetches : Assoc (String × Status) Nat := .empty
  coalesced : Assoc String Nat := .empty

namespace Telemetry

/-- A request for `host` was answered; its head took so many nanoseconds. -/
def recordRequest (t : Telemetry) (host : String) (p : Provenance) (s : Status) (nanos : Nat) :
    Telemetry :=
  { t with
    requests := t.requests.alter (host, s, p) 0 (· + 1)
    timings := t.timings.alter (host, p) .empty fun x => x.observe (secondsOf nanos)
    coalesced := if p = .coalesced then t.coalesced.alter host 0 (· + 1) else t.coalesced }

def recordFetch (t : Telemetry) (host : String) (s : Status) : Telemetry :=
  { t with fetches := t.fetches.alter (host, s) 0 (· + 1) }

end Telemetry
end CachingProxy
