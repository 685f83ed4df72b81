import CachingProxy.Failure
import CachingProxy.Ring

namespace CachingProxy

/-- One ring for every host that something was stored for, and counters of what happened. -/
structure Store where
  capacity : Nat
  positive : 0 < capacity
  rings : Assoc String Ring := .empty
  hits : Nat := 0
  misses : Nat := 0
  stores : Nat := 0
  evictions : Nat := 0

structure StoreStats where
  hits : Nat
  misses : Nat
  stores : Nat
  evictions : Nat
  hosts : Nat
  entries : Nat
  capacity : Nat

namespace StoreStats

def hitRatio (s : StoreStats) : Float :=
  if s.hits + s.misses = 0 then 0 else s.hits.toFloat / (s.hits + s.misses).toFloat

end StoreStats

namespace Store

/-- A store that keeps `capacity` answers for each host, before anything is done with it. -/
def empty (capacity : Nat) (positive : 0 < capacity := by decide) : Store :=
  ⟨capacity, positive, .empty, 0, 0, 0, 0⟩

def new (capacity : Nat) : Except Failure Store :=
  if h : 0 < capacity then .ok (.empty capacity h)
  else .error ⟨.settings, "buffer size per host must be positive"⟩

def peek (s : Store) (host path : String) : Option Response :=
  (s.rings.get? host).bind fun r => r.get? path

/-- Looks an answer up and counts whether one was there. -/
def get (s : Store) (host path : String) : Store × Option Response :=
  match s.peek host path with
  | some a => ({ s with hits := s.hits + 1 }, some a)
  | none => ({ s with misses := s.misses + 1 }, none)

/-- The ring of a host; a new one if nothing was stored for it. -/
def ring (s : Store) (host : String) : Ring := (s.rings.get? host).getD (.empty s.capacity)

def countOutcome (s : Store) : Ring.Outcome → Store
  | .evicted _ => { s with stores := s.stores + 1, evictions := s.evictions + 1 }
  | _ => { s with stores := s.stores + 1 }

def store (s : Store) (host path : String) (a : Response) : Store :=
  let (r, o) := (s.ring host).put path a
  { s with rings := s.rings.set host r }.countOutcome o

def hostSize? (s : Store) (host : String) : Option Nat := (s.rings.get? host).map Ring.size

/-- Forgets a host and tells how many answers that removed. -/
def purge (s : Store) (host : String) : Store × Nat :=
  ({ s with rings := s.rings.erase host }, (s.hostSize? host).getD 0)

def entries (s : Store) : Nat := (s.rings.values.map Ring.size).foldr (· + ·) 0

def purgeAll (s : Store) : Store × Nat := ({ s with rings := .empty }, s.entries)

def stats (s : Store) : StoreStats :=
  ⟨s.hits, s.misses, s.stores, s.evictions, s.rings.size, s.entries, s.capacity⟩

/-- What an answer is fetched and waited for under: the host and, right after it, the path. -/
def key (host path : String) : String := host ++ path

end Store
end CachingProxy
