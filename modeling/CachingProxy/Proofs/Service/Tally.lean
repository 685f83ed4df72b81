import CachingProxy.Proofs.Store.Balance
import CachingProxy.Service.Basic

namespace CachingProxy

namespace Assoc

variable {κ α : Type} [DecidableEq κ]

theorem get?_alter (t : Assoc κ α) (k j : κ) (d : α) (f : α → α) :
    (t.alter k d f).get? j = if k = j then some (f ((t.get? k).getD d)) else t.get? j :=
  get?_set t k j _

def weighAt (f : α → Nat) (P : κ → Bool) (t : Assoc κ α) : Nat :=
  weigh f (t.entries.filter fun e => P e.1)

omit [DecidableEq κ] in
theorem weigh_filter_cons (f : α → Nat) (P : κ → Bool) (e : κ × α) (l : List (κ × α)) :
    weigh f ((e :: l).filter fun e => P e.1) =
      (if P e.1 then f e.2 else 0) + weigh f (l.filter fun e => P e.1) := by
  rw [List.filter_cons]
  split
  · rw [weigh_cons]
  · rw [Nat.zero_add]

theorem weigh_filter_place (f : α → Nat) (P : κ → Bool) (k : κ) (a : α) (l : List (κ × α)) :
    weigh f ((place k a l).filter fun e => P e.1) + (if P k then ((find k l).map f).getD 0 else 0) =
      weigh f (l.filter fun e => P e.1) + if P k then f a else 0 := by
  induction l with
  | nil =>
    simp only [place, weigh_filter_cons, find, List.filter_nil, Option.map_none, Option.getD_none,
      ite_self]
    omega
  | cons e r ih =>
    by_cases here : e.1 = k
    · simp only [place, find, here, if_true, weigh_filter_cons, Option.map_some, Option.getD_some]
      omega
    · simp only [place, find, if_neg here, weigh_filter_cons]
      omega

theorem weighAt_alter (t : Assoc κ Nat) (P : κ → Bool) (k : κ) :
    (t.alter k 0 (· + 1)).weighAt id P = t.weighAt id P + if P k then 1 else 0 := by
  have placed := weigh_filter_place id P k ((t.get? k).getD 0 + 1) t.entries
  have value : ((find k t.entries).map id).getD 0 = (t.get? k).getD 0 := by
    rw [get?, Option.map_id]
    rfl
  rw [value, id] at placed
  show weigh id ((place k ((t.get? k).getD 0 + 1) t.entries).filter fun e => P e.1) = _
  rw [weighAt]
  split
  · next kind =>
    rw [if_pos kind, if_pos kind] at placed
    omega
  · next kind =>
    rw [if_neg kind, if_neg kind] at placed
    omega

theorem weighAt_key (f : α → Nat) (t : Assoc κ α) (k : κ) :
    t.weighAt f (fun j => j = k) = ((t.get? k).map f).getD 0 := by
  obtain ⟨l, distinct⟩ := t
  simp only [weighAt, get?]
  induction l with
  | nil => rfl
  | cons e r ih =>
    obtain ⟨absent, distinct⟩ := List.nodup_cons.mp distinct
    have rest := ih distinct
    by_cases here : e.1 = k
    · subst here
      rw [find_eq_none_of_notMem absent] at rest
      simp [find, rest]
    · simpa [find, here] using rest

end Assoc

namespace Telemetry

variable {t : Telemetry} {host host' : String} {p p' : Provenance} {s s' : Status} {nanos : Nat}

/-- The requests that were counted under labels of one kind: host, status and where the answer came
from. -/
def total (t : Telemetry) (P : String × Status × Provenance → Bool) : Nat := t.requests.weighAt id P

def requestCount (t : Telemetry) (host : String) (s : Status) (p : Provenance) : Nat :=
  (t.requests.get? (host, s, p)).getD 0

def timedCount (t : Telemetry) (host : String) (p : Provenance) : Nat :=
  ((t.timings.get? (host, p)).map Timing.count).getD 0

def fetchCount (t : Telemetry) (host : String) (s : Status) : Nat := (t.fetches.get? (host, s)).getD 0

def coalescedCount (t : Telemetry) (host : String) : Nat := (t.coalesced.get? host).getD 0

theorem total_label (t : Telemetry) (host : String) (s : Status) (p : Provenance) :
    t.total (fun l => l = (host, s, p)) = t.requestCount host s p := by
  rw [total, Assoc.weighAt_key, Option.map_id]
  rfl

/-- Whether the request was sent to an origin. -/
def fromOrigin (p : Provenance) : Bool := p = .miss || p = .bypass

variable (v : Service)

theorem count_telemetry : (v.count host p s nanos).telemetry =
    (if fromOrigin p then v.telemetry.recordFetch host s else v.telemetry).recordRequest host p s nanos := by
  cases p <;> rfl

theorem total_count (P : String × Status × Provenance → Bool) :
    (v.count host p s nanos).telemetry.total P =
      v.telemetry.total P + if P (host, s, p) then 1 else 0 := by
  cases p <;> exact Assoc.weighAt_alter v.telemetry.requests P _

theorem requestCount_count :
    (v.count host p s nanos).telemetry.requestCount host' s' p' =
      v.telemetry.requestCount host' s' p' + if host = host' ∧ s = s' ∧ p = p' then 1 else 0 := by
  rw [← total_label, total_count, total_label]
  simp

theorem timedCount_count :
    (v.count host p s nanos).telemetry.timedCount host' p' =
      v.telemetry.timedCount host' p' + if host = host' ∧ p = p' then 1 else 0 := by
  have timings : (v.count host p s nanos).telemetry.timings =
      v.telemetry.timings.alter (host, p) .empty fun x => x.observe (secondsOf nanos) := by
    cases p <;> rfl
  rw [timedCount, timings, Assoc.get?_alter, timedCount]
  by_cases here : (host, p) = (host', p')
  · obtain ⟨rfl, rfl⟩ := Prod.mk.inj here
    cases v.telemetry.timings.get? (host, p) <;> simp [Timing.observe, Timing.empty]
  · rw [if_neg here, if_neg (by simpa using here), Nat.add_zero]

theorem fetchCount_count :
    (v.count host p s nanos).telemetry.fetchCount host' s' =
      v.telemetry.fetchCount host' s' +
        if fromOrigin p ∧ host = host' ∧ s = s' then 1 else 0 := by
  rw [count_telemetry]
  by_cases origin : fromOrigin p = true
  · by_cases here : (host, s) = (host', s')
    · obtain ⟨rfl, rfl⟩ := Prod.mk.inj here
      simp [origin, fetchCount, recordFetch, recordRequest, Assoc.get?_alter]
    · have other : ¬ (host = host' ∧ s = s') := by simpa using here
      simp [origin, fetchCount, recordFetch, recordRequest, Assoc.get?_alter, other]
  · simp [origin, fetchCount, recordRequest]

theorem coalescedCount_count :
    (v.count host p s nanos).telemetry.coalescedCount host' =
      v.telemetry.coalescedCount host' + if p = .coalesced ∧ host = host' then 1 else 0 := by
  rw [count_telemetry]
  by_cases merged : p = .coalesced
  · subst merged
    by_cases here : host = host' <;>
      simp [fromOrigin, coalescedCount, recordRequest, Assoc.get?_alter, here]
  · simp only [recordRequest, if_neg merged, coalescedCount]
    split <;> simp [recordFetch, merged]

/-- That the series agree with each other and with the hits that the store has counted. -/
structure Balances (t : Telemetry) (hits : Nat) : Prop where
  timed : ∀ host p, t.timedCount host p = t.total fun l => l.1 = host ∧ l.2.2 = p
  coalesced : ∀ host, t.coalescedCount host = t.total fun l => l.1 = host ∧ l.2.2 = .coalesced
  fetched : ∀ host s, t.fetchCount host s = t.requestCount host s .miss + t.requestCount host s .bypass
  hits : hits = t.total fun l => l.2.2 = .hit

theorem balances_empty : ({} : Telemetry).Balances 0 :=
  ⟨fun _ _ => rfl, fun _ => rfl, fun _ _ => rfl, rfl⟩

theorem balances_count {n : Nat} (balances : v.telemetry.Balances n) :
    (v.count host p s nanos).telemetry.Balances (n + if p = .hit then 1 else 0) := by
  constructor
  · intro host' p'
    rw [timedCount_count, total_count, balances.timed]
    simp
  · intro host'
    rw [coalescedCount_count, total_count, balances.coalesced]
    simp [and_comm]
  · intro host' s'
    rw [fetchCount_count, requestCount_count, requestCount_count, balances.fetched]
    cases p <;> simp [fromOrigin] <;> omega
  · rw [total_count, ← balances.hits]
    simp

end Telemetry
end CachingProxy
