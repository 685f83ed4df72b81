import CachingProxy.Proofs.Assoc
import CachingProxy.Proofs.Store.Keeping

namespace CachingProxy

namespace Assoc

variable {κ α : Type} [DecidableEq κ] {f : α → Nat} {l : List (κ × α)}

/-- The weights of the values of these pairs together. -/
def weigh (f : α → Nat) (l : List (κ × α)) : Nat :=
  ((l.map Prod.snd).map f).foldr (· + ·) 0

omit [DecidableEq κ] in
@[simp] theorem weigh_cons (f : α → Nat) (p : κ × α) (l : List (κ × α)) :
    weigh f (p :: l) = f p.2 + weigh f l := rfl

theorem weigh_place (f : α → Nat) (k : κ) (a : α) (l : List (κ × α)) :
    weigh f (place k a l) + ((find k l).map f).getD 0 = weigh f l + f a := by
  induction l with
  | nil => exact Nat.add_comm _ _
  | cons p r ih =>
    by_cases here : p.1 = k
    · simp only [place, find, if_pos here, weigh_cons, Option.map_some, Option.getD_some]
      omega
    · simp only [place, find, if_neg here, weigh_cons]
      omega

theorem weigh_erase (f : α → Nat) (distinct : (l.map Prod.fst).Nodup) (k : κ) :
    weigh f (l.filter fun p => decide (p.1 ≠ k)) + ((find k l).map f).getD 0 = weigh f l := by
  induction l with
  | nil => rfl
  | cons p r ih =>
    obtain ⟨absent, distinct⟩ := List.nodup_cons.mp distinct
    have rest := ih distinct
    by_cases here : p.1 = k
    · subst here
      rw [find_eq_none_of_notMem absent] at rest
      rw [List.filter_cons_of_neg (by simp), find, if_pos rfl, weigh_cons, ← rest]
      exact Nat.add_comm _ _
    · rw [List.filter_cons_of_pos (by simpa using here), find, if_neg here, weigh_cons,
        weigh_cons, Nat.add_assoc, rest]

omit [DecidableEq κ] in
theorem weigh_le {bound : Nat} (fits : ∀ p ∈ l, f p.2 ≤ bound) : weigh f l ≤ l.length * bound := by
  induction l with
  | nil => exact Nat.zero_le _
  | cons p r ih =>
    have first := fits p List.mem_cons_self
    have rest := ih fun q mem => fits q (List.mem_cons_of_mem _ mem)
    rw [weigh_cons, List.length_cons, Nat.succ_mul]
    omega

theorem weigh_eq (f : α → Nat) (distinct : (l.map Prod.fst).Nodup) :
    weigh f l = ((l.map Prod.fst).map fun k => ((find k l).map f).getD 0).foldr (· + ·) 0 := by
  rw [weigh, List.map_map, List.map_map]
  congr 1
  apply List.map_congr_left
  intro p mem
  simp only [Function.comp_apply, find_of_mem distinct mem, Option.map_some, Option.getD_some]

end Assoc

namespace Queue

variable {capacity : Nat}

theorem length_put (positive : 0 < capacity) (q : Queue) (p : String) (a : Response) :
    (q.put capacity p a).1.length =
      if p ∈ q.paths then q.length else if q.length = capacity then q.length else q.length + 1 := by
  unfold put
  split
  · exact List.length_map _
  · split
    · next full =>
      rw [List.length_append, List.length_tail, List.length_singleton]
      omega
    · exact List.length_append

theorem length_put_pos (positive : 0 < capacity) (q : Queue) (p : String) (a : Response) :
    0 < (q.put capacity p a).1.length := by
  rw [length_put positive]
  split
  · next there =>
    obtain ⟨e, mem, -⟩ := List.mem_map.mp there
    exact List.length_pos_of_mem mem
  · split <;> omega

end Queue

namespace Store

variable {s : Store} {host : String}

def looked (_ : Store) : Op → Nat
  | .get _ _ => 1
  | .store _ _ _ | .purge _ | .purgeAll => 0

def found (s : Store) : Op → Nat
  | .get h p => if (s.get h p).2 = none then 0 else 1
  | .store _ _ _ | .purge _ | .purgeAll => 0

def stored (_ : Store) : Op → Nat
  | .store _ _ _ => 1
  | .get _ _ | .purge _ | .purgeAll => 0

def overwritten (s : Store) : Op → Nat
  | .store h p _ => if s.peek h p = none then 0 else 1
  | .get _ _ | .purge _ | .purgeAll => 0

/-- One if the operation stores something for a path that is not there on a host that is full. -/
def displaced (s : Store) : Op → Nat
  | .store h p _ => if s.peek h p = none ∧ s.hostSize? h = some s.capacity then 1 else 0
  | .get _ _ | .purge _ | .purgeAll => 0

/-- How many answers a purge says that it removed. -/
def removed (s : Store) (o : Op) : Nat :=
  match s.reply (.act o) with
  | .purged n => n
  | _ => 0

/-- What all operations of a course count for together. -/
def total (amount : Store → Op → Nat) (s : Store) (os : List Op) : Nat :=
  (Course.noted step (fun s o => [amount s o]) s os).foldr (· + ·) 0

theorem total_concat (amount : Store → Op → Nat) (s : Store) (os : List Op) (o : Op) :
    total amount s (os ++ [o]) = total amount s os + amount (s.after os) o := by
  have sum (ns : List Nat) (n : Nat) :
      (ns ++ [n]).foldr (· + ·) 0 = ns.foldr (· + ·) 0 + n := by
    induction ns with
    | nil => exact Nat.add_comm _ _
    | cons m ns ih => simp only [List.cons_append, List.foldr_cons, ih, Nat.add_assoc]
  rw [total, Course.noted_concat, sum]
  rfl

theorem size_ring (s : Store) (host : String) : (s.ring host).size = (s.hostSize? host).getD 0 := by
  rw [ring, hostSize?]
  cases s.rings.get? host <;> rfl

theorem full_iff (exact : s.Exact) :
    s.hostSize? host = some s.capacity ↔ (s.queue host).length = s.capacity := by
  have positive := s.positive
  rw [← (exact host).holds.size, size_ring]
  cases s.hostSize? host with
  | none => simpa using positive.ne
  | some n => simp

theorem size_put (exact : s.Exact) (host path : String) (a : Response) :
    ((s.ring host).put path a).1.size + overwritten s (.store host path a) +
      displaced s (.store host path a) = (s.ring host).size + 1 := by
  have shows := exact host
  have new : s.peek host path = none ↔ path ∉ (s.queue host).paths := peek_eq_none_iff exact
  rw [shows.put.1.holds.size, shows.holds.size, Queue.length_put s.positive]
  simp only [overwritten, displaced, new, full_iff exact]
  by_cases there : path ∈ (s.queue host).paths
  · simp only [there, if_true, not_true, false_and, if_false]
  · simp only [there, if_false, not_false_eq_true, true_and, if_true]
    split <;> omega

theorem evicted_iff (exact : s.Exact) (host path : String) (a : Response) :
    (∃ p, ((s.ring host).put path a).2 = .evicted p) ↔
      s.peek host path = none ∧ s.hostSize? host = some s.capacity := by
  rw [(exact host).put.2, peek_eq_none_iff exact, full_iff exact, Queue.put]
  by_cases there : path ∈ (s.queue host).paths
  · simp [there]
  · by_cases full : (s.queue host).length = s.capacity <;> simp [there, full]

theorem entries_step (exact : s.Exact) (o : Op) :
    (s.step o).entries + displaced s o + overwritten s o + removed s o =
      s.entries + stored s o := by
  cases o with
  | get h p =>
    show (s.get h p).1.entries + 0 + 0 + 0 = s.entries + 0
    rw [entries, rings_get, entries]
  | store h p a =>
    have placed := Assoc.weigh_place Ring.size h ((s.ring h).put p a).1 s.rings.entries
    have grown := size_put exact h p a
    have held : (s.step (.store h p a)).entries =
        Assoc.weigh Ring.size (Assoc.place h ((s.ring h).put p a).1 s.rings.entries) := by
      rw [entries, step, rings_store]
      rfl
    have before : s.entries = Assoc.weigh Ring.size s.rings.entries := rfl
    have size : (s.ring h).size = ((Assoc.find h s.rings.entries).map Ring.size).getD 0 :=
      size_ring s h
    show _ + _ + _ + 0 = _ + 1
    omega
  | purge h => exact Assoc.weigh_erase Ring.size s.rings.distinct h
  | purgeAll => exact Nat.zero_add _

theorem counters_step (exact : s.Exact) (o : Op) :
    (s.step o).hits + (s.step o).misses = s.hits + s.misses + looked s o ∧
    (s.step o).hits = s.hits + found s o ∧
    (s.step o).stores = s.stores + stored s o ∧
    (s.step o).evictions = s.evictions + displaced s o := by
  cases o with
  | get h p =>
    cases there : s.peek h p with
    | some a =>
      refine ⟨?_, ?_, ?_, ?_⟩ <;> simp [step, get, there, looked, found, stored, displaced]
      omega
    | none =>
      refine ⟨?_, ?_, ?_, ?_⟩ <;> simp [step, get, there, looked, found, stored, displaced]
      omega
  | store h p a =>
    have evicted := evicted_iff exact h p a
    simp only [step, store, looked, found, stored, displaced]
    cases outcome : ((s.ring h).put p a).2 with
    | inserted | replaced =>
      rw [outcome] at evicted
      rw [if_neg (evicted.not.mp (by simp))]
      exact ⟨rfl, rfl, rfl, rfl⟩
    | evicted v =>
      rw [if_pos (evicted.mp ⟨v, outcome⟩)]
      exact ⟨rfl, rfl, rfl, rfl⟩
  | purge h => exact ⟨rfl, rfl, rfl, rfl⟩
  | purgeAll => exact ⟨rfl, rfl, rfl, rfl⟩

def Populated (s : Store) : Prop := ∀ host n, s.hostSize? host = some n → 0 < n

theorem populated_step (exact : s.Exact) (populated : s.Populated) (o : Op) :
    (s.step o).Populated := by
  intro host n there
  cases o with
  | get h p =>
    rw [hostSize?, step, rings_get] at there
    exact populated host n there
  | store h p a =>
    rw [hostSize?, step, rings_store, Assoc.get?_set] at there
    split at there
    · cases there
      show 0 < ((s.ring h).put p a).1.size
      rw [(exact h).put.1.holds.size]
      exact Queue.length_put_pos s.positive _ p a
    · exact populated host n there
  | purge h =>
    simp only [hostSize?, step, purge, Assoc.get?_erase] at there
    split at there
    · cases there
    · exact populated host n there
  | purgeAll => cases there

/-- What the counters and the contents of a store say about what was done to it since it was `s`. -/
structure Books (s : Store) (os : List Op) (t : Store) : Prop where
  lookups : t.hits + t.misses = total looked s os
  hits : t.hits = total found s os
  stores : t.stores = total stored s os
  evictions : t.evictions = total displaced s os
  entries : t.entries + total displaced s os + total overwritten s os + total removed s os =
    total stored s os

theorem books_after (exact : s.Exact) (fresh : s.Books [] s) (os : List Op) :
    s.Books os (s.after os) := by
  induction os using List.reverseRecOn with
  | nil => exact fresh
  | append_singleton os o ih =>
    have exact' := exact_after exact os
    obtain ⟨looked, found, stored, displaced⟩ := counters_step exact' o
    have entries := entries_step exact' o
    have before := ih.entries
    rw [after_concat]
    constructor <;> simp only [total_concat]
    · rw [looked, ih.lookups]
    · rw [found, ih.hits]
    · rw [stored, ih.stores]
    · rw [displaced, ih.evictions]
    · omega

theorem books_new {capacity : Nat} (made : Store.new capacity = .ok s) : s.Books [] s := by
  unfold Store.new at made
  split at made
  · cases made; exact ⟨rfl, rfl, rfl, rfl, rfl⟩
  · cases made

theorem populated_after (exact : s.Exact) (populated : s.Populated) (os : List Op) :
    (s.after os).Populated := by
  have kept : (s.after os).Exact ∧ (s.after os).Populated :=
    Course.after_keeps (P := fun t => Exact t ∧ Populated t)
      (fun _ o h => ⟨exact_step h.1 o, populated_step h.1 h.2 o⟩) ⟨exact, populated⟩ os
  exact kept.2

theorem hostSize?_le (exact : s.Exact) {n : Nat} (there : s.hostSize? host = some n) :
    n ≤ s.capacity := by
  rw [← hostSize?_eq_some exact there, Queue.paths, List.length_map]
  exact (exact host).fits

def hosts (s : Store) : List String := s.rings.keys

theorem entries_le (exact : s.Exact) : s.entries ≤ s.rings.size * s.capacity := by
  apply Assoc.weigh_le
  rintro ⟨host, r⟩ mem
  have there : s.rings.get? host = some r := Assoc.find_of_mem s.rings.distinct mem
  exact hostSize?_le exact (by rw [hostSize?, there, Option.map_some])

/-- How the counters of a store add up with what these operations on `s` did and with what it holds. -/
structure Balanced (capacity : Nat) (s : Store) (os : List Op) (t : Store) : Prop where
  lookups : t.stats.hits + t.stats.misses = total looked s os
  hits : t.stats.hits = total found s os
  stores : t.stats.stores = total stored s os
  /-- Whatever was stored is still there, was displaced, was overwritten or was removed by a purge that
  counted it. -/
  entries : (t.stats.entries : Int) =
    t.stats.stores - t.stats.evictions - total overwritten s os - total removed s os
  distinct : t.hosts.Nodup
  mem_hosts : ∀ host, host ∈ t.hosts ↔ ∃ n, t.hostSize? host = some n
  hosts : t.stats.hosts = t.hosts.length
  held : t.stats.entries =
    (t.hosts.map fun host => (t.hostSize? host).getD 0).foldr (· + ·) 0
  room : t.stats.capacity = capacity
  fits : t.stats.entries ≤ t.stats.hosts * t.stats.capacity
  populated : ∀ host n, t.hostSize? host = some n → 0 < n ∧ n ≤ capacity
  evictions : t.stats.evictions = total displaced s os
  /-- An eviction is counted for an operation if and only if it stores something for an absent path on a
  host that is full. -/
  evicts : ∀ o, (t.step o).stats.evictions = t.stats.evictions + displaced t o

/-- The counters of a new store add up after all operations, whatever its capacity and their order. -/
theorem adds_up {capacity : Nat} (made : Store.new capacity = .ok s) (os : List Op) :
    Balanced capacity s os (s.after os) := by
  let t := s.after os
  let st := t.stats
  obtain ⟨exact, rfl, fresh⟩ := exact_new made
  have exact' : t.Exact := exact_after exact os
  have capacity : t.capacity = s.capacity := capacity_after s os
  have books : s.Books os t := books_after exact (books_new made) os
  have populated : t.Populated := by
    apply populated_after exact
    intro host n there
    rw [(fresh host).2] at there
    cases there
  refine ⟨books.lookups, books.hits, books.stores, ?_, t.rings.distinct, ?_, ?_, ?_, capacity,
    ?_, ?_, books.evictions, ?_⟩
  · have held : st.entries + total displaced s os + total overwritten s os + total removed s os =
        total stored s os := books.entries
    have stores : st.stores = total stored s os := books.stores
    have evictions : st.evictions = total displaced s os := books.evictions
    show (st.entries : Int) = st.stores - st.evictions - _ - _
    omega
  · intro host
    rw [Store.hosts, Assoc.mem_keys_iff, Option.isSome_iff_exists]
    simp only [hostSize?, Option.map_eq_some_iff]
    constructor
    · rintro ⟨r, there⟩
      exact ⟨_, r, there, rfl⟩
    · rintro ⟨-, r, there, -⟩
      exact ⟨r, there⟩
  · exact (List.length_map _).symm
  · exact Assoc.weigh_eq Ring.size t.rings.distinct
  · exact entries_le exact'
  · intro host n there
    exact ⟨populated host n there, capacity ▸ hostSize?_le exact' there⟩
  · intro o
    exact (counters_step exact' o).2.2.2

/-- Room for two paths of each host. Of five answers one is overwritten, one displaced and two are
removed; of three lookups one finds what it asks for. -/
theorem adds_up_after_purging :
    let s : Store := .empty 2
    let answer (b : UInt8) : Response := ⟨⟨.ok, []⟩, [b]⟩
    let os : List Op := [.store "h" "/a" (answer 1), .get "h" "/a", .store "h" "/b" (answer 2),
      .store "h" "/b" (answer 3), .store "g" "/a" (answer 4), .store "h" "/c" (answer 5),
      .get "h" "/a", .purge "h", .get "h" "/b", .purge "h"]
    Store.new 2 = .ok s ∧
    (s.after os).stats.hits + (s.after os).stats.misses = 3 ∧
    (s.after os).stats.hits = 1 ∧
    (s.after os).stats.stores = 5 ∧
    (s.after os).stats.evictions = 1 ∧
    ((s.after os).stats.entries : Int) = 5 - 1 - 1 - 2 := by
  intro s answer os
  have made : Store.new 2 = .ok s := rfl
  have balanced := adds_up made os
  have looked : total looked s os = 3 := by decide +kernel
  have found : total found s os = 1 := by decide +kernel
  have stored : total stored s os = 5 := by decide +kernel
  have displaced : total displaced s os = 1 := by decide +kernel
  have overwritten : total overwritten s os = 1 := by decide +kernel
  have removed : total removed s os = 2 := by decide +kernel
  have stores := balanced.stores.trans stored
  have evictions := balanced.evictions.trans displaced
  have held := balanced.entries
  rw [stores, evictions, overwritten, removed] at held
  exact ⟨made, balanced.lookups.trans looked, balanced.hits.trans found, stores, evictions, held⟩

end Store
end CachingProxy
