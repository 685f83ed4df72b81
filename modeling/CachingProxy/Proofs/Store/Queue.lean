import Mathlib.Data.List.Basic
import Mathlib.Data.Nat.ModEq
import CachingProxy.Ring

namespace CachingProxy

abbrev Queue := List (String × Response)

namespace Queue

def paths (q : Queue) : List String := q.map Prod.fst

def replace (q : Queue) (p : String) (a : Response) : Queue :=
  q.map fun e => if e.1 = p then (p, a) else e

def put (capacity : Nat) (q : Queue) (p : String) (a : Response) : Queue × Ring.Outcome :=
  if p ∈ q.paths then (q.replace p a, .replaced)
  else if q.length = capacity then (q.tail ++ [(p, a)], .evicted (q.paths.head?.getD ""))
  else (q ++ [(p, a)], .inserted)

variable {q : Queue} {p : String} {a : Response}

theorem paths_replace (q : Queue) (p : String) (a : Response) : (q.replace p a).paths = q.paths := by
  rw [paths, paths, replace, List.map_map]
  apply List.map_congr_left
  intro e _
  by_cases h : e.1 = p <;> simp [h]

theorem mem_paths_iff : p ∈ q.paths ↔ ∃ (k : Nat) (a : Response), q[k]? = some (p, a) := by
  rw [paths, List.mem_map]
  constructor
  · rintro ⟨⟨_, a⟩, mem, rfl⟩
    obtain ⟨k, there⟩ := List.mem_iff_getElem?.mp mem
    exact ⟨k, a, there⟩
  · rintro ⟨k, a, there⟩
    exact ⟨(p, a), List.mem_of_getElem? there, rfl⟩

end Queue

namespace Ring

/-- The slots around from `start` hold the queue, and every path of the queue leads to its slot. -/
structure Holds (r : Ring) (q : Queue) : Prop where
  start : r.start < r.capacity
  slots : r.slots.length = r.capacity
  noted : r.pathAt.length = r.capacity
  size : r.size = q.length
  fits : q.length ≤ r.capacity
  distinct : q.paths.Nodup
  filled : ∀ k p a, q[k]? = some (p, a) →
    r.pathIn (r.slot k) = some p ∧ r.answerIn (r.slot k) = some a
  found : ∀ p i, r.slotOf.get? p = some i ↔ ∃ k a, q[k]? = some (p, a) ∧ r.slot k = i

variable {r : Ring} {q : Queue} {p : String} {a : Response} {i j k : Nat}

theorem holds_empty {capacity : Nat} (positive : 0 < capacity) : (empty capacity).Holds [] where
  start := positive
  slots := List.length_replicate
  noted := List.length_replicate
  size := rfl
  fits := Nat.zero_le _
  distinct := .nil
  filled := by simp
  found := by simp [empty]

theorem slot_inj (fit : i < r.capacity) (fit' : j < r.capacity) :
    r.slot i = r.slot j ↔ i = j := by
  refine ⟨fun same => ?_, congrArg _⟩
  have cong : i % r.capacity = j % r.capacity := Nat.ModEq.add_left_cancel' r.start same
  rwa [Nat.mod_eq_of_lt fit, Nat.mod_eq_of_lt fit'] at cong

theorem slot_lt (positive : 0 < r.capacity) : r.slot k < r.capacity := Nat.mod_lt _ positive

theorem slot_zero (fit : r.start < r.capacity) : r.slot 0 = r.start := Nat.mod_eq_of_lt fit

theorem pathIn_write (fit : i < r.pathAt.length) :
    (r.write i p a).pathIn j = if i = j then some p else r.pathIn j := by
  by_cases h : i = j
  · subst h; simp [write, pathIn, fit]
  · simp [write, pathIn, h]

theorem answerIn_set (fit : i < r.slots.length) :
    answerIn { r with slots := r.slots.set i (some a) } j =
      if i = j then some a else r.answerIn j := by
  by_cases h : i = j
  · subst h; simp [answerIn, fit]
  · simp [answerIn, h]

theorem answerIn_write (fit : i < r.slots.length) :
    (r.write i p a).answerIn j = if i = j then some a else r.answerIn j := answerIn_set fit

theorem Holds.lt (holds : r.Holds q) {e : String × Response} (there : q[k]? = some e) :
    k < r.capacity :=
  Nat.lt_of_lt_of_le (List.getElem?_eq_some_iff.mp there).1 holds.fits

theorem Holds.place_unique (holds : r.Holds q) {b : Response} (there : q[i]? = some (p, a))
    (there' : q[j]? = some (p, b)) : i = j := by
  have path : q.paths[i]? = some p := by simp [Queue.paths, there]
  have path' : q.paths[j]? = some p := by simp [Queue.paths, there']
  have fit := (List.getElem?_eq_some_iff.mp path).1
  exact (List.getElem?_inj fit holds.distinct).mp (path.trans path'.symm)

theorem get?_of_holds (holds : r.Holds q) (p : String) (a : Response) :
    r.get? p = some a ↔ (p, a) ∈ q := by
  rw [get?, Option.bind_eq_some_iff, List.mem_iff_getElem?]
  constructor
  · rintro ⟨i, there, answer⟩
    obtain ⟨k, b, place, rfl⟩ := (holds.found p i).mp there
    rw [(holds.filled k p b place).2] at answer
    cases answer
    exact ⟨k, place⟩
  · rintro ⟨k, place⟩
    exact ⟨r.slot k, (holds.found p _).mpr ⟨k, a, place, rfl⟩, (holds.filled k p a place).2⟩

theorem slotOf_eq_none_iff (holds : r.Holds q) : r.slotOf.get? p = none ↔ p ∉ q.paths := by
  rw [Queue.mem_paths_iff, Option.eq_none_iff_forall_ne_some]
  constructor
  · rintro unknown ⟨k, a, place⟩
    exact unknown _ ((holds.found p _).mpr ⟨k, a, place, rfl⟩)
  · intro absent i there
    obtain ⟨k, a, place, -⟩ := (holds.found p i).mp there
    exact absent ⟨k, a, place⟩

theorem holds_replace (holds : r.Holds q) (there : r.slotOf.get? p = some i) :
    Holds { r with slots := r.slots.set i (some a) } (q.replace p a) := by
  have placed (k : Nat) (v : String) (b : Response) : (q.replace p a)[k]? = some (v, b) ↔
      ∃ c, q[k]? = some (v, c) ∧ b = if v = p then a else c := by
    rw [Queue.replace, List.getElem?_map]
    cases place : q[k]? with
    | none => simp
    | some e =>
      obtain ⟨u, c⟩ := e
      by_cases same : u = p
      · subst same; simp; grind
      · simp [same]; grind
  obtain ⟨k, c, place, rfl⟩ := (holds.found p i).mp there
  have length : (q.replace p a).length = q.length := List.length_map _
  refine ⟨holds.start, by simpa using holds.slots, holds.noted, holds.size.trans length.symm,
    length ▸ holds.fits, (Queue.paths_replace q p a).symm ▸ holds.distinct, ?_, ?_⟩
  · intro j v b place'
    obtain ⟨d, old, rfl⟩ := (placed j v b).mp place'
    obtain ⟨path, answer⟩ := holds.filled j v d old
    refine ⟨path, (answerIn_set ?_).trans ?_⟩
    · exact holds.slots ▸ slot_lt (Nat.zero_lt_of_lt holds.start)
    -- Two places of one queue share a slot only if they are the same.
    by_cases here : v = p
    · subst here
      rw [holds.place_unique place old, if_pos rfl]
      exact if_pos rfl
    · have apart : r.slot k ≠ r.slot j := by
        rw [Ne, slot_inj (holds.lt place) (holds.lt old)]
        rintro rfl
        rw [place] at old
        cases old
        exact here rfl
      rw [if_neg here]
      exact (if_neg apart).trans answer
  · intro v j
    refine (holds.found v j).trans ⟨?_, ?_⟩
    · rintro ⟨l, b, place', rfl⟩
      exact ⟨l, _, (placed l v _).mpr ⟨b, place', rfl⟩, rfl⟩
    · rintro ⟨l, b, place', rfl⟩
      obtain ⟨d, old, -⟩ := (placed l v b).mp place'
      exact ⟨l, d, old, rfl⟩

theorem getElem?_concat {e f : String × Response} :
    (q ++ [e])[k]? = some f ↔ q[k]? = some f ∨ k = q.length ∧ e = f := by
  rcases Nat.lt_trichotomy k q.length with before | here | beyond
  · rw [List.getElem?_append_left before]
    simp [before.ne]
  · subst here
    simp
  · rw [List.getElem?_eq_none (by simp; omega), List.getElem?_eq_none beyond.le]
    simp [beyond.ne']

theorem holds_insert (holds : r.Holds q) (absent : p ∉ q.paths) (free : q.length < r.capacity) :
    Holds ({ r with size := r.size + 1 }.write (r.slot r.size) p a) (q ++ [(p, a)]) := by
  have fresh : r.slot r.size < r.capacity := slot_lt (Nat.zero_lt_of_lt holds.start)
  have apart {k : Nat} {e : String × Response} (there : q[k]? = some e) : r.slot r.size ≠ r.slot k := by
    have before := (List.getElem?_eq_some_iff.mp there).1
    rw [Ne, slot_inj (holds.size ▸ free) (holds.lt there), holds.size]
    omega
  refine ⟨holds.start, ?_, ?_, ?_, ?_, ?_, ?_, ?_⟩
  · simpa [write] using holds.slots
  · simpa [write] using holds.noted
  · simp [write, holds.size]
  · rw [List.length_append]
    exact free
  · rw [Queue.paths, List.map_append, List.nodup_append]
    refine ⟨holds.distinct, by simp, fun u mem v last => ?_⟩
    rintro rfl
    obtain rfl : u = p := List.mem_singleton.mp last
    exact absent mem
  · intro k v b place
    show pathIn (write { r with size := r.size + 1 } (r.slot r.size) p a) (r.slot k) = some v ∧
      answerIn (write { r with size := r.size + 1 } (r.slot r.size) p a) (r.slot k) = some b
    rw [pathIn_write (holds.noted.symm ▸ fresh), answerIn_write (holds.slots.symm ▸ fresh)]
    rcases getElem?_concat.mp place with old | ⟨rfl, same⟩
    · rw [if_neg (apart old), if_neg (apart old)]
      exact holds.filled k v b old
    · cases same
      rw [holds.size, if_pos rfl, if_pos rfl]
      exact ⟨rfl, rfl⟩
  · intro v i
    show (r.slotOf.set p (r.slot r.size)).get? v = some i ↔
      ∃ k b, (q ++ [(p, a)])[k]? = some (v, b) ∧ r.slot k = i
    rw [Assoc.get?_set]
    by_cases here : p = v
    · subst here
      rw [if_pos rfl, Option.some.injEq]
      constructor
      · rintro rfl
        exact ⟨q.length, a, getElem?_concat.mpr (.inr ⟨rfl, rfl⟩), by rw [holds.size]⟩
      · rintro ⟨k, b, place, rfl⟩
        rcases getElem?_concat.mp place with old | ⟨rfl, -⟩
        · exact absurd (Queue.mem_paths_iff.mpr ⟨k, b, old⟩) absent
        · rw [holds.size]
    · rw [if_neg here, holds.found]
      constructor
      · rintro ⟨k, b, old, rfl⟩
        exact ⟨k, b, getElem?_concat.mpr (.inl old), rfl⟩
      · rintro ⟨k, b, place, rfl⟩
        rcases getElem?_concat.mp place with old | ⟨-, same⟩
        · exact ⟨k, b, old, rfl⟩
        · cases same
          exact absurd rfl here

theorem slot_dropOldest (r : Ring) (k : Nat) : r.dropOldest.slot k = r.slot (k + 1) := by
  show ((r.start + 1) % r.capacity + k) % r.capacity = (r.start + (k + 1)) % r.capacity
  rw [Nat.mod_add_mod, Nat.add_assoc, Nat.add_comm 1 k]

theorem slot_capacity (start : r.start < r.capacity) : r.slot r.capacity = r.start := by
  rw [slot, Nat.add_mod_right, Nat.mod_eq_of_lt start]

theorem oldest_eq {e : String × Response} (holds : r.Holds (e :: q)) : r.oldest = e.1 := by
  have path := (holds.filled 0 e.1 e.2 rfl).1
  rw [slot_zero holds.start] at path
  simp [oldest, path]

theorem holds_dropOldest {e : String × Response} (holds : r.Holds (e :: q)) :
    Holds { r.dropOldest with size := q.length } q := by
  have distinct := List.nodup_cons.mp holds.distinct
  have placed {k : Nat} {v : String} {b : Response} (there : q[k]? = some (v, b)) :
      (e :: q)[k + 1]? = some (v, b) := there
  refine ⟨Nat.mod_lt _ (Nat.zero_lt_of_lt holds.start), holds.slots, ?_, rfl,
    Nat.le_of_succ_le holds.fits, distinct.2, ?_, ?_⟩
  · simpa [dropOldest] using holds.noted
  · intro k v b there
    obtain ⟨path, answer⟩ := holds.filled (k + 1) v b (placed there)
    have apart : r.start ≠ r.slot (k + 1) := by
      rw [← slot_zero holds.start, Ne, slot_inj (Nat.zero_lt_of_lt holds.start) (holds.lt (placed there))]
      omega
    show r.dropOldest.pathIn (r.dropOldest.slot k) = some v ∧
      r.answerIn (r.dropOldest.slot k) = some b
    rw [slot_dropOldest]
    refine ⟨?_, answer⟩
    simpa [pathIn, dropOldest, apart] using path
  · intro v i
    show (r.slotOf.erase r.oldest).get? v = some i ↔
      ∃ k b, q[k]? = some (v, b) ∧ r.dropOldest.slot k = i
    rw [Assoc.get?_erase, oldest_eq holds]
    by_cases here : e.1 = v
    · rw [if_pos here]
      refine ⟨nofun, ?_⟩
      rintro ⟨k, b, there, -⟩
      exact absurd (here ▸ Queue.mem_paths_iff.mpr ⟨k, b, there⟩) distinct.1
    · rw [if_neg here, holds.found]
      simp only [slot_dropOldest]
      constructor
      · rintro ⟨k, b, there, rfl⟩
        cases k with
        | zero => cases there; exact absurd rfl here
        | succ k => exact ⟨k, b, there, rfl⟩
      · rintro ⟨k, b, there, rfl⟩
        exact ⟨k + 1, b, placed there, rfl⟩

/-- Putting an answer into the ring is putting it into the queue. -/
theorem holds_put (holds : r.Holds q) (p : String) (a : Response) :
    (r.put p a).1.Holds (q.put r.capacity p a).1 ∧ (r.put p a).2 = (q.put r.capacity p a).2 := by
  cases there : r.slotOf.get? p with
  | some i =>
    have present : p ∈ q.paths := by
      by_contra absent
      rw [(slotOf_eq_none_iff holds).mpr absent] at there
      cases there
    simp only [put, there, Queue.put, if_pos present]
    exact ⟨holds_replace holds there, trivial⟩
  | none =>
    have absent : p ∉ q.paths := (slotOf_eq_none_iff holds).mp there
    simp only [put, there, Queue.put, if_neg absent, holds.size]
    split
    · next full =>
      cases q with
      | nil => exact absurd (Nat.zero_lt_of_lt holds.start) (by simp [← full])
      | cons e q =>
        refine ⟨?_, by rw [oldest_eq holds]; rfl⟩
        -- Dropping the oldest path makes room, and the slot after the last is then the one it had.
        have dropped := holds_dropOldest holds
        have gone : p ∉ Queue.paths q := fun mem => absent (List.mem_cons_of_mem _ mem)
        have inserted := holds_insert (a := a) dropped gone (full ▸ Nat.lt_succ_self _)
        have last : slot { r.dropOldest with size := q.length } q.length = r.start := by
          show r.dropOldest.slot q.length = r.start
          rw [slot_dropOldest, ← slot_capacity holds.start, ← full]
          rfl
        have filled : q.length + 1 = r.size := by rw [holds.size]; rfl
        rw [last] at inserted
        simp only [filled] at inserted
        exact inserted
    · next room =>
      have inserted := holds_insert (a := a) holds absent (Nat.lt_of_le_of_ne holds.fits room)
      rw [holds.size] at inserted
      exact ⟨inserted, rfl⟩

theorem get?_put_self (holds : r.Holds q) (p : String) (a : Response) :
    (r.put p a).1.get? p = some a := by
  rw [get?_of_holds (holds_put holds p a).1]
  simp only [Queue.put]
  split
  · next present =>
    obtain ⟨e, mem, rfl⟩ := List.mem_map.mp present
    exact List.mem_map.mpr ⟨e, mem, if_pos rfl⟩
  · split <;> simp

theorem get?_put_ne (holds : r.Holds q) {v : String} (other : p ≠ v)
    (kept : (r.put p a).2 ≠ .evicted v) : (r.put p a).1.get? v = r.get? v := by
  obtain ⟨holds', outcome⟩ := holds_put holds p a
  suffices same : ∀ b, (v, b) ∈ (q.put r.capacity p a).1 ↔ (v, b) ∈ q by
    apply Option.ext
    intro b
    rw [get?_of_holds holds', get?_of_holds holds, same]
  intro b
  rw [outcome] at kept
  simp only [Queue.put] at kept ⊢
  split
  · rw [Queue.replace, List.mem_map]
    constructor
    · rintro ⟨e, mem, same⟩
      split at same
      · cases same; exact absurd rfl other
      · exact same ▸ mem
    · exact fun mem => ⟨(v, b), mem, if_neg (Ne.symm other)⟩
  · next absent =>
    rw [if_neg absent] at kept
    split
    · next full =>
      rw [if_pos full] at kept
      cases q with
      | nil => simp [other.symm]
      | cons e q =>
        have first : e.1 ≠ v := fun same => kept (congrArg Outcome.evicted same)
        have apart : (v, b) ≠ e := fun same => first (congrArg Prod.fst same).symm
        simp [other.symm, apart]
    · simp [other.symm]

end Ring
end CachingProxy
