import Mathlib.Data.List.Nodup
import Mathlib.Data.List.Perm.Subperm
import CachingProxy.Proofs.Assoc
import CachingProxy.Proofs.Store.View

namespace CachingProxy.Ring

variable {r : Ring} {q : Queue} {p : String} {i : Nat}

/-- The lists are as long as the capacity and the start is among their places, whatever is noted. -/
structure Shaped (r : Ring) : Prop where
  start : r.start < r.capacity
  slots : r.slots.length = r.capacity
  noted : r.pathAt.length = r.capacity

def LeadsBack (r : Ring) : Prop := ∀ i p, r.pathIn i = some p → r.slotOf.get? p = some i

/-- A ring that holds a queue and notes nothing else. -/
structure Sound (r : Ring) : Prop where
  holds : ∃ q, r.Holds q
  back : r.LeadsBack

theorem Holds.shaped (holds : r.Holds q) : r.Shaped := ⟨holds.start, holds.slots, holds.noted⟩

theorem Sound.shaped (sound : r.Sound) : r.Shaped :=
  let ⟨_, holds⟩ := sound.holds
  holds.shaped

theorem forwardOk_iff : r.forwardOk = true ↔ ∀ p i, r.slotOf.get? p = some i →
    i < r.capacity ∧ r.pathIn i = some p ∧ (r.answerIn i).isSome = true := by
  simp [forwardOk, Assoc.get?_eq_some_iff, and_assoc]

theorem backwardOk_iff : r.backwardOk = true ↔ r.LeadsBack := by
  simp only [backwardOk, LeadsBack, List.all_eq_true, Prod.forall, List.mem_zipIdx_iff_getElem?,
    Option.all_eq_true, beq_iff_eq, pathIn, Option.join_eq_some_iff]
  constructor
  · intro each i p there
    exact each (some p) i there p rfl
  · rintro each noted i there p rfl
    exact each i p there

theorem liveOk_iff : r.liveOk = true ↔ ∀ k < r.size, (r.pathIn (r.slot k)).isSome = true := by
  simp [liveOk]

theorem isConsistent_iff : r.isConsistent = true ↔ r.slotOf.size = r.size ∧ r.size ≤ r.capacity ∧
    r.forwardOk = true ∧ r.backwardOk = true ∧ r.liveOk = true := by
  simp only [isConsistent, Bool.and_eq_true, beq_iff_eq, decide_eq_true_eq, and_assoc]

theorem exists_list {α : Type} {P : Nat → α → Prop} {n : Nat} (each : ∀ k < n, ∃ a, P k a) :
    ∃ l : List α, l.length = n ∧ ∀ k a, l[k]? = some a → P k a := by
  choose f holds using each
  refine ⟨List.ofFn fun k : Fin n => f k k.2, List.length_ofFn, fun k a there => ?_⟩
  obtain ⟨fit, rfl⟩ := List.getElem?_eq_some_iff.mp there
  rw [List.getElem_ofFn]
  exact holds _ _

/-- The live slots note the paths and hold the answers of the queue. -/
structure Lists (r : Ring) (q : Queue) : Prop where
  length : q.length = r.size
  filled : ∀ k p a, q[k]? = some (p, a) →
    r.pathIn (r.slot k) = some p ∧ r.answerIn (r.slot k) = some a

theorem exists_lists (ok : r.isConsistent = true) : ∃ q, r.Lists q := by
  obtain ⟨-, -, forward, backward, live⟩ := isConsistent_iff.mp ok
  have each : ∀ k < r.size, ∃ e : String × Response,
      r.pathIn (r.slot k) = some e.1 ∧ r.answerIn (r.slot k) = some e.2 := by
    intro k within
    obtain ⟨p, path⟩ := Option.isSome_iff_exists.mp (liveOk_iff.mp live k within)
    obtain ⟨-, -, answered⟩ := forwardOk_iff.mp forward p _ (backwardOk_iff.mp backward _ p path)
    obtain ⟨a, answer⟩ := Option.isSome_iff_exists.mp answered
    exact ⟨(p, a), path, answer⟩
  obtain ⟨q, length, filled⟩ := exists_list each
  exact ⟨q, length, fun k p a there => filled k (p, a) there⟩

theorem Lists.leads (lists : r.Lists q) (back : r.LeadsBack) {k : Nat} {e : String × Response}
    (there : q[k]? = some e) : r.slotOf.get? e.1 = some (r.slot k) :=
  back _ _ (lists.filled k e.1 e.2 there).1

theorem Lists.distinct (lists : r.Lists q) (back : r.LeadsBack) (fits : r.size ≤ r.capacity) :
    q.paths.Nodup := by
  rw [Queue.paths, List.nodup_iff_getElem?_ne_getElem?]
  intro i j before within same
  rw [List.length_map] at within
  have bound : q.length ≤ r.capacity := lists.length ▸ fits
  have first : q[i]? = some q[i] := List.getElem?_eq_getElem (before.trans within)
  have second : q[j]? = some q[j] := List.getElem?_eq_getElem within
  rw [List.getElem?_map, List.getElem?_map, first, second] at same
  have path : q[i].1 = q[j].1 := Option.some.inj same
  have slot : r.slot i = r.slot j :=
    Option.some.inj ((lists.leads back first).symm.trans (path ▸ lists.leads back second))
  exact before.ne ((slot_inj (by omega) (by omega)).mp slot)

theorem Lists.perm_keys (lists : r.Lists q) (back : r.LeadsBack) (fits : r.size ≤ r.capacity)
    (count : r.slotOf.size = r.size) : q.paths.Perm r.slotOf.keys := by
  have among : q.paths ⊆ r.slotOf.keys := by
    intro p mem
    obtain ⟨k, a, there⟩ := Queue.mem_paths_iff.mp mem
    exact Assoc.mem_keys (lists.leads back there)
  apply ((lists.distinct back fits).subperm among).perm_of_length_le
  rw [Assoc.keys, List.length_map, Queue.paths, List.length_map, lists.length, ← count, Assoc.size]

/-- A ring that passes the check holds the paths of its live slots with their answers. -/
theorem sound_of_isConsistent (shaped : r.Shaped) (ok : r.isConsistent = true) : r.Sound := by
  obtain ⟨count, fits, -, backward, -⟩ := isConsistent_iff.mp ok
  have back := backwardOk_iff.mp backward
  obtain ⟨q, lists⟩ := exists_lists ok
  refine ⟨⟨q, shaped.start, shaped.slots, shaped.noted, lists.length.symm, lists.length ▸ fits,
    lists.distinct back fits, lists.filled, fun p i => ?_⟩, back⟩
  constructor
  · intro there
    have mem := (lists.perm_keys back fits count).mem_iff.mpr (Assoc.mem_keys there)
    obtain ⟨k, a, place⟩ := Queue.mem_paths_iff.mp mem
    exact ⟨k, a, place, Option.some.inj ((lists.leads back place).symm.trans there)⟩
  · rintro ⟨k, a, place, rfl⟩
    exact lists.leads back place

theorem Sound.isConsistent (sound : r.Sound) : r.isConsistent = true := by
  obtain ⟨⟨q, holds⟩, back⟩ := sound
  refine isConsistent_iff.mpr ⟨?_, holds.size ▸ holds.fits, forwardOk_iff.mpr fun p i there => ?_,
    backwardOk_iff.mpr back, liveOk_iff.mpr fun k within => ?_⟩
  · have known : r.slotOf.keys.Perm q.paths := by
      refine (List.perm_ext_iff_of_nodup r.slotOf.distinct holds.distinct).mpr fun p => ?_
      rw [← not_iff_not, ← slotOf_eq_none_iff holds, ← Option.not_isSome_iff_eq_none,
        ← Assoc.mem_keys_iff]
      rfl
    have length := known.length_eq
    rwa [Assoc.keys, Queue.paths, List.length_map, List.length_map, ← holds.size] at length
  · obtain ⟨k, a, place, rfl⟩ := (holds.found p i).mp there
    obtain ⟨path, answer⟩ := holds.filled k p a place
    exact ⟨slot_lt (Nat.zero_lt_of_lt holds.start), path, answer ▸ rfl⟩
  · rw [holds.size] at within
    rw [(holds.filled k _ _ (List.getElem?_eq_getElem within)).1]
    rfl

theorem Sound.pathIn_eq_none (sound : r.Sound) (outside : ∀ k < r.size, r.slot k ≠ i) :
    r.pathIn i = none := by
  obtain ⟨⟨q, holds⟩, back⟩ := sound
  rw [Option.eq_none_iff_forall_ne_some]
  intro p there
  obtain ⟨k, a, place, here⟩ := (holds.found p i).mp (back i p there)
  exact outside k (holds.size ▸ (List.getElem?_eq_some_iff.mp place).1) here

theorem sound_empty {capacity : Nat} (positive : 0 < capacity) : (empty capacity).Sound := by
  refine ⟨⟨[], holds_empty positive⟩, fun i p there => ?_⟩
  have nothing : (empty capacity).pathIn i = none := by
    rw [pathIn, empty, List.getElem?_replicate]
    split <;> rfl
  rw [nothing] at there
  cases there

theorem leadsBack_write (back : r.LeadsBack) (fit : i < r.pathAt.length)
    (unknown : r.slotOf.get? p = none) (a : Response) : (r.write i p a).LeadsBack := by
  intro j v there
  rw [pathIn_write fit] at there
  show (r.slotOf.set p i).get? v = some j
  rw [Assoc.get?_set]
  split at there
  · next here =>
    cases there
    rw [if_pos rfl, here]
  · have old := back j v there
    have other : p ≠ v := by
      rintro rfl
      rw [unknown] at old
      cases old
    rw [if_neg other, old]

theorem leadsBack_dropOldest (back : r.LeadsBack) (fit : r.start < r.pathAt.length)
    (oldest : r.pathIn r.start = some r.oldest) : r.dropOldest.LeadsBack := by
  intro j v there
  have elsewhere : r.start ≠ j := by
    rintro rfl
    simp [dropOldest, pathIn, fit] at there
  have old : r.slotOf.get? v = some j := by
    apply back
    simpa [dropOldest, pathIn, elsewhere] using there
  have other : r.oldest ≠ v := by
    intro same
    rw [← same, back _ _ oldest] at old
    exact elsewhere (Option.some.inj old)
  show (r.slotOf.erase r.oldest).get? v = some j
  rw [Assoc.get?_erase, if_neg other, old]

theorem pathIn_start (holds : r.Holds q) (full : r.size = r.capacity) :
    r.pathIn r.start = some r.oldest := by
  cases q with
  | nil => exact absurd (Nat.zero_lt_of_lt holds.start) (by simp [← full, holds.size])
  | cons e q =>
    have path := (holds.filled 0 e.1 e.2 rfl).1
    rwa [slot_zero holds.start, ← oldest_eq holds] at path

theorem Sound.put (sound : r.Sound) (p : String) (a : Response) : (r.put p a).1.Sound := by
  obtain ⟨⟨q, holds⟩, back⟩ := sound
  refine ⟨⟨_, (holds_put holds p a).1⟩, ?_⟩
  unfold Ring.put
  split
  · exact back
  · next unknown =>
    split
    · next full =>
      have fit : r.start < r.pathAt.length := holds.noted.symm ▸ holds.start
      apply leadsBack_write (leadsBack_dropOldest back fit (pathIn_start holds full))
      · rw [dropOldest, List.length_set]
        exact fit
      · show (r.slotOf.erase r.oldest).get? p = none
        rw [Assoc.get?_erase, unknown, ite_self]
    · refine leadsBack_write (r := { r with size := r.size + 1 }) back ?_ unknown a
      exact holds.noted.symm ▸ slot_lt (Nat.zero_lt_of_lt holds.start)

theorem sound_after (sound : r.Sound) (es : List (String × Response)) : (r.after es).Sound :=
  Course.after_keeps (P := Sound) (fun _ e sound => sound.put e.1 e.2) sound es

def write? (r : Ring) (i : Nat) (path : String) (a : Response) : Option Ring :=
  if i < r.capacity then some (r.write i path a) else none

/-- Putting an answer, given up where it would go to a slot that there is not, or where a full ring has
no path noted in the slot that it has to reuse. -/
def put? (r : Ring) (path : String) (a : Response) : Option (Ring × Outcome) :=
  match r.slotOf.get? path with
  | some i =>
    if i < r.capacity then some ({ r with slots := r.slots.set i (some a) }, .replaced) else none
  | none =>
    if r.size = r.capacity then do
      let gone ← if r.start < r.capacity then r.pathIn r.start else none
      let dropped := { r with
        pathAt := r.pathAt.set r.start none
        slotOf := r.slotOf.erase gone
        start := (r.start + 1) % r.capacity }
      return (← dropped.write? r.start path a, .evicted gone)
    else return (← { r with size := r.size + 1 }.write? (r.slot r.size) path a, .inserted)

theorem Sound.put?_eq (sound : r.Sound) (p : String) (a : Response) :
    r.put? p a = some (r.put p a) := by
  obtain ⟨⟨q, holds⟩, -⟩ := sound
  have positive := Nat.zero_lt_of_lt holds.start
  cases there : r.slotOf.get? p with
  | some i =>
    obtain ⟨k, -, -, rfl⟩ := (holds.found p i).mp there
    simp only [put?, Ring.put, there, if_pos (slot_lt positive)]
  | none =>
    by_cases full : r.size = r.capacity
    · have oldest := pathIn_start holds full
      simp [put?, Ring.put, there, full, oldest, write?, holds.start, dropOldest]
    · have room : r.slot r.size < r.capacity := slot_lt positive
      simp only [put?, Ring.put, there, if_neg full, write?, if_pos room]
      rfl

/-- For every ring with a start and lists that fit its capacity, no matter how it came about. If the two
notes pass the check, there are as many paths as live slots, no two of them the same, just these are
found, and the other slots note nothing. A put then goes to slots that there are, has a path to give up
where it needs one, and leaves a ring of which all this is true again. It is true of every ring that puts
have made out of an empty one. -/
theorem consistent_throughout (shaped : r.Shaped) (ok : r.isConsistent = true) :
    r.paths.length = r.size ∧ r.paths.Nodup ∧
    (∀ p, (r.get? p).isSome = true ↔ p ∈ r.paths) ∧
    (∀ i, (∀ k < r.size, r.slot k ≠ i) → r.pathIn i = none) ∧
    (∀ p a, r.put? p a = some (r.put p a) ∧ (r.put p a).1.capacity = r.capacity ∧
      (r.put p a).1.Shaped ∧ (r.put p a).1.isConsistent = true) ∧
    ∀ capacity, 0 < capacity → ∀ es, ((empty capacity).after es).isConsistent = true := by
  have sound := sound_of_isConsistent shaped ok
  obtain ⟨q, holds⟩ := sound.holds
  have paths := paths_of_holds holds
  refine ⟨?_, paths ▸ holds.distinct, fun p => ?_, fun i => sound.pathIn_eq_none, fun p a => ?_,
    fun capacity positive es => (sound_after (sound_empty positive) es).isConsistent⟩
  · rw [paths, Queue.paths, List.length_map, holds.size]
  · rw [paths, Option.isSome_iff_ne_none, ne_eq, get?_eq_none_iff holds, not_not]
  · have kept := sound.put p a
    exact ⟨sound.put?_eq p a, capacity_put p a, kept.shaped, kept.isConsistent⟩

def shifted (a : Response) : Ring :=
  ⟨3, 1, 2, [some a, none, some a], [none, none, some "/a"], Assoc.empty.set "/a" 2⟩

/-- The next put goes around the end. -/
theorem consistent_throughout_around :
    let r := shifted ⟨⟨.ok, []⟩, []⟩
    r.Shaped ∧ r.isConsistent = true ∧ r.paths = ["/a"] ∧ r.pathIn 0 = none ∧
    let (r', o) := r.put "/b" ⟨⟨.ok, []⟩, [1]⟩
    r.put? "/b" ⟨⟨.ok, []⟩, [1]⟩ = some (r', o) ∧ o = .inserted ∧ r'.pathIn 0 = some "/b" ∧
    r'.isConsistent = true := by
  intro r
  have shaped : r.Shaped := ⟨by decide, rfl, rfl⟩
  have ok : r.isConsistent = true := by decide
  obtain ⟨-, -, -, quiet, kept, -⟩ := consistent_throughout shaped ok
  obtain ⟨within, -, -, consistent⟩ := kept "/b" ⟨⟨.ok, []⟩, [1]⟩
  exact ⟨shaped, ok, by decide, quiet 0 (by decide), within, by decide, by decide, consistent⟩

end CachingProxy.Ring
