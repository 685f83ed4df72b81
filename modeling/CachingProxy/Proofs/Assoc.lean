import Mathlib.Data.List.Basic
import CachingProxy.Assoc

namespace CachingProxy.Assoc

variable {κ α : Type} [DecidableEq κ] {t : Assoc κ α} {l : List (κ × α)} {k : κ} {a : α}

theorem mem_of_find (found : find k l = some a) : (k, a) ∈ l := by
  induction l with
  | nil => cases found
  | cons p r ih =>
    by_cases here : p.1 = k
    · rw [find, if_pos here] at found
      cases found
      exact here ▸ List.mem_cons_self
    · rw [find, if_neg here] at found
      exact List.mem_cons_of_mem _ (ih found)

theorem find_eq_none_of_notMem (absent : k ∉ l.map Prod.fst) : find k l = none := by
  induction l with
  | nil => rfl
  | cons p r ih =>
    rw [List.map_cons, List.mem_cons, not_or] at absent
    rw [find, if_neg (Ne.symm absent.1), ih absent.2]

theorem find_of_mem (distinct : (l.map Prod.fst).Nodup) (mem : (k, a) ∈ l) :
    find k l = some a := by
  induction l with
  | nil => cases mem
  | cons p r ih =>
    obtain ⟨absent, distinct⟩ := List.nodup_cons.mp distinct
    rcases List.mem_cons.mp mem with rfl | mem
    · exact if_pos rfl
    · have other : p.1 ≠ k := by
        rintro rfl
        exact absent (List.mem_map.mpr ⟨_, mem, rfl⟩)
      rw [find, if_neg other, ih distinct mem]

theorem mem_entries (there : t.get? k = some a) : (k, a) ∈ t.entries := mem_of_find there

theorem mem_keys (there : t.get? k = some a) : k ∈ t.keys :=
  List.mem_map_of_mem (f := Prod.fst) (mem_entries there)

theorem get?_eq_some_iff : t.get? k = some a ↔ (k, a) ∈ t.entries :=
  ⟨mem_entries, find_of_mem t.distinct⟩

end CachingProxy.Assoc
