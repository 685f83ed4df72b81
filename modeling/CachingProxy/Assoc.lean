namespace CachingProxy

/-- A table from keys to values; no key occurs twice. -/
structure Assoc (κ α : Type) where
  entries : List (κ × α)
  distinct : (entries.map Prod.fst).Nodup

namespace Assoc

variable {κ α : Type}

def empty : Assoc κ α := ⟨[], .nil⟩

instance : Inhabited (Assoc κ α) := ⟨empty⟩

def size (t : Assoc κ α) : Nat := t.entries.length

def keys (t : Assoc κ α) : List κ := t.entries.map Prod.fst

def values (t : Assoc κ α) : List α := t.entries.map Prod.snd

def mapValues (t : Assoc κ α) (f : α → α) : Assoc κ α :=
  ⟨t.entries.map fun p => (p.1, f p.2), by
    simpa [List.map_map, Function.comp_def] using t.distinct⟩

variable [DecidableEq κ]

def find (k : κ) : List (κ × α) → Option α
  | [] => none
  | (j, a) :: r => if j = k then some a else find k r

def place (k : κ) (a : α) : List (κ × α) → List (κ × α)
  | [] => [(k, a)]
  | (j, b) :: r => if j = k then (k, a) :: r else (j, b) :: place k a r

theorem map_fst_place (k : κ) (a : α) (l : List (κ × α)) :
    (place k a l).map Prod.fst =
      if k ∈ l.map Prod.fst then l.map Prod.fst else l.map Prod.fst ++ [k] := by
  induction l with
  | nil => rfl
  | cons p r ih =>
    obtain ⟨j, b⟩ := p
    by_cases h : j = k
    · subst h; simp [place]
    · have hk : ¬ k = j := fun e => h e.symm
      simp only [place, h, if_false, List.map_cons, ih, List.mem_cons, hk, false_or]
      split <;> rfl

theorem nodup_place (k : κ) (a : α) {l : List (κ × α)} (h : (l.map Prod.fst).Nodup) :
    ((place k a l).map Prod.fst).Nodup := by
  rw [map_fst_place]
  split
  · exact h
  · next hk =>
    rw [List.nodup_append]
    exact ⟨h, by simp, fun x hx y hy e => hk (by simp_all)⟩

def get? (t : Assoc κ α) (k : κ) : Option α := find k t.entries

def contains (t : Assoc κ α) (k : κ) : Bool := (t.get? k).isSome

def set (t : Assoc κ α) (k : κ) (a : α) : Assoc κ α :=
  ⟨place k a t.entries, nodup_place k a t.distinct⟩

def erase (t : Assoc κ α) (k : κ) : Assoc κ α :=
  ⟨t.entries.filter fun p => decide (p.1 ≠ k),
    t.distinct.sublist (List.filter_sublist.map Prod.fst)⟩

/-- The value of `k` changed by `f`; `d` stands in for an absent one. -/
def alter (t : Assoc κ α) (k : κ) (d : α) (f : α → α) : Assoc κ α :=
  t.set k (f ((t.get? k).getD d))

theorem find_place (k j : κ) (a : α) (l : List (κ × α)) :
    find j (place k a l) = if k = j then some a else find j l := by
  induction l with
  | nil => simp [place, find]
  | cons p r ih =>
    obtain ⟨i, b⟩ := p
    by_cases h : i = k
    · subst h; by_cases hj : i = j <;> simp [place, find, hj]
    · by_cases hj : i = j
      · subst hj; simp [place, find, h, Ne.symm h]
      · simp [place, find, h, hj, ih]

@[simp] theorem get?_empty (k : κ) : (empty : Assoc κ α).get? k = none := rfl

theorem get?_set (t : Assoc κ α) (k j : κ) (a : α) :
    (t.set k a).get? j = if k = j then some a else t.get? j := find_place k j a t.entries

theorem get?_erase (t : Assoc κ α) (k j : κ) :
    (t.erase k).get? j = if k = j then none else t.get? j := by
  obtain ⟨l, h⟩ := t
  simp only [get?, erase]
  induction l with
  | nil => simp [find]
  | cons p r ih =>
    obtain ⟨i, b⟩ := p
    have ih := ih (List.nodup_cons.1 h).2
    by_cases hi : i = k
    · subst hi; by_cases hj : i = j <;> simp_all [find]
    · by_cases hj : i = j
      · subst hj; simp [find, hi, Ne.symm hi]
      · simpa [find, hi, hj] using ih

theorem get?_mapValues (t : Assoc κ α) (f : α → α) (k : κ) :
    (t.mapValues f).get? k = (t.get? k).map f := by
  obtain ⟨l, h⟩ := t
  simp only [get?, mapValues]
  clear h
  induction l with
  | nil => rfl
  | cons p r ih =>
    by_cases hk : p.1 = k
    · simp [find, hk]
    · simpa [find, hk] using ih

theorem mem_keys_iff (t : Assoc κ α) (k : κ) : k ∈ t.keys ↔ (t.get? k).isSome := by
  obtain ⟨l, h⟩ := t
  simp only [keys, get?]
  clear h
  induction l with
  | nil => simp [find]
  | cons p r ih =>
    obtain ⟨i, b⟩ := p
    by_cases hi : i = k
    · subst hi; simp [find]
    · have hk : ¬ k = i := fun e => hi e.symm
      simp [find, hi, hk, ← ih]

end Assoc
end CachingProxy
