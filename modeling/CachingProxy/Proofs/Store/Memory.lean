import CachingProxy.Proofs.Store.Queue

namespace CachingProxy.Queue

variable {capacity : Nat} {q : Queue} {path p : String} {a : Response} {last? : Option Response}
  {later : List String}

/-- The queue has the path with the answer that was stored last and, after it, the paths that came
anew since; or it does not have the path, because nothing was stored or too many others came. -/
def Remembers (capacity : Nat) (q : Queue) (path : String) (last? : Option Response)
    (later : List String) : Prop :=
  (∃ front a back, q = front ++ (path, a) :: back ∧ last? = some a ∧ later = paths back) ∨
    path ∉ q.paths ∧ (last? = none ∨ capacity ≤ later.length)

@[simp] theorem paths_append (q r : Queue) : paths (q ++ r) = q.paths ++ paths r := List.map_append

@[simp] theorem paths_cons (e : String × Response) (q : Queue) : paths (e :: q) = e.1 :: q.paths := rfl

@[simp] theorem paths_nil : paths [] = [] := rfl

theorem remembers_replace (kept : q.Remembers capacity path last? later) (present : p ∈ q.paths) :
    (q.replace p a).Remembers capacity path (if p = path then some a else last?) later := by
  obtain ⟨front, b, back, rfl, rfl, rfl⟩ | ⟨absent, unkept⟩ := kept
  · refine .inl ⟨replace front p a, if p = path then a else b, replace back p a, ?_, ?_, ?_⟩
    · by_cases same : p = path
      · subst same
        simp [replace]
      · simp [replace, same, Ne.symm same]
    · by_cases same : p = path <;> simp [same]
    · exact (paths_replace back p a).symm
  · have other : p ≠ path := by
      rintro rfl
      exact absent present
    rw [if_neg other]
    exact .inr ⟨paths_replace q p a ▸ absent, unkept⟩

theorem remembers_newest (q : Queue) :
    (q ++ [(path, a)]).Remembers capacity path (some a) [] :=
  .inl ⟨q, a, [], rfl, rfl, rfl⟩

theorem remembers_concat (kept : q.Remembers capacity path last? later) (other : p ≠ path) :
    (q ++ [(p, a)]).Remembers capacity path last? (later ++ [p]) := by
  obtain ⟨front, b, back, rfl, rfl, rfl⟩ | ⟨absent, unkept⟩ := kept
  · exact .inl ⟨front, b, back ++ [(p, a)], by simp, rfl, by simp⟩
  · refine .inr ⟨by simp [absent, other.symm], unkept.imp_right fun many => ?_⟩
    rw [List.length_append]
    omega

theorem remembers_tail_concat {e : String × Response} (distinct : (paths (e :: q)).Nodup)
    (full : (e :: q).length = capacity) (kept : Remembers capacity (e :: q) path last? later)
    (other : p ≠ path) : (q ++ [(p, a)]).Remembers capacity path last? (later ++ [p]) := by
  obtain ⟨front, b, back, split, rfl, rfl⟩ | ⟨absent, unkept⟩ := kept
  · cases front with
    | nil =>
      -- The path itself is given up, and all that is left has come since.
      obtain ⟨rfl, rfl⟩ := List.cons.inj split
      have gone : path ∉ paths q := (List.nodup_cons.mp distinct).1
      refine .inr ⟨by simp [gone, other.symm], .inr ?_⟩
      rw [List.length_append, paths, List.length_map, ← full]
      simp
    | cons f front =>
      obtain ⟨rfl, rfl⟩ := List.cons.inj split
      exact .inl ⟨front, b, back ++ [(p, a)], by simp, rfl, by simp⟩
  · have still : path ∉ paths q := fun mem => absent (List.mem_cons_of_mem _ mem)
    exact remembers_concat (.inr ⟨still, unkept⟩) other

theorem remembers_put (positive : 0 < capacity) (distinct : q.paths.Nodup)
    (kept : q.Remembers capacity path last? later) (p : String) (a : Response) :
    (q.put capacity p a).1.Remembers capacity path (if p = path then some a else last?)
      (if p ∈ q.paths then later else if p = path then [] else later ++ [p]) := by
  unfold put
  by_cases present : p ∈ q.paths
  · simp only [if_pos present]
    exact remembers_replace kept present
  · simp only [if_neg present]
    by_cases same : p = path
    · subst same
      simp only [if_pos]
      split <;> exact remembers_newest _
    · simp only [if_neg same]
      split
      · next full =>
        cases q with
        | nil => exact absurd full positive.ne
        | cons e q => exact remembers_tail_concat distinct full kept same
      · exact remembers_concat kept same

theorem Remembers.mem_iff (kept : q.Remembers capacity path last? later) (distinct : q.paths.Nodup)
    (fits : q.length ≤ capacity) : (path, a) ∈ q ↔ last? = some a ∧ later.length < capacity := by
  obtain ⟨front, b, back, rfl, rfl, rfl⟩ | ⟨absent, unkept⟩ := kept
  · have short : (paths back).length < capacity := by
      rw [List.length_append, List.length_cons] at fits
      rw [paths, List.length_map]
      omega
    have alone : path ∉ paths front ∧ path ∉ paths back := by
      simp only [paths_append, paths_cons, List.nodup_append, List.nodup_cons, List.mem_cons] at distinct
      exact ⟨fun mem => distinct.2.2 _ mem _ (.inl rfl) rfl, distinct.2.1.1⟩
    have elsewhere : (path, a) ∉ front ∧ (path, a) ∉ back :=
      ⟨fun mem => alone.1 (List.mem_map_of_mem mem), fun mem => alone.2 (List.mem_map_of_mem mem)⟩
    rw [and_iff_left short, Option.some.injEq, List.mem_append, List.mem_cons, Prod.mk.injEq]
    simp [elsewhere, eq_comm]
  · constructor
    · intro mem
      exact absurd (List.mem_map_of_mem mem) absent
    · rintro ⟨rfl, few⟩
      obtain nothing | many := unkept
      · cases nothing
      · omega

end CachingProxy.Queue
