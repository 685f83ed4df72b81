import Mathlib.Data.List.DropRight
import CachingProxy.Proofs.Store.Calls
import CachingProxy.Proofs.Store.Memory
import CachingProxy.Proofs.Store.View

namespace CachingProxy.Store

variable {s : Store} {host path : String} {os : List Op} {o : Op}

def queue (s : Store) (host : String) : Queue := (s.ring host).view

namespace Op

def clears (host : String) : Op → Bool
  | purge h => h = host
  | purgeAll => true
  | get _ _ | store _ _ _ => false

/-- What was done since a host was last forgotten. -/
def since (host : String) (os : List Op) : List Op := os.rtakeWhile fun o => !o.clears host

/-- The answers stored for a path of a host since it was last forgotten. -/
def written (host path : String) (os : List Op) : List Response :=
  (since host os).filterMap fun
    | store h p a => if h = host ∧ p = path then some a else none
    | _ => none

end Op

def arrival (host : String) (s : Store) : Op → List String
  | .store h p _ => if h = host ∧ s.peek h p = none then [p] else []
  | _ => []

/-- The paths that come anew to a host, in order, whether or not they stay. -/
def arrivals (host : String) (s : Store) (os : List Op) : List String :=
  Course.noted step (arrival host) s os

/-- Those that have come anew since a path last did. -/
def arrivalsSince (host path : String) (s : Store) (os : List Op) : List String :=
  (arrivals host s os).rtakeWhile fun p => p ≠ path

theorem ring_step (s : Store) (o : Op) (host : String) :
    (s.step o).ring host =
      match o with
      | .get _ _ => s.ring host
      | .store h p a => if h = host then ((s.ring h).put p a).1 else s.ring host
      | .purge h => if h = host then .empty s.capacity else s.ring host
      | .purgeAll => .empty s.capacity := by
  cases o with
  | get h p =>
    have capacity := capacity_get s h p
    simp only [step, ring, rings_get, capacity]
  | store h p a =>
    have capacity := capacity_store s h p a
    simp only [step, ring, rings_store, Assoc.get?_set, capacity]
    by_cases here : h = host <;> simp [here]
  | purge h =>
    simp only [step, purge, ring, Assoc.get?_erase]
    by_cases here : h = host <;> simp [here]
  | purgeAll => rfl

/-- That every ring holds its queue and has room for as many answers as the store says. -/
def Exact (s : Store) : Prop := ∀ host, (s.ring host).Shows s.capacity (s.queue host)

theorem exact_step (exact : s.Exact) (o : Op) : (s.step o).Exact := by
  intro host
  have same : (s.step o).capacity = s.capacity := capacity_call s (.act o)
  rw [queue, ring_step, same]
  cases o with
  | get h p => exact exact host
  | store h p a =>
    dsimp only
    split
    · exact (exact h).put.1.view
    · exact exact host
  | purge h =>
    dsimp only
    split
    · exact (Ring.shows_empty s.positive).view
    · exact exact host
  | purgeAll => exact (Ring.shows_empty s.positive).view

theorem queue_eq {q : Queue} {capacity : Nat} (shows : (s.ring host).Shows capacity q) :
    s.queue host = q :=
  Ring.view_of_holds shows.holds

theorem queue_of_ring_eq {t : Store} (same : t.ring host = s.ring host) :
    t.queue host = s.queue host :=
  congrArg Ring.view same

theorem queue_step (exact : s.Exact) (o : Op) (host : String) :
    (s.step o).queue host =
      match o with
      | .get _ _ => s.queue host
      | .store h p a => if h = host then ((s.queue h).put s.capacity p a).1 else s.queue host
      | .purge h => if h = host then [] else s.queue host
      | .purgeAll => [] := by
  have empty := Ring.view_of_holds (Ring.holds_empty s.positive)
  have ring := ring_step s o host
  cases o with
  | get h p => exact queue_of_ring_eq ring
  | store h p a =>
    by_cases here : h = host
    · simp only [if_pos here] at ring ⊢
      exact queue_eq (ring ▸ (exact h).put.1)
    · simp only [if_neg here] at ring ⊢
      exact queue_of_ring_eq ring
  | purge h =>
    by_cases here : h = host
    · simp only [if_pos here] at ring ⊢
      rw [queue, ring, empty]
    · simp only [if_neg here] at ring ⊢
      exact queue_of_ring_eq ring
  | purgeAll => rw [queue, ring, empty]

theorem peek_eq (s : Store) (host path : String) : s.peek host path = (s.ring host).get? path := by
  rw [peek, ring]
  cases s.rings.get? host <;> rfl

theorem peek_eq_some_iff (exact : s.Exact) {a : Response} :
    s.peek host path = some a ↔ (path, a) ∈ s.queue host := by
  rw [peek_eq]
  exact Ring.get?_of_holds (exact host).holds path a

theorem stored_of_peek_step (exact : s.Exact) {a : Response}
    (there : (s.step o).peek host path = some a) :
    o = .store host path a ∨ s.peek host path = some a := by
  rw [peek_eq_some_iff (exact_step exact o), queue_step exact] at there
  rw [peek_eq_some_iff exact]
  cases o with
  | get h p => exact .inr there
  | store h p b =>
    dsimp only at there
    split at there
    · next here =>
      subst here
      unfold Queue.put at there
      have newest (mem : (path, a) ∈ [(p, b)]) : Op.store h p b = .store h path a := by
        cases List.mem_singleton.mp mem
        rfl
      split at there
      · obtain ⟨e, mem, same⟩ := List.mem_map.mp there
        split at same
        · exact .inl (newest (List.mem_singleton.mpr same.symm))
        · exact .inr (same ▸ mem)
      · split at there
        · obtain old | new := List.mem_append.mp there
          · exact .inr (List.mem_of_mem_tail old)
          · exact .inl (newest new)
        · obtain old | new := List.mem_append.mp there
          · exact .inr old
          · exact .inl (newest new)
    · exact .inr there
  | purge h =>
    dsimp only at there
    split at there
    · cases there
    · exact .inr there
  | purgeAll => cases there

theorem peek_eq_none_iff (exact : s.Exact) : s.peek host path = none ↔ path ∉ (s.queue host).paths := by
  rw [peek_eq]
  exact Ring.get?_eq_none_iff (exact host).holds

namespace Op

theorem since_concat (host : String) (os : List Op) (o : Op) :
    since host (os ++ [o]) = if o.clears host then [] else since host os ++ [o] := by
  rw [since, List.rtakeWhile_concat]
  cases o.clears host <;> rfl

theorem written_concat (host path : String) (os : List Op) (o : Op) :
    (written host path (os ++ [o])).getLast? =
      match o with
      | .get _ _ => (written host path os).getLast?
      | .store h p a => if h = host ∧ p = path then some a else (written host path os).getLast?
      | .purge h => if h = host then none else (written host path os).getLast?
      | .purgeAll => none := by
  rw [written, since_concat]
  cases o with
  | get h p => simp [clears, written]
  | store h p a => by_cases here : h = host ∧ p = path <;> simp [clears, written, here]
  | purge h => by_cases here : h = host <;> simp [clears, written, here]
  | purgeAll => simp [clears]

end Op

theorem after_concat (s : Store) (os : List Op) (o : Op) : s.after (os ++ [o]) = (s.after os).step o :=
  Course.after_append step s os [o]

theorem capacity_after (s : Store) (os : List Op) : (s.after os).capacity = s.capacity :=
  Course.after_keeps (P := fun t : Store => t.capacity = s.capacity)
    (fun t o same => (capacity_call t (.act o)).trans same) rfl os

theorem exact_after (exact : s.Exact) (os : List Op) : (s.after os).Exact :=
  Course.after_keeps (P := Exact) (fun _ o exact => exact_step exact o) exact os

theorem stored_of_peek_after (exact : s.Exact) {a : Response}
    (there : (s.after os).peek host path = some a) :
    .store host path a ∈ os ∨ s.peek host path = some a := by
  induction os generalizing s with
  | nil => exact .inr there
  | cons o os ih =>
    obtain later | before := ih (exact_step exact o) there
    · exact .inl (List.mem_cons_of_mem _ later)
    · obtain rfl | still := stored_of_peek_step exact before
      · exact .inl List.mem_cons_self
      · exact .inr still

theorem arrivalsSince_concat (host path : String) (s : Store) (os : List Op) (o : Op) :
    arrivalsSince host path s (os ++ [o]) =
      match arrival host (s.after os) o with
      | [] => arrivalsSince host path s os
      | p :: _ => if p = path then [] else arrivalsSince host path s os ++ [p] := by
  have noted : arrivals host s (os ++ [o]) = arrivals host s os ++ arrival host (s.after os) o :=
    Course.noted_concat step (arrival host) s os o
  rw [arrivalsSince, noted]
  cases o with
  | store h p a =>
    simp only [arrival]
    split
    · by_cases same : p = path <;> simp [arrivalsSince, same]
    · simp [arrivalsSince]
  | get _ _ | purge _ | purgeAll => simp [arrival, arrivalsSince]

theorem remembers_after (exact : s.Exact) (fresh : s.queue host = []) (path : String)
    (os : List Op) :
    ((s.after os).queue host).Remembers s.capacity path (Op.written host path os).getLast?
      (arrivalsSince host path s os) := by
  -- By induction on the last operation: only what is about this host does anything to either side.
  induction os using List.reverseRecOn with
  | nil => exact .inr ⟨by simp [fresh], .inl rfl⟩
  | append_singleton os o ih =>
    have exact' := exact_after exact os
    have capacity := capacity_after s os
    have forgotten (later : List String) : Queue.Remembers s.capacity [] path none later :=
      .inr ⟨by simp, .inl rfl⟩
    rw [after_concat, queue_step exact', Op.written_concat, arrivalsSince_concat, capacity]
    cases o with
    | get h p => exact ih
    | store h p a =>
      by_cases here : h = host
      · subst here
        have put := Queue.remembers_put s.positive (exact' h).holds.distinct ih p a
        have new : (s.after os).peek h p = none ↔ p ∉ ((s.after os).queue h).paths :=
          peek_eq_none_iff exact'
        simp only [if_true, true_and, arrival, new]
        by_cases present : p ∈ ((s.after os).queue h).paths <;> simpa [present] using put
      · simpa [here, arrival] using ih
    | purge h =>
      by_cases here : h = host
      · simpa [here, arrival] using forgotten _
      · simpa [here, arrival] using ih
    | purgeAll => exact forgotten _

theorem hostSize?_step (s : Store) (o : Op) (host : String) :
    (s.step o).hostSize? host = none ↔
      match o with
      | .get _ _ => s.hostSize? host = none
      | .store h _ _ => h ≠ host ∧ s.hostSize? host = none
      | .purge h => h = host ∨ s.hostSize? host = none
      | .purgeAll => True := by
  simp only [hostSize?, Option.map_eq_none_iff]
  cases o with
  | get h p => rw [step, rings_get]
  | store h p a =>
    rw [step, rings_store, Assoc.get?_set]
    by_cases here : h = host <;> simp [here]
  | purge h =>
    simp only [step, purge, Assoc.get?_erase]
    by_cases here : h = host <;> simp [here]
  | purgeAll => exact iff_true_intro rfl

theorem hostSize?_after (fresh : s.hostSize? host = none) (os : List Op) :
    (s.after os).hostSize? host = none ↔ ∀ p a, .store host p a ∉ Op.since host os := by
  induction os using List.reverseRecOn with
  | nil => simp [Op.since, fresh]
  | append_singleton os o ih =>
    rw [after_concat, hostSize?_step, Op.since_concat]
    cases o with
    | get h p => simpa [Op.clears] using ih
    | store h p a =>
      by_cases here : h = host
      · subst here
        simp only [ne_eq, not_true, false_and, false_iff, not_forall, not_not]
        exact ⟨p, a, by simp [Op.clears]⟩
      · simpa [Op.clears, here, Ne.symm here] using ih
    | purge h =>
      by_cases here : h = host
      · simp [Op.clears, here]
      · simpa [Op.clears, here] using ih
    | purgeAll => simp [Op.clears]

theorem hostSize?_eq_some (exact : s.Exact) {n : Nat} (there : s.hostSize? host = some n) :
    (s.queue host).paths.length = n := by
  obtain ⟨r, held, rfl⟩ := Option.map_eq_some_iff.mp there
  have shown : s.ring host = r := by rw [ring, held]; rfl
  rw [Queue.paths, List.length_map, ← (exact host).holds.size, shown]

theorem exact_new {capacity : Nat} (made : Store.new capacity = .ok s) :
    s.Exact ∧ s.capacity = capacity ∧ ∀ host, s.queue host = [] ∧ s.hostSize? host = none := by
  unfold Store.new at made
  split at made
  · next positive =>
    cases made
    have empty : (Ring.empty capacity).Shows capacity [] := Ring.shows_empty positive
    exact ⟨fun _ => empty.view, rfl, fun _ => ⟨Ring.view_of_holds empty.holds, rfl⟩⟩
  · cases made

/-- For every capacity, all calls in any order and every host. An answer is found if and only if
something was stored for its path since the host was last forgotten and fewer other paths than the
capacity have come anew since this one did, and then it is the one stored last. A host has a size if
and only if something was stored for it since then, and its size is the number of paths that are
found. What is stored is put into the queue of the host. Nothing that is done about other hosts, short
of forgetting all of them, and nothing that only asks changes what is answered about it later. -/
theorem keeps_recent {capacity : Nat} (made : Store.new capacity = .ok s) (host : String)
    (cs : List Call) :
    let t := s.afterCalls cs
    let os := Call.ops cs
    (∀ path a, (t.get host path).2 = some a ↔
      (Op.written host path os).getLast? = some a ∧
        (arrivalsSince host path s os).length < capacity) ∧
    (t.hostSize? host = none ↔ ∀ p a, .store host p a ∉ Op.since host os) ∧
    (∀ n, t.hostSize? host = some n →
      ∃ ps : List String, ps.Nodup ∧ ps.length = n ∧
        ∀ p, p ∈ ps ↔ ∃ a, (t.get host p).2 = some a) ∧
    (∀ p a, Queue.Step capacity (t.queue host) (p, a) ((t.store host p a).queue host)
      ((t.ring host).put p a).2) ∧
    heard host s (cs.filter (Call.concerns host)) = heard host s cs ∧
    ∀ c, c.reads = true → ∀ later, heard host (t.call c) later = heard host t later := by
  intro t os
  obtain ⟨exact, rfl, fresh⟩ := exact_new made
  have same : t = s.after os := afterCalls_eq s cs
  have exact' : t.Exact := same ▸ exact_after exact os
  have capacity : t.capacity = s.capacity := same ▸ capacity_after s os
  have shows := exact' host
  rw [capacity] at shows
  have distinct := shows.holds.distinct
  have kept (path : String) : (t.queue host).Remembers s.capacity path
      (Op.written host path os).getLast? (arrivalsSince host path s os) :=
    same ▸ remembers_after exact (fresh host).1 path os
  refine ⟨?_, ?_, ?_, ?_, heard_filter host s cs, ?_⟩
  · intro path a
    rw [get_snd, peek_eq_some_iff exact']
    exact (kept path).mem_iff distinct shows.fits
  · rw [same]
    exact hostSize?_after (fresh host).2 os
  · intro n there
    refine ⟨(t.queue host).paths, distinct, hostSize?_eq_some exact' there, fun p => ?_⟩
    simp only [get_snd, peek_eq_some_iff exact']
    rw [Queue.mem_paths_iff]
    simp only [List.mem_iff_getElem?]
    exact exists_comm
  · intro p a
    have stored := queue_step exact' (.store host p a) host
    have step := Queue.step_put s.positive distinct shows.fits p a
    simp only [if_true, capacity] at stored
    rw [← stored, ← shows.put.2] at step
    exact step
  · intro c reads later
    exact heard_congr (alike_reads reads) later

/-- Room for two paths of each host: the first one is overwritten, which does not help it, the
second one is put again when it has gone, and another host has its own room. -/
theorem keeps_recent_after_overwriting :
    let s : Store := .empty 2
    let answer (b : UInt8) : Response := ⟨⟨.ok, []⟩, [b]⟩
    let cs : List Call := [.act (.store "h" "/a" (answer 1)), .act (.store "h" "/b" (answer 2)),
      .act (.store "h" "/a" (answer 3)), .act (.get "h" "/a"), .act (.store "h" "" (answer 4)),
      .hostSize "h", .act (.store "g" "/a" (answer 5)), .act (.store "h" "/a" (answer 6)), .stats]
    Store.new 2 = .ok s ∧
    ((s.afterCalls cs).get "h" "/a").2 = some (answer 6) ∧
    ((s.afterCalls cs).get "h" "").2 = some (answer 4) ∧
    ∀ a, ((s.afterCalls cs).get "h" "/b").2 ≠ some a := by
  intro s answer cs
  have made : Store.new 2 = .ok s := rfl
  obtain ⟨found, -⟩ := keeps_recent made "h" cs
  refine ⟨made, (found "/a" (answer 6)).mpr ⟨?_, ?_⟩, (found "" (answer 4)).mpr ⟨?_, ?_⟩, ?_⟩
  · decide +kernel
  · decide +kernel
  · decide +kernel
  · decide +kernel
  · intro a there
    have few := ((found "/b" a).mp there).2
    have many : (arrivalsSince "h" "/b" s (Call.ops cs)).length = 2 := by decide +kernel
    omega

end CachingProxy.Store
