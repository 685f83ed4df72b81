import Mathlib.Data.List.Induction
import CachingProxy.Proofs.Course
import CachingProxy.Proofs.Store.Queue

namespace CachingProxy

namespace Queue

/-- One put, with the queue before and after it and what it did. -/
inductive Step (capacity : Nat) : Queue → String × Response → Queue → Ring.Outcome → Prop
  | replace (front back : Queue) (p : String) (a b : Response) :
      Step capacity (front ++ (p, b) :: back) (p, a) (front ++ (p, a) :: back) .replaced
  | insert {q : Queue} {p : String} (a : Response) (absent : p ∉ q.paths)
      (room : q.length < capacity) : Step capacity q (p, a) (q ++ [(p, a)]) .inserted
  | evict {e : String × Response} {q : Queue} {p : String} (a : Response)
      (absent : p ∉ paths (e :: q)) (full : (e :: q).length = capacity) :
      Step capacity (e :: q) (p, a) (q ++ [(p, a)]) (.evicted e.1)

/-- Puts in a row into an empty queue. -/
inductive Run (capacity : Nat) : List (String × Response) → Queue → List Ring.Outcome → Prop
  | start : Run capacity [] [] []
  | next {es : List (String × Response)} {q q' : Queue} {os : List Ring.Outcome}
      {e : String × Response} {o : Ring.Outcome} (before : Run capacity es q os)
      (step : Step capacity q e q' o) : Run capacity (es ++ [e]) q' (os ++ [o])

variable {capacity : Nat} {q : Queue}

theorem replace_of_notMem {p : String} (absent : p ∉ q.paths) (a : Response) :
    q.replace p a = q := by
  refine (List.map_congr_left ?_).trans (List.map_id q)
  intro e mem
  apply if_neg
  rintro rfl
  exact absent (List.mem_map_of_mem mem)

theorem step_put (positive : 0 < capacity) (distinct : q.paths.Nodup) (fits : q.length ≤ capacity)
    (p : String) (a : Response) :
    Step capacity q (p, a) (q.put capacity p a).1 (q.put capacity p a).2 := by
  unfold put
  split
  · next present =>
    obtain ⟨⟨p, b⟩, mem, rfl⟩ := List.mem_map.mp present
    obtain ⟨front, back, rfl⟩ := List.append_of_mem mem
    -- The path has one place only, so nothing else is changed.
    have elsewhere : p ∉ paths front ∧ p ∉ paths back := by
      simp only [paths, List.map_append, List.map_cons, List.nodup_append, List.nodup_cons,
        List.mem_cons] at distinct
      exact ⟨fun mem => distinct.2.2 p mem p (.inl rfl) rfl, distinct.2.1.1⟩
    have replaced : replace (front ++ (p, b) :: back) p a = front ++ (p, a) :: back := by
      have first := replace_of_notMem elsewhere.1 a
      have last := replace_of_notMem elsewhere.2 a
      unfold replace at first last ⊢
      rw [List.map_append, List.map_cons, first, last, if_pos rfl]
    rw [replaced]
    exact .replace front back p a b
  · next absent =>
    split
    · next full =>
      cases q with
      | nil => exact absurd full positive.ne
      | cons e q => exact .evict a absent full
    · next room => exact .insert a absent (Nat.lt_of_le_of_ne fits room)

end Queue

namespace Ring

variable {r : Ring} {q : Queue} {capacity : Nat}

theorem filterMap_range {α : Type} {f : Nat → Option α} {l : List α}
    (shows : ∀ k a, l[k]? = some a → f k = some a) : (List.range l.length).filterMap f = l := by
  induction l using List.reverseRecOn with
  | nil => rfl
  | append_singleton l a ih =>
    have front : (List.range l.length).filterMap f = l := by
      apply ih
      intro k b there
      apply shows
      rw [List.getElem?_append_left (List.getElem?_eq_some_iff.mp there).1, there]
    have last : f l.length = some a := shows _ a (by simp)
    rw [List.length_append, List.length_singleton, List.range_succ, List.filterMap_append, front]
    simp [last]

theorem paths_of_holds (holds : r.Holds q) : r.paths = q.paths := by
  have length : r.size = q.paths.length := holds.size.trans (List.length_map _).symm
  rw [paths, length]
  apply filterMap_range
  intro k p there
  rw [Queue.paths, List.getElem?_map] at there
  obtain ⟨⟨p, a⟩, place, rfl⟩ := Option.map_eq_some_iff.mp there
  exact (holds.filled k p a place).1

theorem view_of_holds (holds : r.Holds q) : r.view = q := by
  have found : ∀ e ∈ q, (r.get? e.1).map (fun a => (e.1, a)) = some e := by
    intro e mem
    rw [(get?_of_holds holds e.1 e.2).mpr mem]
    rfl
  rw [view, paths_of_holds holds, Queue.paths, List.filterMap_map]
  exact (List.filterMap_congr found).trans List.filterMap_some

theorem get?_eq_none_iff (holds : r.Holds q) {p : String} : r.get? p = none ↔ p ∉ q.paths := by
  rw [Option.eq_none_iff_forall_ne_some, Queue.paths, List.mem_map]
  constructor
  · rintro nothing ⟨⟨p, a⟩, mem, rfl⟩
    exact nothing a ((get?_of_holds holds p a).mpr mem)
  · intro absent a there
    exact absent ⟨(p, a), (get?_of_holds holds p a).mp there, rfl⟩

def after (r : Ring) (es : List (String × Response)) : Ring :=
  Course.after (fun r e => (r.put e.1 e.2).1) r es

def outcomes (r : Ring) (es : List (String × Response)) : List Outcome :=
  Course.noted (fun r e => (r.put e.1 e.2).1) (fun r e => [(r.put e.1 e.2).2]) r es

theorem capacity_put (p : String) (a : Response) : (r.put p a).1.capacity = r.capacity := by
  unfold put
  split
  · rfl
  · split <;> rfl

/-- A ring with this capacity that holds the queue. -/
structure Shows (r : Ring) (capacity : Nat) (q : Queue) : Prop where
  holds : r.Holds q
  capacity : r.capacity = capacity

theorem shows_empty (positive : 0 < capacity) : (empty capacity).Shows capacity [] :=
  ⟨holds_empty positive, rfl⟩

theorem Shows.view (shows : r.Shows capacity q) : r.Shows capacity r.view :=
  (view_of_holds shows.holds).symm ▸ shows

theorem Shows.put (shows : r.Shows capacity q) {p : String} {a : Response} :
    (r.put p a).1.Shows capacity (q.put capacity p a).1 ∧ (r.put p a).2 = (q.put capacity p a).2 := by
  obtain ⟨holds, rfl⟩ := shows
  obtain ⟨holds', outcome⟩ := holds_put holds p a
  exact ⟨⟨holds', capacity_put p a⟩, outcome⟩

theorem Shows.fits (shows : r.Shows capacity q) : q.length ≤ capacity :=
  shows.capacity ▸ shows.holds.fits

theorem exists_run (positive : 0 < capacity) (es : List (String × Response)) :
    ∃ q, ((empty capacity).after es).Shows capacity q ∧
      Queue.Run capacity es q ((empty capacity).outcomes es) := by
  induction es using List.reverseRecOn with
  | nil => exact ⟨[], shows_empty positive, .start⟩
  | append_singleton es e ih =>
    obtain ⟨q, shows, run⟩ := ih
    obtain ⟨shows', outcome⟩ := shows.put (p := e.1) (a := e.2)
    have step := Queue.step_put positive shows.holds.distinct shows.fits e.1 e.2
    rw [← outcome] at step
    simp only [after, outcomes, Course.after_append, Course.noted_append]
    exact ⟨_, shows', run.next step⟩

/-- For every capacity and all puts in a row: a ring shows what a queue with that much room holds
after them, and each put did to the ring what it did to the queue. -/
theorem shows_queue (positive : 0 < capacity) (es : List (String × Response)) :
    let r := (empty capacity).after es
    let q : Queue := r.view
    Queue.Run capacity es q ((empty capacity).outcomes es) ∧
    q.paths.Nodup ∧ q.length ≤ capacity ∧
    r.paths = q.paths ∧ r.size = q.length ∧ (r.isEmpty = true ↔ q = []) ∧
    (∀ p a, r.get? p = some a ↔ (p, a) ∈ q) ∧
    ∀ p, r.get? p = none ↔ p ∉ q.paths := by
  intro r q
  obtain ⟨q', shows, run⟩ := exists_run positive es
  have holds := shows.holds
  obtain rfl : q = q' := view_of_holds holds
  refine ⟨run, holds.distinct, shows.fits, paths_of_holds holds, holds.size, ?_,
    get?_of_holds holds, fun p => get?_eq_none_iff holds⟩
  rw [isEmpty, beq_iff_eq, holds.size, List.length_eq_zero_iff]

/-- Room for two paths: the oldest one gets a new answer just before it has to go, and the empty path
comes around the end. -/
theorem shows_queue_around :
    let answer (b : UInt8) : Response := ⟨⟨.ok, []⟩, [b]⟩
    let es := [("/a", answer 1), ("/b", answer 2), ("/a", answer 3), ("", answer 4),
      ("/b", answer 5), ("/c", answer 6)]
    0 < 2 ∧
    Queue.Run 2 es [("", answer 4), ("/c", answer 6)]
      [.inserted, .inserted, .replaced, .evicted "/a", .replaced, .evicted "/b"] ∧
    ((empty 2).after es).paths = ["", "/c"] ∧
    ((empty 2).after es).get? "/b" = none := by
  intro answer es
  have positive : 0 < 2 := by decide
  obtain ⟨run, -, -, paths, -, -, -, absent⟩ := shows_queue positive es
  have view : ((empty 2).after es).view = [("", answer 4), ("/c", answer 6)] := by decide +kernel
  have outcomes : (empty 2).outcomes es =
      [.inserted, .inserted, .replaced, .evicted "/a", .replaced, .evicted "/b"] := by decide +kernel
  rw [view] at run paths
  refine ⟨positive, outcomes ▸ run, paths, (absent "/b").mpr ?_⟩
  rw [view]
  decide

end Ring
end CachingProxy
