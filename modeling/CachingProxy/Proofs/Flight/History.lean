import Mathlib.Data.List.Induction
import CachingProxy.Proofs.Flight.Replay
import CachingProxy.Proofs.Flight.TableSound

namespace CachingProxy.FlightTable

variable {ω : Type} {t : FlightTable ω} {m : Move ω} {ms ns : List (Move ω)} {id j : FlightId}

def acting (id : FlightId) (t : FlightTable ω) (m : Move ω) : List (Flight.Move ω) :=
  if t.target? m = some id ∧ (t.flight? id).isSome then m.acts else []

/-- All that is done to a flight of a table that is empty at first. -/
def history (id : FlightId) (ms : List (Move ω)) : List (Flight.Move ω) :=
  Course.noted step (acting id) {} ms

theorem history_concat :
    history id (ms ++ [m]) = history id ms ++ acting id (after {} ms) m :=
  (Course.noted_append step _ {} ms [m]).trans (by simp [history, after])

theorem after_concat : after {} (ms ++ [m]) = (after {} ms).step m := after_append {} ms [m]

theorem sound_after (ms : List (Move ω)) : (after {} ms).Sound :=
  Course.after_keeps (P := Sound) (fun _ _ => sound_step) sound_empty ms

theorem flight?_of_some {f : Flight ω} (sound : t.Sound) (there : t.flight? id = some f) :
    (t.step m).flight? id = some (f.after (acting id t m)) := by
  have here : id ≠ t.next := by
    rintro rfl
    rw [sound.numbered _ (Nat.le_refl _)] at there
    cases there
  rw [flight?_step here, there]
  by_cases about : t.target? m = some id <;> simp [acting, about, there]

theorem flight?_of_none (free : t.flight? id = none) :
    (t.step m).flight? id = none ∨ ∃ key, (t.step m).flight? id = some { key } := by
  by_cases here : id = t.next
  · subst here
    exact (created_step free).imp And.right And.right
  · left
    rw [flight?_step here, free]
    rfl

theorem acting_of_none (free : t.flight? id = none) : acting id t m = [] := by
  simp [acting, free]

/-- A flight is what its history has made of it. -/
theorem flight?_after (ms : List (Move ω)) (id : FlightId) :
    (after {} ms).flight? id = none ∧ history id ms = [] ∨
      ∃ key, (after {} ms).flight? id = some (Flight.after { key } (history id ms)) := by
  induction ms using List.reverseRecOn with
  | nil => exact .inl ⟨rfl, rfl⟩
  | append_singleton ms m ih =>
    rw [after_concat, history_concat]
    rcases ih with ⟨free, early⟩ | ⟨key, there⟩
    · rw [early, acting_of_none free]
      exact (flight?_of_none free).imp_left fun still => ⟨still, rfl⟩
    · refine .inr ⟨key, ?_⟩
      rw [Flight.after_append]
      exact flight?_of_some (sound_after ms) there

theorem joiners_acting (sound : t.Sound) :
    Flight.joiners (acting id t m) = ((t.seating m).filter fun p => p.1 = id).map Prod.snd := by
  rw [seating_eq sound]
  cases about : t.target? m with
  | none => simp [acting, about, Flight.joiners]
  | some j =>
    simp only [acting, about, Option.some.injEq]
    by_cases here : j = id
    · subst here
      cases t.flight? j with
      | none => simp [Flight.joiners]
      | some f => simp [List.filter_map, Function.comp_def]
    · cases t.flight? j <;> simp [here, Flight.joiners, List.filter_map, Function.comp_def]

variable {v w : ω}

theorem joiners_history (ms : List (Move ω)) (id : FlightId) :
    Flight.joiners (history id ms) =
      ((seatings {} ms).filter fun p => p.1 = id).map Prod.snd := by
  induction ms using List.reverseRecOn with
  | nil => rfl
  | append_singleton ms m ih =>
    rw [history_concat, Flight.joiners_append, ih, joiners_acting (sound_after ms), seatings_append,
      List.filter_append, List.map_append, seatings_singleton]

theorem mem_joiners_history : w ∈ Flight.joiners (history id ms) ↔ (id, w) ∈ seatings {} ms := by
  rw [joiners_history]
  simp

variable [DecidableEq ω]

theorem unposted_step (about : (after {} ms).target? m = some j)
    (absent : (j, w) ∉ seatings {} (ms ++ [m])) :
    Postings.deliveriesFor w ((after {} ms).perform m).2 = [] := by
  rw [posted_step, about]
  rcases flight?_after ms j with ⟨free, -⟩ | ⟨key, there⟩
  · simp [free]
  · have others : w ∉ Flight.joiners (history j ms ++ m.acts) := by
      have acts : acting j (after {} ms) m = m.acts := by simp [acting, about, there]
      rw [← acts, ← history_concat, mem_joiners_history]
      exact absent
    rw [Flight.joiners_append, List.mem_append, not_or] at others
    obtain ⟨still, -⟩ := Flight.absent_after (f := { key }) rfl others.1
    simpa [there] using (Flight.absent_after still others.2).2

theorem deliveriesFor_step (only : ∀ j, (j, w) ∈ seatings {} (ms ++ [m]) → j = id) :
    Postings.deliveriesFor w ((after {} ms).perform m).2 =
      Postings.deliveriesFor w
        ((((after {} ms).flight? id).map fun f => f.posted (acting id (after {} ms) m)).getD []) := by
  cases about : (after {} ms).target? m with
  | none =>
    rw [posted_step, about]
    cases (after {} ms).flight? id <;> simp [acting, about]
  | some j =>
    by_cases here : j = id
    · subst here
      rw [posted_step, about]
      cases there : (after {} ms).flight? j <;> simp [acting, about, there]
    · rw [unposted_step about fun mem => here (only j mem)]
      cases (after {} ms).flight? id <;> simp [acting, about, here]

theorem deliveriesFor_posted (only : ∀ j, (j, w) ∈ seatings {} ms → j = id) :
    ∃ key,
      Postings.deliveriesFor w (posted {} ms) =
        Postings.deliveriesFor w (Flight.posted { key } (history id ms)) ∧
      ((after {} ms).flight? id = none ∧ history id ms = [] ∨
        (after {} ms).flight? id = some (Flight.after { key } (history id ms))) := by
  -- By induction on the last move. Until the flight is made its key is not known, so the key is
  -- chosen anew as long as nothing was done to it.
  induction ms using List.reverseRecOn with
  | nil => exact ⟨"", rfl, .inl ⟨rfl, rfl⟩⟩
  | append_singleton ms m ih =>
    obtain ⟨key, handed, known⟩ := ih fun j mem => only j (by simp [mem])
    rw [posted_append, Postings.deliveriesFor_append, handed, posted_singleton,
      deliveriesFor_step only, after_concat, history_concat]
    rcases known with ⟨free, early⟩ | there
    · rw [early, acting_of_none free, free]
      rcases flight?_of_none (m := m) free with still | ⟨key, made⟩
      · exact ⟨key, rfl, .inl ⟨still, rfl⟩⟩
      · exact ⟨key, rfl, .inr made⟩
    · refine ⟨key, ?_, .inr ?_⟩
      · rw [Flight.posted_append, Postings.deliveriesFor_append, there]
        rfl
      · rw [Flight.after_append]
        exact flight?_of_some (sound_after ms) there

theorem once_of_append (once : ((seatings {} (ms ++ ns)).map Prod.snd).count w ≤ 1) :
    ((seatings {} ms).map Prod.snd).count w ≤ 1 := by
  rw [seatings_append, List.map_append, List.count_append] at once
  exact Nat.le_trans (Nat.le_add_right _ _) once

theorem joiner_ne (once : ((seatings {} (ms ++ [m])).map Prod.snd).count w ≤ 1)
    (seated : (id, w) ∈ seatings {} ms) (joins : acting id (after {} ms) m = [.join v]) : v ≠ w := by
  rintro rfl
  have joined : Flight.joiners (acting id (after {} ms) m) = _ := joiners_acting (sound_after ms)
  rw [joins] at joined
  have now : v ∈ ((after {} ms).seating m).map Prod.snd := by
    have mem : v ∈ Flight.joiners [.join v] := List.mem_cons_self
    rw [joined] at mem
    exact List.map_subset _ (List.filter_subset_self _) mem
  have before : v ∈ (seatings {} ms).map Prod.snd := List.mem_map_of_mem (f := Prod.snd) seated
  rw [seatings_append, seatings_singleton, List.map_append, List.count_append] at once
  have := List.count_pos_iff.mpr now
  have := List.count_pos_iff.mpr before
  omega

theorem only_of_once (once : ((seatings {} ms).map Prod.snd).count w ≤ 1)
    (seated : (id, w) ∈ seatings {} ms) : ∀ j, (j, w) ∈ seatings {} ms → j = id := by
  intro j mem
  obtain ⟨before, later, split⟩ := List.append_of_mem seated
  rw [split] at once mem
  rw [List.map_append, List.map_cons, List.count_append, List.count_cons_self] at once
  have early : w ∉ before.map Prod.snd := List.count_eq_zero.mp (by omega)
  have late : w ∉ later.map Prod.snd := List.count_eq_zero.mp (by omega)
  rcases List.mem_append.mp mem with there | there
  · exact absurd (List.mem_map_of_mem (f := Prod.snd) there) early
  · rcases List.mem_cons.mp there with same | there
    · exact congrArg Prod.fst same
    · exact absurd (List.mem_map_of_mem (f := Prod.snd) there) late

/-- Whoever is told once that it has a seat is served by the flight in which it is. -/
theorem exists_served (once : ((seatings {} ms).map Prod.snd).count w ≤ 1)
    (seated : (id, w) ∈ seatings {} ms) :
    ∃ f tr, (after {} ms).flight? id = some f ∧ f.Served w tr ∧
      tr.deliveries = Postings.deliveriesFor w (posted {} ms) := by
  obtain ⟨key, handed, known⟩ := deliveriesFor_posted (only_of_once once seated)
  have joined := mem_joiners_history.mpr seated
  have there : (after {} ms).flight? id = some (Flight.after { key } (history id ms)) := by
    apply known.resolve_left
    rintro ⟨-, early⟩
    rw [early] at joined
    cases joined
  have once' : (Flight.joiners (history id ms)).count w ≤ 1 := by
    rw [joiners_history]
    exact Nat.le_trans ((List.filter_sublist.map Prod.snd).count_le w) once
  obtain ⟨tr, posted, served | ⟨absent, -⟩⟩ := Flight.exists_transcript key once'
  · exact ⟨_, tr, there, served.2, posted.trans handed.symm⟩
  · exact absurd joined absent

theorem deliveriesFor_unseated (unseated : ∀ id, (id, w) ∉ seatings {} ms) :
    Postings.deliveriesFor w (posted {} ms) = [] := by
  have only : ∀ j, (j, w) ∈ seatings {} ms → j = 0 := fun j mem => absurd mem (unseated j)
  obtain ⟨key, handed, -⟩ := deliveriesFor_posted only
  have absent : w ∉ Flight.joiners (history 0 ms) := fun mem =>
    unseated 0 (mem_joiners_history.mp mem)
  exact handed.trans (Flight.absent_after rfl absent).2

theorem exists_transcript (once : ((seatings {} ms).map Prod.snd).count w ≤ 1) :
    ∃ tr : Transcript, tr.deliveries = Postings.deliveriesFor w (posted {} ms) := by
  by_cases seated : ∃ id, (id, w) ∈ seatings {} ms
  · obtain ⟨id, seated⟩ := seated
    obtain ⟨-, tr, -, -, handed⟩ := exists_served once seated
    exact ⟨tr, handed⟩
  · exact ⟨.nothing, (deliveriesFor_unseated fun id mem => seated ⟨id, mem⟩).symm⟩

end CachingProxy.FlightTable
