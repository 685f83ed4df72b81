import CachingProxy.Proofs.Flight.History

namespace CachingProxy

namespace Flight

variable {ω : Type} {f : Flight ω} {h : Head} {body : Bytes}

structure Carries (f : Flight ω) (head : Option Head) (body : Bytes) : Prop where
  head : f.head = head
  body : f.body = body
  going : f.phase.isOver = false

structure Landed (f : Flight ω) (h : Head) (body : Bytes) : Prop where
  head : f.head = some h
  body : f.body = body
  closed : f.phase = .closed

theorem carries_join {head : Option Head} (c : f.Carries head body) (w : ω) :
    (f.join w).1.Carries head body := by
  obtain ⟨head', body', phase'⟩ := f.join_frame w
  exact ⟨head'.trans c.head, body'.trans c.body, phase' ▸ c.going⟩

theorem landed_join (l : f.Landed h body) (w : ω) : (f.join w).1.Landed h body := by
  obtain ⟨head', body', phase'⟩ := f.join_frame w
  exact ⟨head'.trans l.head, body'.trans l.body, phase'.trans l.closed⟩

theorem carries_flush {head : Option Head} (c : f.Carries head body) :
    (f.flush false).1.Carries head body := by
  obtain ⟨head', body', phase'⟩ := f.flush_frame
  exact ⟨head'.trans c.head, body'.trans c.body, phase' ▸ c.going⟩

theorem carries_setHead (c : f.Carries none body) (h : Head) :
    (f.setHead h).1.Carries (some h) body := by
  have noted : (f.setHead h).1 =
      { f with head := some h, phase := if f.body = [] then .headed else .streaming } := by
    simp [setHead, c.head, c.going]
  rw [noted]
  refine ⟨rfl, c.body, ?_⟩
  by_cases empty : f.body = [] <;> simp [empty, Phase.isOver]

theorem carries_append {head : Option Head} (c : f.Carries head body) (b : Bytes) :
    (f.append b).Carries head (body ++ b) := by
  have added : f.append b =
      { f with body := f.body ++ b, phase := if f.phase = .headed then .streaming else f.phase } := by
    simp [append, c.going]
  rw [added]
  refine ⟨c.head, congrArg (· ++ b) c.body, ?_⟩
  by_cases headed : f.phase = .headed
  · simp [headed, Phase.isOver]
  · simpa [headed] using c.going

theorem landed_finish (c : f.Carries (some h) body) :
    (f.after [.flush true, .abort]).Landed h body := by
  have flushed : (f.flush true).1 =
      { f with
        seats := (f.seats.map (Seat.flush h f.body true)).map Prod.fst
        phase := .closed } := by
    simp [flush, c.head, c.going]
  have idle : (f.flush true).1.abort = ((f.flush true).1, []) :=
    abort_idle (by rw [flushed]; rfl)
  show (f.flush true).1.abort.1.Landed h body
  rw [idle, flushed]
  exact ⟨c.head, c.body, rfl⟩

end Flight

namespace FlightTable

variable {ω : Type} {t : FlightTable ω} {m : Move ω} {id : FlightId} {f : Flight ω}

/-- Whether a move takes a flight further, as only whoever leads it should. -/
def Move.drives (id : FlightId) : Move ω → Bool
  | .setHead j _ | .append j _ | .flush j _ | .abort j | .finish j | .abandon j => j = id
  | .create _ | .elect _ _ | .seat _ _ | .remove _ => false

theorem acting_of_not_drives (idle : m.drives id = false) :
    acting id t m = [] ∨ ∃ w, acting id t m = [.join w] := by
  by_cases about : t.target? m = some id ∧ (t.flight? id).isSome
  · rw [acting, if_pos about]
    cases m with
    | create _ | remove _ => exact .inl rfl
    | elect _ w | seat _ w => exact .inr ⟨w, rfl⟩
    | setHead j _ | append j _ | flush j _ | abort j | finish j | abandon j =>
      have here : j = id := Option.some.inj about.1
      simp [Move.drives, here] at idle
  · exact .inl (if_neg about)

theorem exists_undriven (sound : t.Sound) (there : t.flight? id = some f)
    (idle : m.drives id = false) :
    ∃ g, (t.step m).flight? id = some g ∧ (g = f ∨ ∃ w, g = (f.join w).1) := by
  refine ⟨_, flight?_of_some sound there, ?_⟩
  rcases acting_of_not_drives (t := t) idle with nothing | ⟨w, joins⟩
  · rw [nothing]
    exact .inl rfl
  · rw [joins]
    exact .inr ⟨w, rfl⟩

/-- What joining keeps of a flight is kept by all who do not drive it. -/
theorem kept_undriven {P : Flight ω → Prop} (joins : ∀ f w, P f → P (f.join w).1) (sound : t.Sound)
    {ms : List (Move ω)} (undriven : ∀ m ∈ ms, m.drives id = false)
    (there : ∃ f, t.flight? id = some f ∧ P f) : ∃ f, (t.after ms).flight? id = some f ∧ P f := by
  have kept : (t.after ms).Sound ∧ ∃ f, (t.after ms).flight? id = some f ∧ P f := by
    refine Course.after_keeps_of (P := fun t : FlightTable ω =>
      t.Sound ∧ ∃ f, t.flight? id = some f ∧ P f) ⟨sound, there⟩ ?_
    rintro t m mem ⟨sound, f, there, held⟩
    obtain ⟨g, there', same⟩ := exists_undriven sound there (undriven m mem)
    refine ⟨sound_step sound, g, there', ?_⟩
    obtain rfl | ⟨w, rfl⟩ := same
    · exact held
    · exact joins f w held
  exact kept.2

theorem flight?_driven (sound : t.Sound) (there : t.flight? id = some f)
    (about : t.target? m = some id) : (t.step m).flight? id = some (f.after m.acts) := by
  rw [flight?_of_some sound there, acting, if_pos ⟨about, by rw [there]; rfl⟩]

theorem carries_of_undriven {prior : List (Move ω)} (idle : ∀ m ∈ prior, m.drives id = false)
    (there : (after {} prior).flight? id = some f) : f.Carries none [] := by
  induction prior using List.reverseRecOn generalizing f with
  | nil => cases there
  | append_singleton ms m ih =>
    rw [after_concat] at there
    cases before : (after {} ms).flight? id with
    | none =>
      rcases flight?_of_none (m := m) before with still | ⟨key, made⟩
      · rw [still] at there
        cases there
      · rw [made] at there
        cases there
        exact ⟨rfl, rfl, rfl⟩
    | some g =>
      have carries := ih (fun m mem => idle m (List.mem_append_left _ mem)) before
      obtain ⟨g', there', same⟩ :=
        exists_undriven (sound_after ms) before (idle m (List.mem_append_right _ List.mem_cons_self))
      obtain rfl : g' = f := Option.some.inj (there'.symm.trans there)
      rcases same with rfl | ⟨w, rfl⟩
      · exact carries
      · exact Flight.carries_join carries w

end FlightTable

end CachingProxy
