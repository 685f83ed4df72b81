import CachingProxy.Proofs.Flight.Replay

namespace CachingProxy

variable {ω : Type}

namespace Phase

def rank : Phase → Nat
  | empty => 0
  | headed => 1
  | streaming => 2
  | closed => 3
  | aborted => 4

/-- Whether a flight can get from one phase to another: forwards, as long as it is not over. -/
def mayBecome (p q : Phase) : Bool := p = q || !p.isOver && p.rank < q.rank

theorem mayBecome_refl (p : Phase) : p.mayBecome p = true := by simp [mayBecome]

theorem mayBecome_trans {p q r : Phase} (first : p.mayBecome q = true)
    (second : q.mayBecome r = true) : p.mayBecome r = true := by
  simp only [mayBecome, Bool.or_eq_true, Bool.and_eq_true, Bool.not_eq_true', decide_eq_true_eq]
    at first second ⊢
  obtain rfl | ⟨going, less⟩ := first
  · exact second
  · obtain rfl | ⟨-, more⟩ := second
    · exact .inr ⟨going, less⟩
    · exact .inr ⟨going, Nat.lt_trans less more⟩

end Phase

namespace Seat

/-- What a seat of a flight says about its follower, by the phase and the body of the flight. -/
structure Fits (s : Seat ω) (f : Flight ω) : Prop where
  offset : s.offset ≤ f.body.length
  unheaded : s.headed = false → s.offset = 0
  finished : s.finished = f.phase.isOver
  whole : f.phase = .closed → s.offset = f.body.length

/-- A seat at one time and the same seat later. -/
structure Grows (s t : Seat ω) : Prop where
  follower : t.follower = s.follower
  offset : s.offset ≤ t.offset
  headed : s.headed = true → t.headed = true
  finished : s.finished = true → t.finished = true

variable {s t u : Seat ω} {f : Flight ω} {h : Head} {last : Bool}

theorem Grows.refl (s : Seat ω) : s.Grows s := ⟨rfl, Nat.le_refl _, id, id⟩

theorem Grows.trans (first : s.Grows t) (second : t.Grows u) : s.Grows u :=
  ⟨second.follower.trans first.follower, Nat.le_trans first.offset second.offset,
    second.headed ∘ first.headed, second.finished ∘ first.finished⟩

theorem Fits.going {g : Flight ω} (fits : s.Fits f) (body : f.body <+: g.body)
    (before : f.phase.isOver = false) (after : g.phase.isOver = false) : s.Fits g := by
  refine ⟨Nat.le_trans fits.offset body.length_le, fits.unheaded, ?_, fun closed => ?_⟩
  · rw [fits.finished, before, after]
  · rw [closed] at after
    cases after

theorem grows_flush (fits : s.Fits f) : s.Grows (s.flush h f.body last).1 := by
  cases done : s.finished with
  | true =>
    rw [flush, if_pos done]
    exact Grows.refl s
  | false =>
    rw [flush_seat done]
    exact ⟨rfl, fits.offset, fun _ => rfl, fun finished => by simp [done] at finished⟩

theorem grows_reset (s : Seat ω) : s.Grows s.reset.1 := by
  unfold reset
  split
  · exact Grows.refl s
  · exact ⟨rfl, Nat.le_refl _, id, fun _ => rfl⟩

end Seat

namespace Flight

/-- The chunks that were added before the flight was over, in order. -/
def accepted (f : Flight ω) (ms : List (Move ω)) : List Bytes :=
  Course.noted step
    (fun f m => match m with
      | .append b => if f.phase.isOver then [] else [b]
      | _ => []) f ms

variable {f : Flight ω}

theorem phase_step (sound : f.Sound) (m : Move ω) : f.phase.mayBecome (f.step m).phase = true := by
  cases m with
  | setHead h =>
    cases late : f.head.isSome || f.phase.isOver with
    | true => simp [step, perform, setHead, late, Phase.mayBecome]
    | false =>
      -- Only an empty flight has no head yet and is not over.
      obtain ⟨headless, going⟩ : f.head = none ∧ f.phase.isOver = false := by simpa using late
      have first : f.phase = .empty := by
        cases phase : f.phase <;> simp_all [Sound, Phase.isOver]
      have noted : (f.setHead h).1.phase = if f.body = [] then .headed else .streaming := by
        simp [setHead, late]
      rw [step, perform, noted, first]
      split <;> rfl
  | append b =>
    simp only [step, perform, append]
    cases phase : f.phase <;> simp [phase, Phase.isOver, Phase.mayBecome, Phase.rank]
  | flush last =>
    cases idle : f.canFlush with
    | false => simp [step, perform, flush_idle idle, Phase.mayBecome]
    | true =>
      obtain ⟨h, head, going⟩ : ∃ h, f.head = some h ∧ f.phase.isOver = false := by
        simpa [canFlush, Option.isSome_iff_exists] using idle
      cases last with
      | false => simp [step, perform, flush_frame, Phase.mayBecome]
      | true =>
        simp only [step, perform, flush, head, going]
        cases phase : f.phase <;> simp_all [Phase.isOver, Phase.mayBecome, Phase.rank]
  | join w => simp [step, perform, join_frame, Phase.mayBecome]
  | abort =>
    simp only [step, perform, abort]
    cases phase : f.phase <;> simp [phase, Phase.isOver, Phase.mayBecome, Phase.rank]

theorem phase_after (sound : f.Sound) (ms : List (Move ω)) :
    f.phase.mayBecome (f.after ms).phase = true := by
  induction ms generalizing f with
  | nil => exact f.phase.mayBecome_refl
  | cons m ms ih => exact Phase.mayBecome_trans (phase_step sound m) (ih (sound_step f m sound))

theorem settled_step (past : f.phase.isOver = true) (m : Move ω) :
    (f.step m).phase = f.phase ∧ (f.step m).head = f.head ∧ (f.step m).body = f.body := by
  cases m with
  | setHead h => simp [step, perform, setHead, past]
  | append b => simp [step, perform, append, past]
  | flush last =>
    have idle : f.canFlush = false := by simp [canFlush, past]
    simp [step, perform, flush_idle idle]
  | join w => simp [step, perform, join_frame]
  | abort => simp [step, perform, abort_idle past]

theorem settled_after (past : f.phase.isOver = true) (ms : List (Move ω)) :
    (f.after ms).phase = f.phase ∧ (f.after ms).head = f.head ∧ (f.after ms).body = f.body := by
  refine Course.after_keeps (P := fun g : Flight ω =>
    g.phase = f.phase ∧ g.head = f.head ∧ g.body = f.body) ?_ ⟨rfl, rfl, rfl⟩ ms
  rintro g m ⟨phase, head, body⟩
  obtain ⟨phase', head', body'⟩ := settled_step (f := g) (phase ▸ past) m
  exact ⟨phase'.trans phase, head'.trans head, body'.trans body⟩

theorem body_step (f : Flight ω) (m : Move ω) :
    (f.step m).body = f.body ++ (f.accepted [m]).flatten := by
  cases m with
  | setHead h =>
    simp only [step, perform, setHead]
    split <;> simp [accepted]
  | append b => cases past : f.phase.isOver <;> simp [step, perform, append, accepted, past]
  | flush last =>
    simp only [step, perform, flush]
    split
    · split <;> simp [accepted]
    · simp [accepted]
  | join w => simp [step, perform, join_frame, accepted]
  | abort =>
    simp only [step, perform, abort]
    split <;> simp [accepted]

theorem body_after (f : Flight ω) (ms : List (Move ω)) :
    (f.after ms).body = f.body ++ (f.accepted ms).flatten := by
  induction ms generalizing f with
  | nil => simp [accepted]
  | cons m ms ih =>
    have noted : f.accepted (m :: ms) = f.accepted [m] ++ (f.step m).accepted ms := by
      simp [accepted]
    rw [after_cons, ih, body_step, noted, List.flatten_append, List.append_assoc]

/-- All seats say what is right of their followers. -/
def Seated (f : Flight ω) : Prop := ∀ s ∈ f.seats, s.Fits f

theorem seated_flush (seated : f.Seated) (last : Bool) : (f.flush last).1.Seated := by
  cases idle : f.canFlush with
  | false => rwa [flush_idle idle]
  | true =>
    obtain ⟨h, head, going⟩ : ∃ h, f.head = some h ∧ f.phase.isOver = false := by
      simpa [canFlush, Option.isSome_iff_exists] using idle
    intro t mem
    simp only [flush, head, going, Bool.false_eq_true, if_false] at mem ⊢
    obtain ⟨s, among, rfl⟩ : ∃ s ∈ f.seats, (s.flush h f.body last).1 = t := by simpa using mem
    have opened : s.finished = false := (seated s among).finished.trans going
    rw [Seat.flush_seat opened]
    refine ⟨Nat.le_refl _, by simp, ?_, fun _ => rfl⟩
    cases last with
    | false => exact going.symm
    | true => rfl

theorem seated_abort (seated : f.Seated) : f.abort.1.Seated := by
  cases past : f.phase.isOver with
  | true => rwa [abort_idle past]
  | false =>
    intro t mem
    simp only [abort, past, Bool.false_eq_true, if_false] at mem ⊢
    obtain ⟨s, among, rfl⟩ : ∃ s ∈ f.seats, s.reset.1 = t := by simpa using mem
    have opened : s.finished = false := (seated s among).finished.trans past
    simp only [Seat.reset, opened]
    exact ⟨(seated s among).offset, (seated s among).unheaded, rfl, by simp⟩

theorem seated_join (seated : f.Seated) (w : ω) : (f.join w).1.Seated := by
  obtain ⟨-, body, phase⟩ := f.join_frame w
  have kept : ∀ s ∈ f.seats, s.Fits (f.join w).1 := fun s mem => by
    obtain ⟨offset, unheaded, finished, whole⟩ := seated s mem
    exact ⟨body ▸ offset, unheaded, phase ▸ finished, by rwa [phase, body]⟩
  have newcomer {s : Seat ω} (seats : (f.join w).1.seats = f.seats ++ [s])
      (fits : s.Fits (f.join w).1) : (f.join w).1.Seated := by
    intro t mem
    rw [seats, List.mem_append, List.mem_singleton] at mem
    obtain mem | rfl := mem
    · exact kept t mem
    · exact fits
  cases now : f.phase with
  | aborted =>
    intro s mem
    exact kept s (by simpa [join, now] using mem)
  | closed =>
    refine newcomer (s := ⟨w, f.body.length, true, true⟩) (by simp [join, now]) ⟨?_, by simp, ?_, ?_⟩
    · exact Nat.le_of_eq (congrArg List.length body.symm)
    · rw [phase, now]
      rfl
    · exact fun _ => congrArg List.length body.symm
  | empty | headed | streaming =>
    refine newcomer (s := { follower := w }) (by simp [join, now]) ⟨Nat.zero_le _, fun _ => rfl, ?_, ?_⟩
    · rw [phase, now]
      rfl
    · exact fun closed => by simp [phase, now] at closed

theorem seated_step (f : Flight ω) (m : Move ω) (seated : f.Seated) : (f.step m).Seated := by
  cases m with
  | setHead h =>
    simp only [step, perform, setHead]
    split
    · exact seated
    · next late =>
      obtain ⟨-, going⟩ : f.head = none ∧ f.phase.isOver = false := by simpa using late
      exact fun s mem => (seated s mem).going List.prefix_rfl going (by split <;> rfl)
  | append b =>
    simp only [step, perform, append]
    split
    · exact seated
    · next going =>
      rw [Bool.not_eq_true] at going
      refine fun s mem => (seated s mem).going (List.prefix_append _ _) going ?_
      split
      · rfl
      · exact going
  | flush last => exact seated_flush seated last
  | join w => exact seated_join seated w
  | abort => exact seated_abort seated

theorem grows_step (seated : f.Seated) (m : Move ω) {i : Nat} {s : Seat ω}
    (there : f.seats[i]? = some s) : ∃ t, (f.step m).seats[i]? = some t ∧ s.Grows t := by
  cases m with
  | setHead h =>
    refine ⟨s, ?_, Seat.Grows.refl s⟩
    simp only [step, perform, setHead]
    split <;> exact there
  | append b =>
    refine ⟨s, ?_, Seat.Grows.refl s⟩
    simp only [step, perform, append]
    split <;> exact there
  | flush last =>
    simp only [step, perform, flush]
    split
    · next h _ =>
      split
      · exact ⟨s, there, Seat.Grows.refl s⟩
      · refine ⟨(s.flush h f.body last).1, by simp [there], Seat.grows_flush ?_⟩
        exact seated s (List.mem_of_getElem? there)
    · exact ⟨s, there, Seat.Grows.refl s⟩
  | join w =>
    refine ⟨s, ?_, Seat.Grows.refl s⟩
    have early : i < f.seats.length := (List.getElem?_eq_some_iff.mp there).1
    simp only [step, perform, join]
    split <;> simp [List.getElem?_append_left early, there]
  | abort =>
    simp only [step, perform, abort]
    split
    · exact ⟨s, there, Seat.Grows.refl s⟩
    · exact ⟨s.reset.1, by simp [there], s.grows_reset⟩

theorem grows_after (seated : f.Seated) (ms : List (Move ω)) {i : Nat} {s : Seat ω}
    (there : f.seats[i]? = some s) : ∃ t, (f.after ms).seats[i]? = some t ∧ s.Grows t := by
  induction ms generalizing f s with
  | nil => exact ⟨s, there, Seat.Grows.refl s⟩
  | cons m ms ih =>
    obtain ⟨t, there', first⟩ := grows_step seated m there
    obtain ⟨u, there'', second⟩ := ih (seated_step f m seated) there'
    exact ⟨u, there'', first.trans second⟩

/-- Whatever is done to a new flight, in any order, and whatever is done to it after that: its phase only
moves forwards, its head stays the one that it has, and once it is over its phase, its head and its body
stay. Its body is what was added to it before it was over. Its phase says whether it has a head, and a
flight that has just got its head has no body yet. No seat has more than the body or has any of it
without the head; seats are finished when the flight is over, and not before, and after a good end they
have the whole body. Nobody loses a seat or anything that was handed over. -/
theorem lives_in_order (key : String) (ms : List (Move ω)) :
    let f := after { key } ms
    (∀ ns, f.phase.mayBecome (f.after ns).phase = true ∧
      (∀ h, f.head = some h → (f.after ns).head = some h) ∧
      (f.phase.isOver = true → (f.after ns).phase = f.phase ∧ (f.after ns).head = f.head ∧
        (f.after ns).body = f.body) ∧
      ∀ (i : Nat) (s : Seat ω), f.seats[i]? = some s →
        ∃ t, (f.after ns).seats[i]? = some t ∧ s.Grows t) ∧
    f.body = (accepted { key } ms).flatten ∧
    f.Sound ∧
    ∀ s ∈ f.seats, s.Fits f := by
  intro f
  have sound : f.Sound := sound_after (f := { key }) rfl ms
  have seated : f.Seated :=
    Course.after_keeps (P := Seated) seated_step (fun _ mem => (List.not_mem_nil mem).elim) ms
  refine ⟨fun ns => ⟨phase_after sound ns, ?_, fun past => settled_after past ns, ?_⟩, ?_, sound,
    seated⟩
  · intro h head
    rw [head_after, head, Option.some_or]
  · exact fun i s there => grows_after seated ns there
  · exact (body_after { key } ms).trans (List.nil_append _)

end Flight
end CachingProxy
