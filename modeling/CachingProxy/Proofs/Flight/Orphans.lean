import CachingProxy.Proofs.Flight.History

namespace CachingProxy

namespace Flight

variable {ω : Type} {f : Flight ω}

theorem isOver_abort (f : Flight ω) : f.abort.1.phase.isOver = true := by
  cases past : f.phase.isOver with
  | true => rwa [abort_idle past]
  | false =>
    have aborted : f.abort.1.phase = .aborted := by simp [abort, past]
    rw [aborted]
    rfl

theorem isOver_step (m : Move ω) (past : f.phase.isOver = true) : (f.step m).phase.isOver = true := by
  cases m with
  | setHead h => simp [step, perform, setHead, past]
  | append b => simp [step, perform, append, past]
  | flush last =>
    have idle : f.canFlush = false := by simp [canFlush, past]
    simpa [step, perform, flush_idle idle] using past
  | join w =>
    simp only [step, perform, join]
    split <;> simpa using past
  | abort => exact isOver_abort f

theorem isOver_after (ms : List (Move ω)) (past : f.phase.isOver = true) :
    (f.after ms).phase.isOver = true :=
  Course.after_keeps (P := fun f : Flight ω => f.phase.isOver = true) (fun _ m => isOver_step m) past ms

end Flight

namespace FlightTable

variable {ω : Type} {t : FlightTable ω} {m : Move ω} {ms : List (Move ω)} {id : FlightId}

def IsOver (t : FlightTable ω) (id : FlightId) : Prop :=
  ∃ f, t.flight? id = some f ∧ f.phase.isOver = true

theorem isOver_step (sound : t.Sound) (past : t.IsOver id) (m : Move ω) : (t.step m).IsOver id := by
  obtain ⟨f, there, past⟩ := past
  exact ⟨_, flight?_of_some sound there, Flight.isOver_after _ past⟩

theorem isOver_after (sound : t.Sound) (past : t.IsOver id) (ms : List (Move ω)) :
    (t.after ms).IsOver id :=
  (Course.after_keeps (P := fun t : FlightTable ω => t.Sound ∧ t.IsOver id)
    (fun _ m h => ⟨sound_step h.1, isOver_step h.1 h.2 m⟩) ⟨sound, past⟩ ms).2

theorem isOver_of_finish {f : Flight ω} (sound : t.Sound) (there : t.flight? id = some f)
    (gives_up : m = .finish id ∨ m = .abandon id) : (t.step m).IsOver id := by
  refine ⟨_, flight?_of_some sound there, ?_⟩
  rcases gives_up with rfl | rfl
  · have acts : acting id t (.finish id) = [.flush true, .abort] := by
      simp [acting, target?, there, Move.acts]
    rw [acts]
    exact Flight.isOver_abort _
  · have acts : acting id t (.abandon id) = [.abort] := by
      simp [acting, target?, there, Move.acts]
    rw [acts]
    exact Flight.isOver_abort _

theorem exists_of_election (chosen : id ∈ t.election m) :
    ∃ f, (t.step m).flight? id = some f := by
  cases m with
  | elect key w =>
    cases here : t.registered.get? key with
    | none =>
      simp only [election, elect, here, List.mem_singleton] at chosen
      simp only [step, perform, elect, here]
      exact ⟨_, (flight?_create key).trans (if_pos chosen.symm)⟩
    | some j => simp [election, elect, here] at chosen
  | _ => cases chosen

theorem led_or_isOver (ms : List (Move ω)) (chosen : id ∈ elected {} ms) :
    (∃ f, (after {} ms).flight? id = some f) ∧
      (id ∈ (after {} ms).led ∨ (after {} ms).IsOver id) := by
  induction ms using List.reverseRecOn with
  | nil => cases chosen
  | append_singleton ms m ih =>
    have sound := sound_after ms
    rw [elected_append, elected_singleton, List.mem_append] at chosen
    rw [after_concat]
    rcases chosen with before | now
    · -- A lead that is given up now leaves a flight that is over, and stays so.
      obtain ⟨⟨f, there⟩, held⟩ := ih before
      refine ⟨⟨_, flight?_of_some sound there⟩, ?_⟩
      rcases held with held | past
      · exact (led_step held).imp_right (isOver_of_finish sound there)
      · exact .inr (isOver_step sound past m)
    · exact ⟨exists_of_election now, .inl (led_of_election now)⟩

variable [DecidableEq ω] {w : ω}

/-- The follower has a seat in the flight, which is not over, and still expects something. -/
def Waits (t : FlightTable ω) (id : FlightId) (w : ω) : Prop :=
  ∃ f, t.flight? id = some f ∧ f.phase.isOver = false ∧
    ∃ s ∈ f.seats, s.follower = w ∧ s.finished = false

omit [DecidableEq ω] in
theorem not_waits_of_isOver (past : t.IsOver id) : ¬ t.Waits id w := by
  rintro ⟨f, there, going, -⟩
  obtain ⟨g, there', past⟩ := past
  obtain rfl : f = g := Option.some.inj (there.symm.trans there')
  simp [past] at going

/-- Whoever has a seat was told of one end, or else waits in a flight that is not over. -/
theorem told_or_waits (once : ((seatings {} ms).map Prod.snd).count w ≤ 1)
    (seated : (id, w) ∈ seatings {} ms) :
    (Postings.deliveriesFor w (posted {} ms)).countP Delivery.isTerminal = 1 ∨
      (after {} ms).Waits id w := by
  obtain ⟨f, tr, there, served, handed⟩ := exists_served once seated
  rw [← handed, Transcript.countP_isTerminal, served.isOver]
  cases past : f.phase.isOver with
  | true => exact .inl rfl
  | false =>
    obtain ⟨s, only, records⟩ := served.seated past
    have mem : s ∈ f.seatsOf w := by simp [only]
    refine .inr ⟨f, there, past, s, List.mem_of_mem_filter mem, Flight.follower_of_seatsOf only, ?_⟩
    rw [records.finished, served.isOver, past]

/-- For all that is done to the flights of a table, in any order, and every follower that is given at
most one seat, perhaps in a flight that it found long before: if it has not been told of exactly one
end, it waits in a flight that is not over, and if newcomers started that flight its lead is held.
So once whoever leads a flight has finished or abandoned it, everybody who ever has a seat there has
been told of exactly one end. -/
theorem told_once_or_led (ms : List (Move ω)) (w : ω) (id : FlightId)
    (once : ((seatings {} ms).map Prod.snd).count w ≤ 1) (seated : (id, w) ∈ seatings {} ms) :
    ((Postings.deliveriesFor w (posted {} ms)).countP Delivery.isTerminal = 1 ∨
      (after {} ms).Waits id w ∧ (id ∈ elected {} ms → id ∈ (after {} ms).led)) ∧
    ∀ before m later, ms = before ++ m :: later → id ∈ elected {} before →
      m = .finish id ∨ m = .abandon id →
      (Postings.deliveriesFor w (posted {} ms)).countP Delivery.isTerminal = 1 := by
  have told := told_or_waits once seated
  constructor
  · apply told.imp_right
    intro waits
    refine ⟨waits, fun chosen => ?_⟩
    apply (led_or_isOver ms chosen).2.resolve_right
    exact fun past => not_waits_of_isOver past waits
  · rintro before m later rfl chosen gives_up
    apply told.resolve_right
    apply not_waits_of_isOver
    obtain ⟨⟨f, there⟩, -⟩ := led_or_isOver before chosen
    have past := isOver_of_finish (sound_after before) there gives_up
    rw [after_append]
    exact isOver_after (sound_step (sound_after before)) past later

/-- A flight whose key is struck and that is finished without a head, with one follower before that
and one after it. -/
theorem told_once_or_led_late :
    ((seatings {} [Move.elect "k" 0, .elect "k" 1, .remove "k", .finish 0, .seat 0 2]).map
      Prod.snd).count 2 ≤ 1 ∧
    (0, 2) ∈ seatings {} [Move.elect "k" 0, .elect "k" 1, .remove "k", .finish 0, .seat 0 2] ∧
    (Postings.deliveriesFor 2 (posted {} [Move.elect "k" 0, .elect "k" 1, .remove "k", .finish 0,
      .seat 0 2])).countP Delivery.isTerminal = 1 := by
  have once : ((seatings {} [Move.elect "k" 0, .elect "k" 1, .remove "k", .finish 0,
      .seat 0 2]).map Prod.snd).count 2 ≤ 1 := by decide
  have seated : (0, 2) ∈ seatings {} [Move.elect "k" 0, .elect "k" 1, .remove "k", .finish 0,
      .seat 0 2] := by decide
  refine ⟨once, seated, ?_⟩
  exact (told_once_or_led _ 2 0 once seated).2 [.elect "k" 0, .elect "k" 1, .remove "k"]
    (.finish 0) [.seat 0 2] rfl (by decide) (.inl rfl)

end FlightTable
end CachingProxy
