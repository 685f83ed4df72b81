import CachingProxy.Proofs.Flight.Moves
import CachingProxy.Proofs.Flight.Transcript

namespace CachingProxy

variable {ω : Type} {h : Head} {body : Bytes} {last : Bool} {t : Transcript}

namespace Seat

structure Records (s : Seat ω) (t : Transcript) : Prop where
  headed : s.headed = t.head?.isSome
  offset : s.offset = t.bytes.length
  finished : s.finished = t.isOver

theorem flush_follower (s : Seat ω) : (s.flush h body last).1.follower = s.follower := by
  grind [flush]

theorem flush_own (s : Seat ω) : ∀ p ∈ (s.flush h body last).2, p.1 = s.follower := by
  grind [flush]

theorem reset_follower (s : Seat ω) : s.reset.1.follower = s.follower := by
  grind [reset]

theorem reset_own (s : Seat ω) : ∀ p ∈ s.reset.2, p.1 = s.follower := by
  grind [reset]

theorem flush_seat {s : Seat ω} (opened : s.finished = false) :
    (s.flush h body last).1 = { s with offset := body.length, headed := true, finished := last } := by
  grind [flush]

variable [DecidableEq ω]

theorem flush_deliveries {s : Seat ω} {pre rest : Bytes} (opened : s.finished = false)
    (stands : s.offset = pre.length) :
    Postings.deliveriesFor s.follower (s.flush h (pre ++ rest) last).2 =
      if s.headed then if rest = [] ∧ last = false then [] else [.chunk rest last]
      else if rest = [] then [.head h last] else [.head h false, .chunk rest last] := by
  have unseen : (if s.offset < (pre ++ rest).length then some ((pre ++ rest).drop s.offset) else none)
      = if rest = [] then none else some rest := by
    cases rest <;> simp [stands]
  simp only [flush, opened, unseen]
  by_cases hr : rest = [] <;> cases s.headed <;> cases last <;>
    simp [hr, Postings.deliveriesFor, Task.deliveries]

/-- A flush brings an open transcript up to the whole body, and completes it if it is the last. -/
theorem flush_records (last : Bool) {s : Seat ω} (r : s.Records t) (opened : t.isOver = false)
    (same : ∀ g, t.head? = some g → g = h) (part : t.bytes <+: body) :
    ∃ u : Transcript, (s.flush h body last).1.Records u ∧
      u.deliveries = t.deliveries ++ Postings.deliveriesFor s.follower (s.flush h body last).2 ∧
      u.head? = some h ∧ u.bytes = body ∧ u.isComplete = last ∧ u.isReset = false := by
  obtain ⟨rest, rfl⟩ := part
  have unfinished := r.finished.trans opened
  rw [flush_seat unfinished, flush_deliveries unfinished r.offset]
  -- What the seat notes is the same for all such transcripts, so one with these deliveries will do.
  suffices ∃ u : Transcript,
      u.deliveries = t.deliveries ++
        (if s.headed then if rest = [] ∧ last = false then [] else [.chunk rest last]
        else if rest = [] then [.head h last] else [.head h false, .chunk rest last]) ∧
      u.head? = some h ∧ u.bytes = t.bytes ++ rest ∧ u.isComplete = last ∧ u.isReset = false by
    obtain ⟨u, handed, head, bytes, complete, reset⟩ := this
    exact ⟨u, ⟨by simp [head], by rw [bytes], by simp [Transcript.isOver, complete, reset]⟩,
      handed, head, bytes, complete, reset⟩
  cases t with
  | nothing =>
    -- The head goes out with this flush; an empty last one leaves nothing for a chunk.
    have headless : s.headed = false := r.headed
    by_cases bare : rest = [] ∧ last = true
    · obtain ⟨rfl, rfl⟩ := bare
      exact ⟨.bare h, by simp [headless, Transcript.deliveries], rfl, rfl, rfl, rfl⟩
    · refine ⟨.extended h [] rest last, ?_, by simp, by simp, by simp, by simp⟩
      by_cases hr : rest = [] <;>
        simp_all [Transcript.deliveries_extended, Transcript.opening]
  | begun g ps =>
    have headed : s.headed = true := r.headed
    obtain rfl : g = h := same g rfl
    refine ⟨.extended g ps rest last, ?_, by simp, by simp, by simp, by simp⟩
    rw [Transcript.deliveries_extended, Transcript.deliveries_begun, if_pos headed]
  | refused | bare _ | ended _ _ _ | broken _ _ => cases opened

theorem reset_records {s : Seat ω} (r : s.Records t) (opened : t.isOver = false) :
    ∃ u : Transcript, s.reset.1.Records u ∧
      u.deliveries = t.deliveries ++ Postings.deliveriesFor s.follower s.reset.2 ∧
      u.head? = t.head? ∧ u.bytes = t.bytes ∧ u.isComplete = false ∧ u.isReset = true := by
  have unfinished : s.finished = false := r.finished.trans opened
  simp only [reset, unfinished]
  cases t with
  | nothing =>
    refine ⟨.refused, ⟨r.headed, r.offset, rfl⟩, ?_, rfl, rfl, rfl, rfl⟩
    simp [Transcript.deliveries, Postings.deliveriesFor, Task.deliveries]
  | begun g ps =>
    refine ⟨.broken g ps, ⟨r.headed, r.offset, rfl⟩, ?_, rfl, rfl, rfl, rfl⟩
    simp [Transcript.deliveries, Postings.deliveriesFor, Task.deliveries]
  | refused | bare _ | ended _ _ _ | broken _ _ => cases opened

end Seat

namespace Flight

def Sound (f : Flight ω) : Prop :=
  match f.phase with
  | .empty => f.head = none
  | .headed => f.head.isSome ∧ f.body = []
  | .streaming => f.head.isSome
  | .closed => f.head.isSome
  | .aborted => True

theorem sound_step (f : Flight ω) (m : Move ω) (sound : f.Sound) : (f.step m).Sound := by
  cases m with
  | setHead h => grind [step, perform, setHead, Sound, Phase.isOver]
  | append b => grind [step, perform, append, Sound, Phase.isOver]
  | flush last => grind [step, perform, flush, Sound, Phase.isOver]
  | join w => grind [step, perform, join, Sound]
  | abort => grind [step, perform, abort, Sound, Phase.isOver]

variable [DecidableEq ω]

def seatsOf (f : Flight ω) (w : ω) : List (Seat ω) := f.seats.filter fun s => s.follower = w

theorem seatsOf_map {g : Seat ω → Seat ω × Postings ω}
    (keeps : ∀ s, (g s).1.follower = s.follower) (w : ω) (seats : List (Seat ω)) :
    ((seats.map g).map Prod.fst).filter (fun s => s.follower = w) =
      (seats.filter fun s => s.follower = w).map fun s => (g s).1 := by
  induction seats with
  | nil => rfl
  | cons s r ih => by_cases h : s.follower = w <;> simp_all

theorem deliveriesFor_map {g : Seat ω → Seat ω × Postings ω}
    (own : ∀ s, ∀ p ∈ (g s).2, p.1 = s.follower) (w : ω) (seats : List (Seat ω)) :
    Postings.deliveriesFor w ((seats.map g).flatMap Prod.snd) =
      (seats.filter fun s => s.follower = w).flatMap fun s => Postings.deliveriesFor w (g s).2 := by
  induction seats with
  | nil => rfl
  | cons s r ih =>
    rw [List.map_cons, List.flatMap_cons, Postings.deliveriesFor_append, ih]
    by_cases h : s.follower = w
    · simp [h]
    · have none_for : Postings.deliveriesFor w (g s).2 = [] :=
        Postings.deliveriesFor_eq_nil w fun p hp => by rw [own s p hp]; exact h
      simp [h, none_for]

end Flight
end CachingProxy
