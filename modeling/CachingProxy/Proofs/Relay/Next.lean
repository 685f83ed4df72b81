import CachingProxy.Proofs.Relay.Moves
import CachingProxy.Proofs.Relay.Turns

namespace CachingProxy.Relay

variable {ω : Type}

/-- The relay after the next step of its task; nothing if the task has to wait. -/
def next? (r : Relay) : Option Relay :=
  match r.stage with
  | .fetching =>
    match r.fetched with
    | none => none
    | some (.answered h) =>
      some { r with fetched := none, head := .given (.ok h), stage := .opening h }
    | some (.failed f) => some { r with fetched := none, stage := .refusing f }
    | some .panicked => some { r with fetched := none, head := .abandoned, stage := .abandoning }
  | .opening h => some { r with stage := .pumping h }
  | .pumping h =>
    match r.feed with
    | [] => none
    | .chunk b :: feed =>
      let kept := if r.lead = none ∧ h.isStorable then r.kept ++ b else r.kept
      some { r with feed, kept, stage := .offering h b }
    | .failed f :: feed => some { r with feed, stage := .reporting f.message }
    | .ended :: feed => some { r with feed, stage := .storing h }
    | .panicked :: feed => some { r with feed, stage := .failing }
  | .offering h b =>
    match r.client.send (.ok b) with
    | (_, .full) => none
    | (client, _) => some { r with client, stage := .pumping h }
  | .reporting detail =>
    match r.client.send (.error detail) with
    | (_, .full) => none
    | (client, _) => some { r with client, stage := .failing }
  | .storing _ => some { r with stage := .landing }
  | .landing => some { r with lead := none, stage := .leaving }
  | .leaving => some { r with client := r.client.hangUp, stage := .finished }
  | .failing => some { r with client := r.client.hangUp, stage := .abandoning }
  | .abandoning => some { r with lead := none, stage := .finished }
  | .refusing f => some { r with lead := none, head := .given (.error f), stage := .finished }
  | .finished => none

theorem map_step (c : Cache ω) (r : Relay) : (r.step c).map (fun x => x.2.1) = r.next? := by
  cases stage : r.stage with
  | fetching =>
    simp only [step, next?, stage]
    obtain _ | _ | _ | _ := r.fetched <;> rfl
  | pumping h =>
    simp only [step, next?, stage]
    obtain _ | ⟨_ | _ | _ | _, _⟩ := r.feed <;> rfl
  | offering h b =>
    simp only [step, next?, stage]
    obtain ⟨client, _ | _ | _⟩ := r.client.send (.ok b) <;> rfl
  | reporting detail =>
    simp only [step, next?, stage]
    obtain ⟨client, _ | _ | _⟩ := r.client.send (.error detail) <;> rfl
  | opening _ | storing _ | landing | leaving | failing | abandoning | refusing _ | finished =>
    simp only [step, next?, stage]
    rfl

/-- A step of the task is what becomes of the relay, its moves and its operations. -/
theorem step_eq (c : Cache ω) (r : Relay) :
    r.step c = r.next?.map fun r' =>
      ({ store := c.store.after (r.ops c), flights := c.flights.after r.moves }, r',
        c.flights.posted r.moves) := by
  have next := map_step c r
  cases stepped : r.step c with
  | none =>
    rw [stepped] at next
    rw [← next]
    rfl
  | some x =>
    obtain ⟨c', r', ps⟩ := x
    obtain ⟨flights, posted, store⟩ := step_done stepped
    rw [stepped] at next
    rw [← next, ← flights, ← posted, ← store]
    rfl

theorem turn_of_next? {r r' : Relay} (becomes : r.next? = some r') : r.Turn r' := by
  have eq := step_eq (ω := Empty) { store := ⟨1, Nat.one_pos, .empty, 0, 0, 0, 0⟩ } r
  rw [becomes] at eq
  exact turn_of_step eq

end CachingProxy.Relay
