import CachingProxy.Relay

namespace CachingProxy.Relay

variable {ω : Type} {c c' : Cache ω} {r r' : Relay} {ps : Postings ω}

/-- A step of the task, by the stage from which it is made. -/
inductive Turn (r : Relay) : Relay → Prop
  | answered (h : Head) (stage : r.stage = .fetching) (known : r.fetched = some (.answered h)) :
    Turn r { r with fetched := none, head := .given (.ok h), stage := .opening h }
  | refused (f : Failure) (stage : r.stage = .fetching) (known : r.fetched = some (.failed f)) :
    Turn r { r with fetched := none, stage := .refusing f }
  | died (stage : r.stage = .fetching) (known : r.fetched = some .panicked) :
    Turn r { r with fetched := none, head := .abandoned, stage := .abandoning }
  | opened (h : Head) (stage : r.stage = .opening h) : Turn r { r with stage := .pumping h }
  | took (h : Head) (b : Bytes) (rest : List Fed) (stage : r.stage = .pumping h)
    (next : r.feed = .chunk b :: rest) :
    Turn r { r with
      feed := rest
      kept := if r.lead = none ∧ h.isStorable then r.kept ++ b else r.kept
      stage := .offering h b }
  | broke (h : Head) (f : Failure) (rest : List Fed) (stage : r.stage = .pumping h)
    (next : r.feed = .failed f :: rest) :
    Turn r { r with feed := rest, stage := .reporting f.message }
  | ended (h : Head) (rest : List Fed) (stage : r.stage = .pumping h) (next : r.feed = .ended :: rest) :
    Turn r { r with feed := rest, stage := .storing h }
  | panicked (h : Head) (rest : List Fed) (stage : r.stage = .pumping h)
    (next : r.feed = .panicked :: rest) : Turn r { r with feed := rest, stage := .failing }
  | offered (h : Head) (b : Bytes) (stage : r.stage = .offering h b)
    (room : (r.client.send (.ok b)).2 ≠ .full) :
    Turn r { r with client := (r.client.send (.ok b)).1, stage := .pumping h }
  | reported (detail : String) (stage : r.stage = .reporting detail)
    (room : (r.client.send (.error detail)).2 ≠ .full) :
    Turn r { r with client := (r.client.send (.error detail)).1, stage := .failing }
  | stored (h : Head) (stage : r.stage = .storing h) : Turn r { r with stage := .landing }
  | landed (stage : r.stage = .landing) : Turn r { r with lead := none, stage := .leaving }
  | left (stage : r.stage = .leaving) :
    Turn r { r with client := r.client.hangUp, stage := .finished }
  | failed (stage : r.stage = .failing) :
    Turn r { r with client := r.client.hangUp, stage := .abandoning }
  | abandoned (stage : r.stage = .abandoning) : Turn r { r with lead := none, stage := .finished }
  | told (f : Failure) (stage : r.stage = .refusing f) :
    Turn r { r with lead := none, head := .given (.error f), stage := .finished }

theorem turn_of_step (stepped : r.step c = some (c', r', ps)) : r.Turn r' := by
  cases stage : r.stage with
  | fetching =>
    simp only [step, stage] at stepped
    split at stepped <;> cases stepped
    · next h known => exact .answered h stage known
    · next f known => exact .refused f stage known
    · next known => exact .died stage known
  | opening h =>
    simp only [step, stage] at stepped
    cases stepped
    exact .opened h stage
  | pumping h =>
    simp only [step, stage] at stepped
    split at stepped <;> cases stepped
    · next b rest next => exact .took h b rest stage next
    · next f rest next => exact .broke h f rest stage next
    · next rest next => exact .ended h rest stage next
    · next rest next => exact .panicked h rest stage next
  | offering h b =>
    simp only [step, stage] at stepped
    split at stepped
    · cases stepped
    · next client sending room same =>
      cases stepped
      have turn := Turn.offered h b stage (by rw [same]; exact room)
      rwa [same] at turn
  | reporting detail =>
    simp only [step, stage] at stepped
    split at stepped
    · cases stepped
    · next client sending room same =>
      cases stepped
      have turn := Turn.reported detail stage (by rw [same]; exact room)
      rwa [same] at turn
  | storing h =>
    simp only [step, stage] at stepped
    cases stepped
    exact .stored h stage
  | landing =>
    simp only [step, stage] at stepped
    cases stepped
    exact .landed stage
  | leaving =>
    simp only [step, stage] at stepped
    cases stepped
    exact .left stage
  | failing =>
    simp only [step, stage] at stepped
    cases stepped
    exact .failed stage
  | abandoning =>
    simp only [step, stage] at stepped
    cases stepped
    exact .abandoned stage
  | refusing f =>
    simp only [step, stage] at stepped
    cases stepped
    exact .told f stage
  | finished => simp [step, stage] at stepped

theorem name_step (stepped : r.step c = some (c', r', ps)) : r'.host = r.host ∧ r'.path = r.path := by
  cases turn_of_step stepped <;> exact ⟨rfl, rfl⟩

theorem lead_step (stepped : r.step c = some (c', r', ps)) :
    r'.lead = r.lead ∨ r.stage = .landing ∨ r'.stage = .finished := by
  cases turn_of_step stepped with
  | landed stage => exact .inr (.inl stage)
  | abandoned _ | told _ _ => exact .inr (.inr rfl)
  | _ => exact .inl rfl

theorem stage_of_ended (stepped : r.step c = some (c', r', ps)) (ended : r'.stage = .finished) :
    r.stage = .leaving ∨ r.stage = .abandoning ∨ ∃ f, r.stage = .refusing f := by
  cases turn_of_step stepped with
  | left stage => exact .inl stage
  | abandoned stage => exact .inr (.inl stage)
  | told f stage => exact .inr (.inr ⟨f, stage⟩)
  | _ => cases ended

end CachingProxy.Relay
