import CachingProxy.Proofs.Relay.Turns
import CachingProxy.Proofs.Relay.Underway

namespace CachingProxy

variable {ω : Type}

def Stage.hasStored : Stage → Bool
  | .landing | .leaving | .finished => true
  | _ => false

namespace Relay

variable {c c' : Cache ω} {r r' : Relay} {ps : Postings ω}

theorem hasStored_step (stored : r.stage.hasStored = true)
    (stepped : r.step c = some (c', r', ps)) : r'.stage.hasStored = true ∧ r.ops c = [] := by
  cases stage : r.stage with
  | landing | leaving =>
    simp only [step, stage] at stepped
    cases stepped
    exact ⟨rfl, by simp [ops, stage]⟩
  | finished => simp [step, stage] at stepped
  | _ => simp [stage, Stage.hasStored] at stored

theorem stage_of_hasStored (before : r.stage.hasStored = false) (after : r'.stage.hasStored = true)
    (stepped : r.step c = some (c', r', ps)) :
    (∃ g, r.stage = .storing g) ∨ r.stage = .abandoning ∨ ∃ e, r.stage = .refusing e := by
  cases turn_of_step stepped with
  | stored g stage => exact .inl ⟨g, stage⟩
  | abandoned stage => exact .inr (.inl stage)
  | told e stage => exact .inr (.inr ⟨e, stage⟩)
  | landed stage | left stage =>
    rw [stage] at before
    cases before
  | _ => cases after

end Relay

namespace Exchange

variable [DecidableEq ω] {s : Exchange ω} {e : Event ω} {es : List (Event ω)} {host path : String}
  {id : FlightId} {h : Head} {chunks : List Bytes}

def storing (s : Exchange ω) : Event ω → List Store.Op
  | .advance =>
    match s.relay.step s.cache with
    | none => []
    | some _ => s.relay.ops s.cache
  | .store o => [o]
  | _ => []

theorem store_step : (s.step e).cache.store = s.cache.store.after (s.storing e) := by
  cases e with
  | send =>
    simp only [step, storing]
    split <;> rfl
  | advance =>
    cases stepped : s.relay.step s.cache with
    | none => simp [step, storing, stepped]
    | some x =>
      simp only [step, storing, stepped]
      exact (Relay.step_done stepped).2.2
  | read | flights _ | store _ | execute _ | listen _ => rfl

theorem store_sound_step (sound : s.cache.store.Sound) (e : Event ω) :
    (s.step e).cache.store.Sound := by
  rw [store_step]
  exact Store.sound_after sound _

theorem name_read (r : Relay) (c : Client) :
    (r.read c).1.host = r.host ∧ (r.read c).1.path = r.path ∧ (r.read c).1.stage = r.stage := by
  unfold Relay.read
  split
  · exact ⟨rfl, rfl, rfl⟩
  · split
    · split <;> exact ⟨rfl, rfl, rfl⟩
    · split <;> exact ⟨rfl, rfl, rfl⟩

theorem name_step (named : s.relay.host = host ∧ s.relay.path = path) (e : Event ω) :
    (s.step e).relay.host = host ∧ (s.step e).relay.path = path := by
  cases e with
  | send =>
    simp only [step]
    split <;> exact named
  | advance =>
    cases stepped : s.relay.step s.cache with
    | none => simpa only [step, stepped] using named
    | some x =>
      obtain ⟨host', path'⟩ := Relay.name_step stepped
      simp only [step, stepped]
      exact ⟨host'.trans named.1, path'.trans named.2⟩
  | read =>
    obtain ⟨host', path', -⟩ := name_read s.relay s.client
    exact ⟨host'.trans named.1, path'.trans named.2⟩
  | flights _ | store _ | execute _ | listen _ => exact named

/-- What others do to the store, once the relay has stored its answer, that takes the answer for a path
away or puts another in its place. -/
def losses (host path : String) (s : Exchange ω) (es : List (Event ω)) : List Store.Op :=
  Course.noted step
    (fun s e => match e with
      | .store o =>
        if s.relay.stage.hasStored ∧ s.cache.store.loses host path o then [o] else []
      | _ => []) s es

theorem peek_stored {g : Head} (u : s.Underway id h chunks) (sound : s.cache.store.Sound)
    (storable : h.isStorable = true) (stage : s.relay.stage = .storing g) :
    (s.step .advance).cache.store.peek s.relay.host s.relay.path = some ⟨h, chunks.flatten⟩ := by
  obtain ⟨f, there, carried⟩ := u.carried
  simp only [Relay.Carried, stage] at carried
  obtain ⟨rfl, lead, carries, -⟩ := carried
  have gathered : s.relay.gathered? s.cache g = some ⟨g, chunks.flatten⟩ := by
    simp [Relay.gathered?, lead, there, Flight.snapshot?, carries.head, carries.body]
  have result : ∃ ps, s.relay.step s.cache = some
      ({ s.cache with store := s.cache.store.store s.relay.host s.relay.path ⟨g, chunks.flatten⟩ },
        { s.relay with stage := .landing }, ps) := by
    simp [Relay.step, stage, gathered, storable]
  obtain ⟨ps, stepped⟩ := result
  simp only [step, stepped]
  exact Store.peek_store_self sound _

theorem peek_step (u : s.Underway id h chunks) (sound : s.cache.store.Sound)
    (storable : h.isStorable = true) (named : s.relay.host = host ∧ s.relay.path = path)
    (there : s.relay.stage.hasStored = true →
      s.cache.store.peek host path = some ⟨h, chunks.flatten⟩)
    (kept : losses host path s [e] = []) (stored : (s.step e).relay.stage.hasStored = true) :
    (s.step e).cache.store.peek host path = some ⟨h, chunks.flatten⟩ := by
  cases e with
  | send =>
    cases upcoming : s.upcoming <;> simp only [step, upcoming] at stored ⊢ <;> exact there stored
  | advance =>
    obtain ⟨f, -, carried⟩ := u.carried
    cases stepped : s.relay.step s.cache with
    | none =>
      simp only [step, stepped] at stored ⊢
      exact there stored
    | some x =>
      cases before : s.relay.stage.hasStored with
      | true =>
        rw [store_step]
        simp only [storing, stepped, (Relay.hasStored_step before stepped).2]
        exact there before
      | false =>
        -- This is the step that stores, since a relay on its way never fails.
        simp only [step, stepped] at stored
        rcases Relay.stage_of_hasStored before stored stepped with ⟨g, stage⟩ | failing
        · rw [← named.1, ← named.2]
          exact peek_stored u sound storable stage
        · rcases failing with stage | ⟨e, stage⟩ <;> simp only [Relay.Carried, stage] at carried
  | read => exact there ((name_read s.relay s.client).2.2 ▸ stored)
  | store o =>
    have same : s.cache.store.loses host path o = false := by
      have now : s.relay.stage.hasStored = true := stored
      simpa [losses, now] using kept
    exact (Store.peek_step sound same).trans (there stored)
  | flights _ | execute _ | listen _ => exact there stored

end Exchange
end CachingProxy
