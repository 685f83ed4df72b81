import CachingProxy.Proofs.Flight.Register
import CachingProxy.Proofs.Relay.Mishap
import CachingProxy.Proofs.Relay.Storing
import CachingProxy.Proofs.Relay.Turns

namespace CachingProxy

namespace Fed

/-- The chunks that come before anything else. -/
def chunks : List Fed → List Bytes
  | .chunk b :: rest => b :: chunks rest
  | _ => []

/-- What comes after these chunks, if anything does. -/
def fate? : List Fed → Option Fed
  | [] => none
  | .chunk _ :: rest => fate? rest
  | x :: _ => some x

variable (done : List Bytes) (rest : List Fed)

@[simp] theorem chunks_append : chunks (done.map .chunk ++ rest) = done ++ chunks rest := by
  induction done with
  | nil => rfl
  | cons b done ih => simpa [chunks] using ih

@[simp] theorem fate?_append : fate? (done.map .chunk ++ rest) = fate? rest := by
  induction done with
  | nil => rfl
  | cons b done ih => simpa [fate?] using ih

theorem fate?_cases {sent : List Fed} (known : (fate? sent).isSome = true) :
    (∃ e, fate? sent = some (.failed e)) ∨ fate? sent = some .ended ∨ fate? sent = some .panicked := by
  induction sent with
  | nil => cases known
  | cons x sent ih =>
    cases x with
    | chunk b => exact ih known
    | failed e => exact .inl ⟨e, rfl⟩
    | ended => exact .inr (.inl rfl)
    | panicked => exact .inr (.inr rfl)

@[simp] theorem chunks_script : chunks (script done) = done := by simp [script, chunks]

@[simp] theorem fate?_script : fate? (script done) = some .ended := by simp [script, fate?]

end Fed

theorem FlightTable.registered_undriven {ω : Type} {t : FlightTable ω} {m : Move ω} {id : FlightId}
    {key : String} (tidy : t.Tidy) (there : t.registered.get? key = some id)
    (undriven : m.drives id = false) (kept : m ≠ .remove key) :
    (t.step m).registered.get? key = some id := by
  rw [get?_registered_step tidy]
  cases m with
  | elect k w => simp [there]
  | remove k =>
    have other : k ≠ key := fun same => kept (same ▸ rfl)
    simp [other, there]
  | finish j | abandon j =>
    have other : id ≠ j := fun same => by simp [Move.drives, same] at undriven
    simp [there, other]
  | create _ | seat _ _ | setHead _ _ | append _ _ | flush _ _ | abort _ => exact there

/-- Whether the task has given up the lead, if it had one. -/
def Stage.hasLet : Stage → Bool
  | .leaving | .finished => true
  | _ => false

namespace Flight

variable {ω : Type} {f : Flight ω} {stage : Stage} {h : Head} {sent : List Fed} {taken : List Bytes}

/-- What a flight shows of the chunks that its relay has taken, by the stage of the task. -/
def Shows (f : Flight ω) (stage : Stage) (h : Head) (sent : List Fed) (taken : List Bytes) : Prop :=
  match stage with
  | .fetching | .opening _ => f.Carries none []
  | .leaving => f.Landed h taken.flatten
  | .finished =>
    if Fed.fate? sent = some .ended then f.Landed h taken.flatten
    else f.Crashed (some h) taken.flatten
  | _ => f.Carries (some h) taken.flatten

theorem shows_join (shows : f.Shows stage h sent taken) (w : ω) :
    (f.join w).1.Shows stage h sent taken := by
  unfold Shows at shows ⊢
  split at shows
  · exact carries_join shows w
  · exact carries_join shows w
  · exact landed_join shows w
  · split at shows
    · next good => exact (if_pos good).symm ▸ landed_join shows w
    · next bad => exact (if_neg bad).symm ▸ crashed_join shows w
  · exact carries_join shows w

end Flight

namespace Relay

variable {ω : Type} {r r' : Relay} {c c' : Cache ω} {ps : Postings ω} {h : Head}
  {sent upcoming : List Fed} {taken : List Bytes} {f : Flight ω}

def taking (r : Relay) : List Bytes :=
  match r.stage with
  | .pumping _ =>
    match r.feed with
    | .chunk b :: _ => [b]
    | _ => []
  | _ => []

/-- How the chunks taken so far and what is still to come make up all that the origin sends, by the
stage of the task. -/
def Account (r : Relay) (h : Head) (sent coming : List Fed) (taken : List Bytes) : Prop :=
  match r.stage with
  | .fetching => r.fetched = some (.answered h) ∧ taken = [] ∧ coming = sent
  | .opening g => g = h ∧ taken = [] ∧ coming = sent
  | .pumping g | .offering g _ => g = h ∧ sent = taken.map .chunk ++ coming
  | .storing g => g = h ∧ taken = Fed.chunks sent ∧ Fed.fate? sent = some .ended
  | .landing | .leaving => taken = Fed.chunks sent ∧ Fed.fate? sent = some .ended
  | .reporting detail =>
    taken = Fed.chunks sent ∧ ∃ e, Fed.fate? sent = some (.failed e) ∧ detail = e.message
  | .failing | .abandoning =>
    taken = Fed.chunks sent ∧
      ((∃ e, Fed.fate? sent = some (.failed e)) ∨ Fed.fate? sent = some .panicked)
  | .refusing _ => False
  | .finished => taken = Fed.chunks sent ∧ (Fed.fate? sent).isSome

theorem account_turn (account : r.Account h sent (r.feed ++ upcoming) taken) (turn : r.Turn r') :
    r'.Account h sent (r'.feed ++ upcoming) (taken ++ r.taking) := by
  cases turn with
  | answered g stage known =>
    simp only [Account, stage, known] at account
    obtain ⟨same, rfl, rfl⟩ := account
    cases same
    simp [Account, taking, stage]
  | refused e stage known | died stage known =>
    simp only [Account, stage, known] at account
    cases account.1
  | opened g stage =>
    simp only [Account, stage] at account
    obtain ⟨rfl, rfl, rfl⟩ := account
    simp [Account, taking, stage]
  | took g b rest stage next =>
    simp only [Account, stage, next] at account
    simpa [Account, taking, stage, next] using account
  | broke g e rest stage next =>
    simp only [Account, stage, next] at account
    obtain ⟨rfl, rfl⟩ := account
    simp [Account, taking, stage, next, Fed.chunks, Fed.fate?]
  | ended g rest stage next =>
    simp only [Account, stage, next] at account
    obtain ⟨rfl, rfl⟩ := account
    simp [Account, taking, stage, next, Fed.chunks, Fed.fate?]
  | panicked g rest stage next =>
    simp only [Account, stage, next] at account
    obtain ⟨rfl, rfl⟩ := account
    simp [Account, taking, stage, next, Fed.chunks, Fed.fate?]
  | offered g b stage room =>
    simp only [Account, stage] at account
    simpa [Account, taking, stage] using account
  | reported detail stage room =>
    simp only [Account, stage] at account
    obtain ⟨all, e, fate, -⟩ := account
    simpa [Account, taking, stage] using ⟨all, .inl ⟨e, fate⟩⟩
  | stored g stage =>
    simp only [Account, stage] at account
    simpa [Account, taking, stage] using account.2
  | landed stage =>
    simp only [Account, stage] at account
    simpa [Account, taking, stage] using account
  | left stage =>
    simp only [Account, stage] at account
    simp [Account, taking, stage, account]
  | failed stage =>
    simp only [Account, stage] at account
    simpa [Account, taking, stage] using account
  | abandoned stage =>
    simp only [Account, stage] at account
    obtain ⟨all, ⟨e, fate⟩ | fate⟩ := account <;> simp [Account, taking, stage, all, fate]
  | told e stage => simp only [Account, stage] at account

theorem shows_turn (account : r.Account h sent (r.feed ++ upcoming) taken)
    (shows : f.Shows r.stage h sent taken) (turn : r.Turn r') :
    (f.after r.acts).Shows r'.stage h sent (taken ++ r.taking) := by
  cases turn with
  | answered g stage known =>
    simpa [stage, Flight.Shows, acts, taking] using shows
  | refused e stage known | died stage known =>
    simp only [Account, stage, known] at account
    cases account.1
  | opened g stage =>
    simp only [Account, stage] at account
    obtain ⟨rfl, rfl, -⟩ := account
    simp only [stage, Flight.Shows] at shows
    simp only [stage, Flight.Shows, acts, taking]
    exact Flight.carries_flush (Flight.carries_setHead shows g)
  | took g b rest stage next =>
    simp only [stage, Flight.Shows] at shows
    simp only [stage, next, Flight.Shows, acts, taking, List.flatten_concat]
    exact Flight.carries_flush (Flight.carries_append shows b)
  | broke g e rest stage next | ended g rest stage next | panicked g rest stage next =>
    simpa [stage, next, Flight.Shows, acts, taking] using shows
  | offered g b stage room | reported detail stage room | stored g stage | failed stage =>
    simpa [stage, Flight.Shows, acts, taking] using shows
  | landed stage =>
    simp only [stage, Flight.Shows] at shows
    simp only [stage, Flight.Shows, acts, taking, List.append_nil]
    exact Flight.landed_finish shows
  | left stage =>
    simp only [Account, stage] at account
    simpa [stage, account.2, Flight.Shows, acts, taking] using shows
  | abandoned stage =>
    simp only [Account, stage] at account
    have bad : Fed.fate? sent ≠ some .ended := by
      obtain ⟨-, ⟨e, fate⟩ | fate⟩ := account <;> simp [fate]
    simp only [stage, Flight.Shows] at shows
    simp only [stage, Flight.Shows, if_neg bad, acts, taking, List.append_nil]
    exact Flight.crashed_abort shows
  | told e stage => simp only [Account, stage] at account

theorem lead_turn (turn : r.Turn r') (going : r'.stage.hasLet = false) :
    r.stage.hasLet = false ∧ r'.lead = r.lead := by
  cases turn with
  | landed stage | left stage | abandoned stage | told e stage => cases going
  | answered g stage | refused e stage | died stage | opened g stage | took g b rest stage
  | broke g e rest stage | ended g rest stage | panicked g rest stage | offered g b stage
  | reported detail stage | stored g stage | failed stage => simp [stage, Stage.hasLet]

theorem kept_turn (account : r.Account h sent (r.feed ++ upcoming) taken)
    (storable : h.isStorable = true) (unled : r.stage.hasLet = false → r.lead = none)
    (kept : r.kept = taken.flatten) (turn : r.Turn r') :
    r'.kept = (taken ++ r.taking).flatten := by
  cases turn with
  | took g b rest stage next =>
    simp only [Account, stage] at account
    obtain ⟨rfl, -⟩ := account
    have unled := unled (by rw [stage]; rfl)
    simp [taking, stage, next, unled, storable, kept]
  | broke g e rest stage next | ended g rest stage next | panicked g rest stage next =>
    simpa [taking, stage, next] using kept
  | answered g stage | refused e stage | died stage | opened g stage | offered g b stage
  | reported detail stage | stored g stage | landed stage | left stage | failed stage
  | abandoned stage | told e stage => simpa [taking, stage] using kept

theorem idle_of_hasLet (gone : r.stage.hasLet = true) :
    (r.moves : List (FlightTable.Move ω)) = [] ∧ (r.acts : List (Flight.Move ω)) = [] := by
  cases stage : r.stage with
  | leaving | finished => cases lead : r.lead <;> simp [moves, acts, stage, lead]
  | _ => simp [stage, Stage.hasLet] at gone

theorem flight?_acted {lead : Option FlightId} {id : FlightId} (sound : c.flights.Sound)
    (leads : r.stage.hasLet = false → r.lead = lead) (own : id ∈ lead)
    (there : c.flights.flight? id = some f) (stepped : r.step c = some (c', r', ps)) :
    c'.flights.flight? id = some (f.after r.acts) := by
  rw [(step_done stepped).1]
  cases gone : r.stage.hasLet with
  | false => exact flight?_moves sound ((leads gone).trans own) there
  | true =>
    obtain ⟨unmoved, unacted⟩ := idle_of_hasLet (ω := ω) gone
    rw [unmoved, unacted]
    exact there

/-- A relay whose request was answered with `h`, with the flight that it leads or led, if any. -/
structure Bound (r : Relay) (c : Cache ω) (lead : Option FlightId) (h : Head)
    (sent upcoming : List Fed) (taken : List Bytes) : Prop where
  account : r.Account h sent (r.feed ++ upcoming) taken
  leads : r.stage.hasLet = false → r.lead = lead
  shows : ∀ id ∈ lead, ∃ f, c.flights.flight? id = some f ∧ f.Shows r.stage h sent taken
  kept : lead = none → h.isStorable = true → r.kept = taken.flatten

variable {lead : Option FlightId} {id : FlightId} {m : FlightTable.Move ω}

theorem bound_step (bound : r.Bound c lead h sent upcoming taken) (sound : c.flights.Sound)
    (stepped : r.step c = some (c', r', ps)) :
    r'.Bound c' lead h sent upcoming (taken ++ r.taking) := by
  have turn := turn_of_step stepped
  refine ⟨account_turn bound.account turn, fun going => ?_, fun id own => ?_, fun unled storable => ?_⟩
  · obtain ⟨before, same⟩ := lead_turn turn going
    exact same.trans (bound.leads before)
  · obtain ⟨f, there, shows⟩ := bound.shows id own
    exact ⟨_, flight?_acted sound bound.leads own there stepped, shows_turn bound.account shows turn⟩
  · exact kept_turn bound.account storable (fun going => (bound.leads going).trans unled)
      (bound.kept unled storable) turn

theorem bound_others {ms : List (FlightTable.Move ω)} (bound : r.Bound c lead h sent upcoming taken)
    (sound : c.flights.Sound) (undriven : ∀ id ∈ lead, ∀ m ∈ ms, m.drives id = false)
    (flights : c'.flights = c.flights.after ms) : r.Bound c' lead h sent upcoming taken := by
  refine ⟨bound.account, bound.leads, fun id own => ?_, bound.kept⟩
  rw [flights]
  exact FlightTable.kept_undriven (fun _ w shows => Flight.shows_join shows w) sound (undriven id own)
    (bound.shows id own)

theorem gathered_of_bound {g : Head} (bound : r.Bound c lead h sent upcoming taken)
    (storable : h.isStorable = true) (stage : r.stage = .storing g) :
    g = h ∧ r.gathered? c g = some ⟨h, (Fed.chunks sent).flatten⟩ := by
  have account := bound.account
  simp only [Account, stage] at account
  obtain ⟨rfl, rfl, -⟩ := account
  refine ⟨rfl, ?_⟩
  have leads := bound.leads (by rw [stage]; rfl)
  cases lead with
  | none =>
    rw [gathered?, leads, bound.kept rfl storable]
  | some id =>
    obtain ⟨f, there, shows⟩ := bound.shows id rfl
    simp only [stage, Flight.Shows] at shows
    simp [gathered?, leads, there, Flight.snapshot?, shows.head, shows.body]

/-- A step of the task leaves the store as it is, or else it has now stored the whole answer. -/
theorem stored_step (bound : r.Bound c lead h sent upcoming taken) (storable : h.isStorable = true)
    (sound : c.store.Sound) (stepped : r.step c = some (c', r', ps)) :
    c'.store = c.store ∧
        (r'.stage.hasStored = r.stage.hasStored ∨ Fed.fate? sent ≠ some .ended) ∨
      c'.store.peek r.host r.path = some ⟨h, (Fed.chunks sent).flatten⟩ := by
  have store := (step_done stepped).2.2
  have account := bound.account
  cases turn_of_step stepped with
  | stored g stage =>
    obtain ⟨rfl, gathered⟩ := gathered_of_bound bound storable stage
    have ops : r.ops c = [.store r.host r.path ⟨g, (Fed.chunks sent).flatten⟩] := by
      simp [ops, stage, gathered, storable]
    rw [store, ops]
    exact .inr (Store.peek_store_self sound _)
  | abandoned stage =>
    simp only [ops, stage] at store
    refine .inl ⟨store, .inr ?_⟩
    simp only [Account, stage] at account
    obtain ⟨-, ⟨e, fate⟩ | fate⟩ := account <;> simp [fate]
  | told e stage => simp only [Account, stage] at account
  | answered g stage | refused e stage | died stage | opened g stage | took g b rest stage
  | broke g e rest stage | ended g rest stage | panicked g rest stage | offered g b stage
  | reported detail stage | landed stage | left stage | failed stage =>
    simp only [ops, stage] at store
    exact .inl ⟨store, .inl (by simp [stage, Stage.hasStored])⟩

theorem registered_turn (tidy : c.flights.Tidy) (stepped : r.step c = some (c', r', ps)) (key : String) :
    c'.flights.registered.get? key = c.flights.registered.get? key ∨
      r'.stage.hasLet = true ∧ r.lead.isSome ∧ c.flights.registered.get? key = r.lead ∧
        c'.flights.registered.get? key = none := by
  have flights := (step_done stepped).1
  cases lead : r.lead with
  | none =>
    have unmoved : (r.moves : List (FlightTable.Move ω)) = [] := by simp [moves, lead]
    rw [flights, unmoved]
    exact .inl rfl
  | some id =>
    have struck {m : FlightTable.Move ω} (gives_up : m = .finish id ∨ m = .abandon id)
        (only : r.moves = [m]) (gone : r'.stage.hasLet = true) :
        c'.flights.registered.get? key = c.flights.registered.get? key ∨
          r'.stage.hasLet = true ∧ (some id).isSome ∧ c.flights.registered.get? key = some id ∧
            c'.flights.registered.get? key = none := by
      have step : c'.flights.registered.get? key =
          if c.flights.registered.get? key = some id then none
          else c.flights.registered.get? key := by
        rw [flights, only, FlightTable.after_cons, FlightTable.after_nil,
          FlightTable.get?_registered_step tidy]
        obtain rfl | rfl := gives_up <;> rfl
      by_cases own : c.flights.registered.get? key = some id
      · exact .inr ⟨gone, rfl, own, step.trans (if_pos own)⟩
      · exact .inl (step.trans (if_neg own))
    cases turn_of_step stepped with
    | landed stage => exact struck (.inl rfl) (by simp [moves, lead, stage]) rfl
    | abandoned stage => exact struck (.inr rfl) (by simp [moves, lead, stage]) rfl
    | told e stage => exact struck (.inr rfl) (by simp [moves, lead, stage]) rfl
    | opened g stage =>
      simp only [moves, lead, stage] at flights
      simp [flights, FlightTable.step, FlightTable.perform, FlightTable.setHead, FlightTable.flush]
    | took g b rest stage next =>
      simp only [moves, lead, stage, next] at flights
      simp [flights, FlightTable.step, FlightTable.perform, FlightTable.append, FlightTable.flush]
    | broke g e rest stage next | ended g rest stage next | panicked g rest stage next =>
      simp only [moves, lead, stage, next] at flights
      exact .inl (by rw [flights]; rfl)
    | answered g stage | refused e stage | died stage | offered g b stage
    | reported detail stage | stored g stage | left stage | failed stage =>
      simp only [moves, lead, stage] at flights
      exact .inl (by rw [flights]; rfl)

end Relay
end CachingProxy
