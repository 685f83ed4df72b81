import CachingProxy.Proofs.Relay.Audience
import CachingProxy.Proofs.Relay.Mishap

namespace CachingProxy.Audience

variable {ω : Type} {s s' : Audience ω} {e : Event ω} {es : List (Event ω)} {x : Mishap}
  {unseen : List Fed} {lead : Option FlightId} {id : FlightId}

/-- What others do to the store. -/
def ops (es : List (Event ω)) : List Store.Op :=
  es.filterMap fun
    | .exchange (.store o) => some o
    | _ => none

/-- A relay whose fetch comes to a bad end, with the flight that it leads or led, if any. -/
structure Doomed (x : Mishap) (unseen : List Fed) (lead : Option FlightId) (s : Audience ω) : Prop where
  tidy : s.cache.flights.Tidy
  leads : s.relay.stage ≠ .finished → s.relay.lead = lead
  account : ∃ head body, s.relay.Fails x unseen s.pending s.coming head body ∧
    ∀ id ∈ lead, ∃ f, s.cache.flights.flight? id = some f ∧ f.Stands s.relay.stage head body
  struck : s.relay.stage = .finished →
    ∀ id ∈ lead, ∀ key, s.cache.flights.registered.get? key ≠ some id

theorem doomed_congr (d : s.Doomed x unseen lead) (flights : s'.cache.flights = s.cache.flights)
    (stage : s'.relay.stage = s.relay.stage) (leads : s'.relay.lead = s.relay.lead)
    (asks : s.relay.Asks x s.pending → s'.relay.Asks x s'.pending) (coming : s'.coming = s.coming) :
    s'.Doomed x unseen lead := by
  obtain ⟨head, body, account, stands⟩ := d.account
  refine ⟨flights ▸ d.tidy, ?_,
    ⟨head, body, coming ▸ Relay.fails_congr account stage asks, ?_⟩, ?_⟩
  · rw [stage, leads]
    exact d.leads
  · rw [flights, stage]
    exact stands
  · rw [flights, stage]
    exact d.struck

variable [DecidableEq ω]

theorem registered_ended (d : s.Doomed x unseen lead) (going : s.relay.stage ≠ .finished)
    (ended : (s.step (.exchange .advance)).relay.stage = .finished) (key : String) :
    (s.step (.exchange .advance)).cache.flights.registered.get? key =
      if s.cache.flights.registered.get? key = lead then none
      else s.cache.flights.registered.get? key := by
  obtain ⟨head, body, account, -⟩ := d.account
  cases stepped : s.relay.step s.cache with
  | none =>
    simp only [step, Visit.step, Exchange.step, stepped] at ended
    exact absurd ended going
  | some y =>
    simp only [step, Visit.step, Exchange.step, stepped] at ended
    -- The good ends are not in the account, so the step abandons the flight if there is one.
    have moves : s.moving (.exchange .advance) = lead.toList.map .abandon := by
      rw [← d.leads going]
      simp only [moving, Visit.moving, Exchange.moving, stepped]
      obtain stage | stage | ⟨f, stage⟩ := Relay.stage_of_ended stepped ended
      · simp only [Relay.Fails, stage] at account
      · cases leads : s.relay.lead <;> simp [Relay.moves, leads, stage]
      · cases leads : s.relay.lead <;> simp [Relay.moves, leads, stage]
    rw [flights_step, moves]
    cases lead with
    | none =>
      show s.cache.flights.registered.get? key = _
      split
      · assumption
      · rfl
    | some id => exact FlightTable.get?_registered_step d.tidy (.abandon id) key

theorem doomed_advance (d : s.Doomed x unseen lead) :
    (s.step (.exchange .advance)).Doomed x unseen lead := by
  cases stepped : s.relay.step s.cache with
  | none => simpa [step, Visit.step, Exchange.step, stepped] using d
  | some y =>
    obtain ⟨c, r, ps⟩ := y
    have going : s.relay.stage ≠ .finished := by
      intro finished
      simp [Relay.step, finished] at stepped
    have relay : (s.step (.exchange .advance)).relay = r := by
      simp [step, Visit.step, Exchange.step, stepped, Exchange.post]
    have kept : (s.step (.exchange .advance)).pending = s.pending ∧
        (s.step (.exchange .advance)).upcoming = s.upcoming := by
      simp [step, Visit.step, Exchange.step, stepped, Exchange.post]
    have flights : (s.step (.exchange .advance)).cache.flights =
        s.cache.flights.after s.relay.moves := by
      rw [flights_step]
      simp [moving, Visit.moving, Exchange.moving, stepped]
    obtain ⟨head, body, account, stands⟩ := d.account
    obtain ⟨head', body', account', carried⟩ :=
      Relay.fails_turn account (Relay.turn_of_step stepped)
    refine ⟨flights ▸ d.tidy.after _, ?_, ⟨head', body', ?_, ?_⟩, ?_⟩
    · rw [relay]
      intro unfinished
      obtain same | landing | finished := Relay.lead_step stepped
      · exact same.trans (d.leads going)
      · simp only [Relay.Fails, landing] at account
      · exact absurd finished unfinished
    · rw [Exchange.coming, relay, kept.1, kept.2]
      exact account'
    · intro id own
      obtain ⟨f, there, stood⟩ := stands id own
      have carries : f.Carries head body := by rwa [Flight.Stands, if_neg going] at stood
      refine ⟨f.after s.relay.acts, ?_, relay ▸ carried f carries⟩
      rw [flights]
      exact Relay.flight?_moves d.tidy.sound ((d.leads going).trans own) there
    · intro ended id own key
      rw [registered_ended d going ended, own]
      split
      · simp
      · assumption

theorem doomed_flights {m : FlightTable.Move ω} (d : s.Doomed x unseen lead)
    (others : ∀ id ∈ lead, m.drives id = false) :
    (s.step (.exchange (.flights m))).Doomed x unseen lead := by
  obtain ⟨head, body, account, stands⟩ := d.account
  refine ⟨FlightTable.tidy_step d.tidy m, d.leads, ⟨head, body, account, fun id own => ?_⟩, ?_⟩
  · -- Whoever does not drive the flight can only join it.
    have undriven : ∀ n ∈ [m], n.drives id = false := fun n mem =>
      List.mem_singleton.mp mem ▸ others id own
    exact FlightTable.kept_undriven (fun _ w stood => Flight.stands_join stood w) d.tidy.sound
      undriven (stands id own)
  · intro finished id own
    obtain ⟨f, there, -⟩ := stands id own
    apply FlightTable.unregistered_step d.tidy.sound _ (d.struck finished id own)
    rw [there]
    rfl

/-- Whatever happens, as long as nobody else drives its flight, the relay stays doomed. -/
theorem doomed_step (d : s.Doomed x unseen lead) (e : Event ω)
    (others : ∀ id ∈ lead, ∀ m, e = .exchange (.flights m) → m.drives id = false) :
    (s.step e).Doomed x unseen lead := by
  cases e using Event.cases with
  | answer =>
    cases pending : s.pending with
    | none => simpa [step, pending] using d
    | some y =>
      simp only [step, pending]
      refine doomed_congr d rfl rfl rfl ?_ rfl
      rintro (⟨-, on_way⟩ | ⟨-, gone⟩)
      · exact .inr ⟨pending.symm.trans on_way, rfl⟩
      · cases pending.symm.trans gone
  | send =>
    cases upcoming : s.upcoming with
    | nil => simpa [step, Visit.step, Exchange.step, upcoming] using d
    | cons y rest =>
      simp only [step, Visit.step, Exchange.step, upcoming]
      exact doomed_congr d rfl rfl rfl (fun asks => asks) (by simp [Exchange.coming, upcoming])
  | advance => exact doomed_advance d
  | read =>
    simp only [step, Visit.step, Exchange.step]
    split
    · obtain ⟨client, read⟩ := s.relay.exists_read s.client
      rw [read]
      exact doomed_congr d rfl rfl rfl (fun asks => asks) rfl
    · exact d
  | flights m => exact doomed_flights d fun id own => others id own m rfl
  | execute w | listen w =>
    simp only [step]
    split <;> exact doomed_congr d rfl rfl rfl (fun asks => asks) rfl
  | leave | store _ | depart _ => exact doomed_congr d rfl rfl rfl (fun asks => asks) rfl

theorem doomed_after (d : s.Doomed x unseen lead) {es : List (Event ω)}
    (others : ∀ id ∈ lead, ∀ m, .exchange (.flights m) ∈ es → m.drives id = false) :
    (s.after es).Doomed x unseen lead :=
  Course.after_keeps_of (P := fun s : Audience ω => s.Doomed x unseen lead) d fun _ e mem d =>
    doomed_step d e fun id own m same => others id own m (same ▸ mem)

theorem store_step_doomed (d : s.Doomed x unseen lead) (e : Event ω) :
    (s.step e).cache.store = s.cache.store.after (ops [e]) := by
  cases e using Event.cases with
  | advance =>
    obtain ⟨head, body, account, -⟩ := d.account
    have unused : s.relay.ops s.cache = [] := by
      cases stage : s.relay.stage with
      | storing g => simp only [Relay.Fails, stage] at account
      | _ => simp [Relay.ops, stage]
    rw [step_advance, unused]
    split <;> rfl
  | answer | execute _ | listen _ =>
    simp only [step]
    split <;> rfl
  | send =>
    simp only [step, Visit.step, Exchange.step]
    split <;> rfl
  | read =>
    simp only [step, Visit.step, Exchange.step]
    split <;> rfl
  | leave | flights _ | store _ | depart _ => rfl

theorem store_after_doomed (d : s.Doomed x unseen lead) {es : List (Event ω)}
    (others : ∀ id ∈ lead, ∀ m, .exchange (.flights m) ∈ es → m.drives id = false) :
    (s.after es).cache.store = s.cache.store.after (ops es) := by
  induction es using List.reverseRecOn with
  | nil => rfl
  | append_singleton es e ih =>
    have before : ∀ id ∈ lead, ∀ m, Event.exchange (.flights m) ∈ es → m.drives id = false :=
      fun id own m mem => others id own m (List.mem_append_left _ mem)
    have split : ops (es ++ [e]) = ops es ++ ops [e] := List.filterMap_append
    rw [after_concat, store_step_doomed (doomed_after d before), ih before, split]
    exact (Course.after_append Store.step s.cache.store (ops es) (ops [e])).symm

end CachingProxy.Audience
