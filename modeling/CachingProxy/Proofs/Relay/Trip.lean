import CachingProxy.Proofs.Relay.Likeness

namespace CachingProxy

variable {ω : Type}

theorem exists_of_mem_set {α : Type} {l : List α} {i : Nat} {a b : α} (mem : b ∈ l.set i a) :
    b = a ∨ ∃ j, i ≠ j ∧ l[j]? = some b := by
  obtain ⟨j, place⟩ := List.mem_iff_getElem?.mp mem
  rw [List.getElem?_set] at place
  split at place
  · split at place
    · exact .inl (Option.some.inj place).symm
    · cases place
  · next other => exact .inr ⟨j, other, place⟩

namespace Relay

variable {r : Relay} {m : FlightTable.Move ω} {lead : Option FlightId} {id : FlightId}

theorem drives_of_mem_moves (mem : m ∈ r.moves) : ∃ id, r.lead = some id ∧ m.drives id = true := by
  cases lead : r.lead with
  | none => simp [moves, lead] at mem
  | some id =>
    refine ⟨id, rfl, ?_⟩
    simp only [moves, lead] at mem
    split at mem
    · obtain rfl | rfl : m = _ ∨ m = _ := by simpa using mem
      all_goals simp [FlightTable.Move.drives]
    · split at mem
      · obtain rfl | rfl : m = _ ∨ m = _ := by simpa using mem
        all_goals simp [FlightTable.Move.drives]
      · cases mem
    · rw [List.mem_singleton.mp mem]
      simp [FlightTable.Move.drives]
    · rw [List.mem_singleton.mp mem]
      simp [FlightTable.Move.drives]
    · rw [List.mem_singleton.mp mem]
      simp [FlightTable.Move.drives]
    · cases mem

theorem aside_of_mem_moves (leads : r.stage.hasLet = false → r.lead = lead) (foreign : lead ≠ some id)
    (mem : m ∈ r.moves) (key : String) : m.drives id = false ∧ m ≠ .remove key := by
  obtain ⟨j, own, drives⟩ := drives_of_mem_moves mem
  have other : j ≠ id := by
    rintro rfl
    cases gone : r.stage.hasLet with
    | false => exact foreign ((leads gone).symm.trans own)
    | true =>
      rw [(idle_of_hasLet gone).1] at mem
      cases mem
  cases m with
  | create _ | elect _ _ | seat _ _ | remove _ => cases drives
  | setHead k _ | append k _ | flush k _ | abort k | finish k | abandon k =>
    obtain rfl : k = j := by simpa [FlightTable.Move.drives] using drives
    exact ⟨by simpa [FlightTable.Move.drives] using other, by simp⟩

end Relay

/-- A fetch that an elected leader has begun, with the client that it is for. -/
structure Trip where
  id : FlightId
  relay : Relay
  upcoming : List Fed
  client : Client := {}

namespace Trip

inductive Event
  | send
  | advance
  | read
  | leave

def event : Event → Visit.Event ω
  | .send => .exchange .send
  | .advance => .exchange .advance
  | .read => .exchange .read
  | .leave => .leave

/-- The fetch as an exchange of its own, in which no follower has a part. -/
def visit (c : Cache ω) (t : Trip) : Exchange ω := ⟨c, t.relay, t.upcoming, t.client, fun _ => {}⟩

def step [DecidableEq ω] (c : Cache ω) (t : Trip) (e : Event) : Cache ω × Trip :=
  let x := Visit.step (t.visit c) (event e)
  (x.cache, { t with relay := x.relay, upcoming := x.upcoming, client := x.client })

variable {c c' : Cache ω} {t u : Trip} {host path key : String} {h : Head} {chunks : List Bytes}

def begin (id : FlightId) (host path : String) (h : Head) (chunks : List Bytes) : Trip where
  id := id
  relay := { host, path, lead := some id, fetched := some (.answered h) }
  upcoming := Fed.script chunks

/-- A fetch for a host and a path under a key, which brings an answer for the store. -/
structure Goes (host path key : String) (h : Head) (chunks : List Bytes) (c : Cache ω) (t : Trip) :
    Prop where
  storable : h.isStorable = true
  named : t.relay.host = host ∧ t.relay.path = path
  bound : ∃ taken, t.relay.Bound c (some t.id) h (Fed.script chunks) t.upcoming taken
  registered : t.relay.stage.hasLet = false → c.flights.registered.get? key = some t.id
  stored : t.relay.stage.hasStored = true → (c.store.peek host path).isSome = true

theorem goes_begin {id : FlightId} (storable : h.isStorable = true)
    (there : c.flights.flight? id = some { key }) (registered : c.flights.registered.get? key = some id) :
    (begin id host path h chunks).Goes host path key h chunks c := by
  refine ⟨storable, ⟨rfl, rfl⟩, ⟨[], ⟨rfl, rfl, rfl⟩, fun _ => rfl, ?_, nofun⟩, fun _ => registered, nofun⟩
  rintro j ⟨⟩
  exact ⟨_, there, ⟨rfl, rfl, rfl⟩⟩

theorem goes_others (ms : List (FlightTable.Move ω)) (goes : t.Goes host path key h chunks c)
    (tidy : c.flights.Tidy) (flights : c'.flights = c.flights.after ms)
    (aside : ∀ m ∈ ms, m.drives t.id = false ∧ m ≠ .remove key)
    (still : (c.store.peek host path).isSome = true → (c'.store.peek host path).isSome = true) :
    t.Goes host path key h chunks c' := by
  obtain ⟨storable, named, ⟨taken, bound⟩, registered, stored⟩ := goes
  refine ⟨storable, named, ⟨taken, Relay.bound_others bound tidy.sound ?_ flights⟩, fun going => ?_,
    still ∘ stored⟩
  · rintro id ⟨⟩ m mem
    exact (aside m mem).1
  · have kept : (c.flights.after ms).Tidy ∧ (c.flights.after ms).registered.get? key = some t.id := by
      refine Course.after_keeps_of (P := fun t' : FlightTable ω =>
        t'.Tidy ∧ t'.registered.get? key = some t.id) ⟨tidy, registered going⟩ ?_
      rintro t' m mem ⟨tidy, there⟩
      obtain ⟨undriven, kept⟩ := aside m mem
      exact ⟨FlightTable.tidy_step tidy m, FlightTable.registered_undriven tidy there undriven kept⟩
    rw [flights]
    exact kept.2

theorem alone (e : Event) (m : FlightTable.Move ω) : event e ≠ .exchange (.flights m) := by
  cases e <;> nofun

theorem mem_moves_of_moving {s : Exchange ω} {e : Event} {m : FlightTable.Move ω}
    (mem : m ∈ Visit.moving s (event e)) : m ∈ s.relay.moves := by
  cases e with
  | advance =>
    simp only [event, Visit.moving, Exchange.moving] at mem
    split at mem
    · cases mem
    · exact mem
  | send | read | leave => cases mem

theorem aside_moving {id : FlightId} {m : FlightTable.Move ω} (goes : t.Goes host path key h chunks c)
    (apart : t.id ≠ id) {e : Event} (mem : m ∈ Visit.moving (t.visit c) (event e)) (k : String) :
    m.drives id = false ∧ m ≠ .remove k := by
  obtain ⟨taken, bound⟩ := goes.bound
  exact Relay.aside_of_mem_moves bound.leads (fun own => apart (Option.some.inj own))
    (mem_moves_of_moving mem) k

variable [DecidableEq ω]

theorem flights_step (c : Cache ω) (t : Trip) (e : Event) :
    (step c t e).1.flights = c.flights.after (Visit.moving (t.visit c) (event e)) :=
  Visit.flights_step

theorem step_advance {r : Relay} {ps : Postings ω} (stepped : t.relay.step c = some (c', r, ps)) :
    step c t .advance = (c', { t with relay := r }) := by
  simp [step, event, visit, Visit.step, Exchange.step, Exchange.post, stepped]

theorem idle_step {e : Event} (idle : e = .advance → t.relay.step c = none) :
    (step c t e).1 = c ∧ (step c t e).2.relay.stage = t.relay.stage := by
  cases e with
  | send => cases upcoming : t.upcoming <;> simp [step, event, visit, Visit.step, Exchange.step, upcoming]
  | advance => simp [step, event, visit, Visit.step, Exchange.step, idle rfl]
  | read =>
    obtain ⟨client, read⟩ := t.relay.exists_read t.client
    simp only [step, event, visit, Visit.step, Exchange.step, read]
    split <;> exact ⟨rfl, rfl⟩
  | leave => exact ⟨rfl, rfl⟩

/-- A step of the fetch goes on as the step of its task does, or leaves cache and stage as they are. -/
theorem step_cases (c : Cache ω) (t : Trip) (e : Event) :
    (∃ r ps, t.relay.step c = some ((step c t e).1, r, ps) ∧ (step c t e).2 = { t with relay := r }) ∨
      (step c t e).1 = c ∧ (step c t e).2.relay.stage = t.relay.stage := by
  by_cases advances : e = .advance
  · cases stepped : t.relay.step c with
    | none => exact .inr (idle_step fun _ => stepped)
    | some y =>
      obtain ⟨c', r, ps⟩ := y
      rw [advances, step_advance stepped]
      exact .inl ⟨r, ps, rfl, rfl⟩
  · exact .inr (idle_step fun same => absurd same advances)

theorem store_step (goes : t.Goes host path key h chunks c) (sound : c.store.Sound) (e : Event) :
    (step c t e).1.store.Sound ∧
      ((c.store.peek host path).isSome = true → ((step c t e).1.store.peek host path).isSome = true) := by
  obtain ⟨r, ps, stepped, -⟩ | ⟨same, -⟩ := step_cases c t e
  · obtain ⟨taken, bound⟩ := goes.bound
    refine ⟨(Relay.step_done stepped).2.2 ▸ Store.sound_after sound _, fun there => ?_⟩
    obtain ⟨same, -⟩ | now := Relay.stored_step bound goes.storable sound stepped
    · rwa [same]
    · rw [goes.named.1, goes.named.2] at now
      rw [now]
      rfl
  · rw [same]
    exact ⟨sound, fun there => there⟩

theorem goes_own (goes : t.Goes host path key h chunks c) (tidy : c.flights.Tidy)
    (sound : c.store.Sound) (e : Event) : (step c t e).2.Goes host path key h chunks (step c t e).1 := by
  obtain ⟨storable, named, ⟨taken, bound⟩, registered, stored⟩ := goes
  have sails := Visit.sails_step (s := t.visit c) ⟨named, tidy, bound⟩ (event e)
    fun id own m same => absurd same (alone e m)
  refine ⟨storable, sails.named, ⟨_, sails.bound⟩, fun going => ?_, fun past => ?_⟩
  · obtain ⟨r, ps, stepped, same⟩ | ⟨cache, stage⟩ := step_cases c t e
    · rw [same] at going ⊢
      -- A step that strikes the key gives the lead up as well.
      obtain kept | ⟨gone, -⟩ := Relay.registered_turn tidy stepped key
      · exact kept.trans (registered (Relay.lead_turn (Relay.turn_of_step stepped) going).1)
      · cases gone.symm.trans going
    · rw [cache]
      exact registered (stage ▸ going)
  · obtain ⟨r, ps, stepped, same⟩ | ⟨cache, stage⟩ := step_cases c t e
    · rw [same] at past
      -- The origin ends well, so the task cannot have gone past the store.
      obtain ⟨same, early⟩ | now := Relay.stored_step bound storable sound stepped
      · rw [same]
        exact stored ((early.resolve_right (by simp)).symm.trans past)
      · rw [named.1, named.2] at now
        rw [now]
        rfl
    · rw [cache]
      exact stored (stage ▸ past)

theorem goes_other {g : Head} {others : List Bytes} (goes : t.Goes host path key h chunks c)
    (goes' : u.Goes host path key g others c) (apart : u.id ≠ t.id) (tidy : c.flights.Tidy)
    (sound : c.store.Sound) (e : Event) : t.Goes host path key h chunks (step c u e).1 := by
  have still := (store_step goes' sound e).2
  exact goes_others _ goes tidy (flights_step c u e)
    (fun m mem => aside_moving goes' apart mem key) still

end Trip
end CachingProxy
