import CachingProxy.Proofs.Relay.Visit
import CachingProxy.Proofs.Store.Calls

namespace CachingProxy.Visit

variable {ω : Type} [DecidableEq ω] {s : Exchange ω} {e : Event ω} {es : List (Event ω)} {h : Head}
  {sent : List Fed} {taken : List Bytes} {lead : Option FlightId} {id : FlightId}
  {host path key : String} {w : ω}

/-- What others do to the store, once the relay has stored its answer, that takes the answer for a path
away or puts another in its place. -/
def losses (host path : String) (s : Exchange ω) (es : List (Event ω)) : List Store.Op :=
  Course.noted step
    (fun s e => match e with
      | .exchange (.store o) =>
        if s.relay.stage.hasStored ∧ s.cache.store.loses host path o then [o] else []
      | _ => []) s es

theorem faithful_step {t : Transcript} (faithful : (s.lines w).Faithful t.deliveries)
    (fed : (s.lines w).fed = true) (e : Event ω) :
    ((step s e).lines w).Faithful
      (t.deliveries ++ Postings.deliveriesFor w (s.cache.flights.posted (moving s e))) ∧
    ((step s e).lines w).fed = true := by
  have unposted : (s.lines w).Faithful (t.deliveries ++ []) ∧ (s.lines w).fed = true := by
    rw [List.append_nil]
    exact ⟨faithful, fed⟩
  obtain ⟨same, rfl⟩ | rfl | ⟨x, rfl, same, -⟩ := step_cases s e
  · rw [same]
    exact unposted
  · exact unposted
  · rw [same]
    exact Exchange.faithful_step faithful fed x

variable {prior : List (FlightTable.Move ω)} {store : Store}

theorem table_after (table : s.cache.flights = .after {} prior) (es : List (Event ω)) :
    (after s es).cache.flights = .after {} (prior ++ moves s es) := by
  rw [FlightTable.after_append, ← table]
  exact Course.after_image (f := fun s : Exchange ω => s.cache.flights) (fun _ _ => flights_step) s es

theorem flights_after (es : List (Event ω)) :
    (after (start prior store host path lead h sent) es).cache.flights =
      .after {} (prior ++ moves (start prior store host path lead h sent) es) :=
  table_after rfl es

theorem faithful_after (es : List (Event ω))
    (once : ((FlightTable.seatings {}
      (prior ++ moves (start prior store host path lead h sent) es)).map Prod.snd).count w ≤ 1) :
    ((after (start prior store host path lead h sent) es).lines w).Faithful
      (Postings.deliveriesFor w (FlightTable.posted {}
        (prior ++ moves (start prior store host path lead h sent) es))) ∧
    ((after (start prior store host path lead h sent) es).lines w).fed = true :=
  Line.faithful_course (f := fun s : Exchange ω => s.cache.flights) (l := fun s => s.lines w)
    (fun _ _ => flights_step) (fun _ e _ faithful fed => faithful_step faithful fed e) rfl
    (Exchange.faithful_start _ _ _ _ w) es once

/-- A relay with an answer for the store, together with what it has stored. -/
structure Orderly (lead : Option FlightId) (h : Head) (sent : List Fed) (host path : String)
    (s : Exchange ω) (taken : List Bytes) : Prop where
  tidy : s.cache.flights.Tidy
  sound : s.cache.store.Sound
  named : s.relay.host = host ∧ s.relay.path = path
  bound : s.relay.Bound s.cache lead h sent s.upcoming taken
  told : s.relay.Told s.client h sent taken
  stored : s.relay.stage.hasStored = true → Fed.fate? sent = some .ended →
    s.cache.store.peek host path = some ⟨h, (Fed.chunks sent).flatten⟩

theorem orderly_advance (orderly : Orderly lead h sent host path s taken)
    (storable : h.isStorable = true) : Orderly lead h sent host path (step s (.exchange .advance))
      (taken ++ taking s (.exchange .advance)) := by
  have told := (knows_step ⟨orderly.bound.account, orderly.told⟩ (.exchange .advance)).2
  obtain ⟨tidy, sound, named, bound, -, stored⟩ := orderly
  cases stepped : s.relay.step s.cache with
  | none =>
    have same : step s (.exchange .advance) = s := by simp [step, Exchange.step, stepped]
    simp only [taking, stepped, List.append_nil, same] at told ⊢
    exact ⟨tidy, sound, named, bound, told, stored⟩
  | some y =>
    obtain ⟨c', r', ps⟩ := y
    obtain ⟨flights, -, store⟩ := Relay.step_done stepped
    obtain ⟨host', path'⟩ := Relay.name_step stepped
    simp only [step, taking, Exchange.step, stepped] at told ⊢
    refine ⟨?_, ?_, ⟨host'.trans named.1, path'.trans named.2⟩,
      Relay.bound_step bound tidy.sound stepped, told, fun past good => ?_⟩
    · show c'.flights.Tidy
      rw [flights]
      exact tidy.after _
    · show c'.store.Sound
      rw [store]
      exact Store.sound_after sound _
    · show c'.store.peek host path = _
      obtain ⟨same, early⟩ | now := Relay.stored_step bound storable sound stepped
      · rw [same]
        exact stored ((early.resolve_right (not_not_intro good)).symm.trans past) good
      · rwa [named.1, named.2] at now

theorem orderly_step (orderly : Orderly lead h sent host path s taken) (storable : h.isStorable = true)
    (e : Event ω) (others : ∀ id ∈ lead, ∀ m, e = .exchange (.flights m) → m.drives id = false)
    (kept : losses host path s [e] = []) :
    Orderly lead h sent host path (step s e) (taken ++ taking s e) := by
  obtain ⟨account, told⟩ := knows_step ⟨orderly.bound.account, orderly.told⟩ e
  obtain ⟨tidy, sound, named, bound, -, stored⟩ := id orderly
  obtain ⟨same, rfl⟩ | rfl | ⟨x, rfl, same, heard⟩ := step_cases s e
  · simpa only [taking, List.append_nil, same] using orderly
  · simp only [taking, List.append_nil] at account told ⊢
    exact ⟨tidy, sound, named, ⟨account, bound.leads, bound.shows, bound.kept⟩, told, stored⟩
  · cases x with
    | advance => exact orderly_advance orderly storable
    | send =>
      simp only [taking, List.append_nil, same] at account told ⊢
      cases upcoming : s.upcoming with
      | nil => simpa only [Exchange.step, upcoming] using orderly
      | cons y rest =>
        simp only [Exchange.step, upcoming] at account told ⊢
        exact ⟨tidy, sound, named, ⟨account, bound.leads, bound.shows, bound.kept⟩, told, stored⟩
    | read =>
      simp only [taking, List.append_nil, same] at account told ⊢
      obtain ⟨client, read⟩ := s.relay.exists_read s.client
      simp only [Exchange.step, Exchange.coming, read] at account told ⊢
      exact ⟨tidy, sound, named, ⟨account, bound.leads, bound.shows, bound.kept⟩, told, stored⟩
    | flights m =>
      simp only [taking, List.append_nil, same] at told ⊢
      have undriven : ∀ id ∈ lead, ∀ n ∈ [m], n.drives id = false := fun id own n mem =>
        List.mem_singleton.mp mem ▸ others id own m rfl
      exact ⟨FlightTable.tidy_step tidy m, sound, named,
        Relay.bound_others bound tidy.sound undriven rfl, told, stored⟩
    | store o =>
      simp only [taking, List.append_nil, same] at account told ⊢
      refine ⟨tidy, Store.sound_step sound o, named, ⟨account, bound.leads, bound.shows, bound.kept⟩,
        told, fun past good => ?_⟩
      have untouched : s.cache.store.loses host path o = false := by
        have now : s.relay.stage.hasStored = true := past
        simpa [losses, now] using kept
      exact (Store.peek_step sound untouched).trans (stored past good)
    | execute _ | listen _ =>
      simp only [taking, List.append_nil, same] at account told ⊢
      exact ⟨tidy, sound, named, ⟨account, bound.leads, bound.shows, bound.kept⟩, told, stored⟩

theorem orderly_after (orderly : Orderly lead h sent host path s taken) (storable : h.isStorable = true)
    (others : ∀ id ∈ lead, ∀ m, .exchange (.flights m) ∈ es → m.drives id = false)
    (kept : losses host path s es = []) :
    ∃ taken', Orderly lead h sent host path (after s es) taken' := by
  induction es generalizing s taken with
  | nil => exact ⟨taken, orderly⟩
  | cons e es ih =>
    obtain ⟨early, late⟩ := List.append_eq_nil_iff.mp kept
    have now : losses host path s [e] = [] := by simpa [losses] using early
    refine ih (orderly_step orderly storable e ?_ now) ?_ late
    · rintro id own m rfl
      exact others id own m List.mem_cons_self
    · exact fun id own m mem => others id own m (List.mem_cons_of_mem _ mem)

theorem tidy_step (tidy : s.cache.flights.Tidy) (e : Event ω) : (step s e).cache.flights.Tidy := by
  rw [flights_step]
  exact tidy.after _

theorem registered_step (tidy : s.cache.flights.Tidy)
    (there : s.relay.stage.hasLet = false → s.cache.flights.registered.get? key = some id)
    (others : ∀ m, e = .exchange (.flights m) → m.drives id = false ∧ m ≠ .remove key)
    (going : (step s e).relay.stage.hasLet = false) :
    (step s e).cache.flights.registered.get? key = some id := by
  obtain ⟨same, rfl⟩ | rfl | ⟨x, rfl, same, heard⟩ := step_cases s e
  · rw [same] at going ⊢
    exact there going
  · exact there going
  · rw [same] at going ⊢
    cases x with
    | send =>
      cases upcoming : s.upcoming <;> simp only [Exchange.step, upcoming] at going ⊢ <;>
        exact there going
    | advance =>
      cases stepped : s.relay.step s.cache with
      | none =>
        simp only [Exchange.step, stepped] at going ⊢
        exact there going
      | some y =>
        simp only [Exchange.step, stepped] at going
        have before := there (Relay.lead_turn (Relay.turn_of_step stepped) going).1
        obtain kept | ⟨gone, -⟩ := Relay.registered_turn tidy stepped key
        · simp only [Exchange.step, stepped]
          exact kept.trans before
        · cases gone.symm.trans going
    | read => exact there ((Exchange.name_read s.relay s.client).2.2 ▸ going)
    | flights m =>
      obtain ⟨undriven, kept⟩ := others m rfl
      exact FlightTable.registered_undriven tidy (there going) undriven kept
    | store _ | execute _ | listen _ => exact there going

theorem orderly_start {capacity : Nat} {empty : Store} (made : Store.new capacity = .ok empty)
    (ops : List Store.Op) (prior : List (FlightTable.Move ω)) (host path : String)
    (lead : Option FlightId) (h : Head) (sent : List Fed)
    (known : ∀ id ∈ lead, ((FlightTable.after {} prior).flight? id).isSome = true)
    (undriven : ∀ id ∈ lead, ∀ m ∈ prior, m.drives id = false) :
    Orderly lead h sent host path (start prior (empty.after ops) host path lead h sent) [] := by
  obtain ⟨account, told⟩ := knows_start prior (empty.after ops) host path lead h sent
  refine ⟨FlightTable.tidy_after prior, Store.sound_after (Store.sound_new made) ops, ⟨rfl, rfl⟩,
    ⟨account, fun _ => rfl, fun id own => ?_, fun _ _ => rfl⟩, told, nofun⟩
  obtain ⟨f, there⟩ := Option.isSome_iff_exists.mp (known id own)
  exact ⟨f, there, FlightTable.carries_of_undriven (undriven id own) there⟩

theorem registered_after (tidy : s.cache.flights.Tidy)
    (there : s.relay.stage.hasLet = false → s.cache.flights.registered.get? key = some id)
    (others : ∀ m, .exchange (.flights m) ∈ es → m.drives id = false ∧ m ≠ .remove key)
    (going : (after s es).relay.stage.hasLet = false) :
    (after s es).cache.flights.registered.get? key = some id := by
  induction es generalizing s with
  | nil => exact there going
  | cons e es ih =>
    refine ih (tidy_step tidy e) (registered_step tidy there ?_)
      (fun m mem => others m (List.mem_cons_of_mem _ mem)) going
    rintro m rfl
    exact others m List.mem_cons_self

omit [DecidableEq ω] in
theorem stored_of_closed (orderly : Orderly lead h sent host path s taken) (own : id ∈ lead)
    {f : Flight ω} (there : s.cache.flights.flight? id = some f) (closed : f.phase = .closed) :
    s.relay.stage.hasStored = true ∧ Fed.fate? sent = some .ended := by
  obtain ⟨g, there', shows⟩ := orderly.bound.shows id own
  obtain rfl : g = f := Option.some.inj (there'.symm.trans there)
  have account := orderly.bound.account
  have not_going {head : Option Head} {body : Bytes} : ¬ g.Carries head body := fun carries => by
    have going := carries.going
    rw [closed] at going
    cases going
  cases stage : s.relay.stage with
  | leaving =>
    simp only [Relay.Account, stage] at account
    exact ⟨rfl, account.2⟩
  | finished =>
    simp only [stage, Flight.Shows] at shows
    split at shows
    · next good => exact ⟨rfl, good⟩
    · cases closed.symm.trans shows.aborted
  | fetching | opening _ | pumping _ | offering _ _ | reporting _ | storing _ | landing | failing
  | abandoning | refusing _ =>
    simp only [stage, Flight.Shows] at shows
    exact absurd shows not_going

omit [DecidableEq ω] in
theorem stored_of_ended (orderly : Orderly lead h sent host path s taken)
    (ended : s.client.ended = true) (good : Fed.fate? sent = some .ended) :
    s.relay.stage.hasStored = true := by
  obtain ⟨-, -, -, done⟩ := orderly.told.ended ended
  have account := orderly.bound.account
  cases stage : s.relay.stage with
  | finished => rfl
  | failing | abandoning =>
    simp only [Relay.Account, stage, good] at account
    obtain ⟨-, ⟨e, bad⟩ | bad⟩ := account <;> cases bad
  | fetching | opening _ | pumping _ | offering _ _ | reporting _ | storing _ | landing | leaving
  | refusing _ => simp [stage, Stage.hasTold] at done

/-- For every relay of an answer that the store takes, whether or not it leads a flight that nobody
else drives, everything that its origin can send, and whatever else happens in any order as long as
nobody takes the answer out of the store again: the store has the origin's head and the whole body
once the origin has ended well and the relay's flight is no longer registered; once a follower that
joined once is handed anything that says that it is the last; and once the origin has ended well and
the relay's client takes its body for complete. -/
theorem stored_before_seen {capacity : Nat} {empty : Store} (made : Store.new capacity = .ok empty)
    (ops : List Store.Op) (prior : List (FlightTable.Move ω)) (host path : String)
    (lead : Option FlightId) (h : Head) (sent : List Fed) (es : List (Event ω))
    (storable : h.isStorable = true)
    (known : ∀ id ∈ lead, ((FlightTable.after {} prior).flight? id).isSome = true)
    (undriven : ∀ id ∈ lead, ∀ m ∈ prior, m.drives id = false)
    (others : ∀ id ∈ lead, ∀ m, .exchange (.flights m) ∈ es → m.drives id = false)
    (kept : losses host path (start prior (empty.after ops) host path lead h sent) es = []) :
    let x := start prior (empty.after ops) host path lead h sent
    let s := after x es
    let stored := (s.cache.store.get host path).2 = some ⟨h, (Fed.chunks sent).flatten⟩
    (∀ id ∈ lead, ∀ key, x.cache.flights.registered.get? key = some id →
      .exchange (.flights (.remove key)) ∉ es → s.cache.flights.registered.get? key ≠ some id →
      Fed.fate? sent = some .ended → stored) ∧
    (∀ id ∈ lead, ∀ w, ((FlightTable.seatings {} (prior ++ moves x es)).map Prod.snd).count w ≤ 1 →
      (id, w) ∈ FlightTable.seatings {} (prior ++ moves x es) →
      (∃ d ∈ (s.lines w).handed, d.isTerminal = true ∧ d ≠ .reset) →
      Fed.fate? sent = some .ended ∧ stored) ∧
    (s.client.isSatisfied → Fed.fate? sent = some .ended → stored) := by
  intro x s stored
  have first := orderly_start made ops prior host path lead h sent known undriven
  obtain ⟨taken, orderly⟩ := orderly_after first storable others kept
  have found (past : s.relay.stage.hasStored = true) (good : Fed.fate? sent = some .ended) : stored := by
    show (s.cache.store.get host path).2 = _
    rw [Store.get_snd]
    exact orderly.stored past good
  refine ⟨?_, ?_, ?_⟩
  · intro id own key there unstruck gone good
    refine found ?_ good
    -- Only a task that has given up its lead can have struck the flight.
    cases past : s.relay.stage.hasLet with
    | true =>
      cases stage : s.relay.stage with
      | leaving | finished => rfl
      | _ => simp [stage, Stage.hasLet] at past
    | false =>
      refine absurd (registered_after first.tidy (fun _ => there) ?_ past) gone
      intro m mem
      exact ⟨others id own m mem, fun same => unstruck (same ▸ mem)⟩
  · intro id own w once seated last
    obtain ⟨faithful, fed⟩ := faithful_after es once
    obtain ⟨f, t, there, served, handed⟩ := FlightTable.exists_served once seated
    rw [← handed] at faithful
    rw [← flights_after] at there
    obtain ⟨d, mem, terminal, content⟩ := last
    have complete : t.isComplete = true :=
      (Transcript.isComplete_iff t).mpr ⟨d, faithful.handed.subset mem, terminal, content⟩
    obtain ⟨past, good⟩ := stored_of_closed orderly own there (served.complete.mp complete)
    exact ⟨good, found past good⟩
  · intro satisfied good
    exact found (stored_of_ended orderly satisfied.1 good) good

/-- Just after the task has finished its flight: the key is free again, an early follower has been
handed the last chunk, and the answer is there, while the client has not yet seen the end. -/
theorem stored_before_seen_at_landing :
    let prior : List (FlightTable.Move Nat) := [.elect "h/p" 0, .elect "h/p" 1]
    let es : List (Exchange.Event Nat) := [.send, .send, .send] ++ List.replicate 9 .advance ++
      [.flights (.seat 0 2), .read, .read, .store (.get "h" "/p")] ++ List.replicate 4 (.execute 1) ++
      [.read]
    let s := after (start prior (.empty 1) "h" "/p" (some 0) ⟨.ok, []⟩
      [.chunk [1], .chunk [2], .ended]) (es.map .exchange)
    s.cache.flights.registered.get? "h/p" ≠ some 0 ∧ .chunk [] true ∈ (s.lines 1).handed ∧
      s.client.ended = false ∧ (s.cache.store.get "h" "/p").2 = some ⟨⟨.ok, []⟩, [1, 2]⟩ := by
  intro prior es
  have made : Store.new 1 = .ok (.empty 1) := rfl
  have others : ∀ id ∈ some 0, ∀ m, .exchange (.flights m) ∈ es.map Event.exchange →
      m.drives id = false := by
    rintro id ⟨⟩ m mem
    obtain rfl : m = .seat 0 2 := by simpa [es] using mem
    rfl
  have seen := stored_before_seen made [] prior "h" "/p" (some 0) ⟨.ok, []⟩
    [.chunk [1], .chunk [2], .ended] (es.map .exchange) rfl (by decide) (by decide) others
    (by decide +kernel)
  rw [Store.after_nil] at seen
  obtain ⟨unregistered, -⟩ := seen
  refine ⟨?_, ?_, ?_, unregistered 0 rfl "h/p" ?_ ?_ ?_ rfl⟩
  · decide +kernel
  · decide +kernel
  · decide +kernel
  · decide +kernel
  · simp [es]
  · decide +kernel

end CachingProxy.Visit
