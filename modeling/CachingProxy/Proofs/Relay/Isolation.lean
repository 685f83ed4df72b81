import Mathlib.Data.List.Pairwise
import CachingProxy.Proofs.Relay.Traffic
import CachingProxy.Proofs.Store.Keeping

namespace CachingProxy

namespace Order

def IsFor (o : Order) (host path : String) : Prop := o.host = host ∧ o.path = path

/-- That two orders do not lead one flight. -/
def Apart (o p : Order) : Prop := ∀ id ∈ o.lead, p.lead ≠ some id

instance : Std.Symm Apart := ⟨fun _ _ apart id own own' => apart id own' own⟩

end Order

namespace Standing

/-- The flight that a request leads, waits for, or is about to join. -/
def boards? : Standing → Option FlightId
  | found id | told (.lead id) | told (.wait id) => some id
  | coming | missed | told .bypass | told (.hit _) | told .fetch => none

/-- That whatever a request was told comes of an order for its own host and path. -/
structure Holds (os : List Order) (q : Inquiry) (st : Standing) : Prop where
  boards : ∀ id ∈ st.boards?, ∃ o ∈ os, o.lead = some id ∧ o.IsFor q.host q.path
  hit : ∀ a, st = .told (.hit a) → ∃ o ∈ os, o.IsFor q.host q.path ∧ o.Gives a

variable {os os' : List Order} {q : Inquiry} {st : Standing}

theorem holds_mono (holds : st.Holds os q) (sub : os ⊆ os') : st.Holds os' q := by
  refine ⟨fun id own => ?_, fun a told => ?_⟩
  · obtain ⟨o, mem, rest⟩ := holds.boards id own
    exact ⟨o, sub mem, rest⟩
  · obtain ⟨o, mem, rest⟩ := holds.hit a told
    exact ⟨o, sub mem, rest⟩

theorem holds_idle (ashore : st.boards? = none) (unhit : ∀ a, st ≠ .told (.hit a)) : st.Holds os q :=
  ⟨fun id own => by simp [ashore] at own, fun a told => absurd told (unhit a)⟩

end Standing

namespace Traffic

variable {ω : Type} [DecidableEq ω] {d : Crowd ω} {s : Traffic ω} {w : ω} {v : Verdict}
  {id : FlightId} {c : Cache ω} {l : ω → Line}

/-- What the cache has and what the requests were told comes of orders for the same, and no two orders
lead one flight. -/
structure Fair (d : Crowd ω) (s : Traffic ω) : Prop where
  tidy : s.cache.flights.Tidy
  exact : s.cache.store.Exact
  fares : ∀ t ∈ s.voyages, t.Fares s.cache
  apart : s.orders.Pairwise Order.Apart
  parted : ∀ o ∈ s.orders, Store.Parted o.host o.path
  stored : ∀ host path a, s.cache.store.peek host path = some a →
    ∃ o ∈ s.orders, o.IsFor host path ∧ o.Gives a
  stands : ∀ w, (s.standing w).Holds s.orders (d.ask w)

/-- Together with the register: a flight that is found under a key was begun for an order with it. -/
structure Isolated (d : Crowd ω) (s : Traffic ω) : Prop extends Fair d s where
  registered : ∀ key id, s.cache.flights.registered.get? key = some id →
    ∃ o ∈ s.orders, o.lead = some id ∧ o.key = key

omit [DecidableEq ω] in
theorem isFor_of_registered (isolated : Isolated d s)
    (there : s.cache.flights.registered.get? (d.ask w).key = some id) :
    ∃ o ∈ s.orders, o.lead = some id ∧ o.IsFor (d.ask w).host (d.ask w).path := by
  obtain ⟨o, mem, leads, same⟩ := isolated.registered _ _ there
  exact ⟨o, mem, leads, Store.key_inj (isolated.parted o mem) (d.parted w) same⟩

omit [DecidableEq ω] in
theorem flight?_of_fair (fair : Fair d s) {o : Order} (mem : o ∈ s.orders) (leads : o.lead = some id) :
    ∃ f, s.cache.flights.flight? id = some f ∧ f.Tells o := by
  obtain ⟨t, there, rfl⟩ := List.mem_map.mp mem
  exact Voyage.tells_of_fares (fair.fares t there) leads

omit [DecidableEq ω] in
theorem fair_cache (fair : Fair d s) (ms : List (FlightTable.Move ω)) (os : List Store.Op)
    (flights : c.flights = s.cache.flights.after ms) (store : c.store = s.cache.store.after os)
    (undriven : ∀ m ∈ ms, ∀ id, m.drives id = false) (unstored : ∀ h p a, .store h p a ∉ os) :
    Fair d { s with cache := c, lines := l } := by
  refine ⟨?_, ?_, fun t mem => ?_, fair.apart, fair.parted, fun host path a there => ?_, fair.stands⟩
  · show c.flights.Tidy
    rw [flights]
    exact fair.tidy.after ms
  · show c.store.Exact
    rw [store]
    exact Store.exact_after fair.exact os
  · exact Voyage.fares_others (fair.fares t mem) fair.tidy.sound
      (fun id _ m among => undriven m among id) flights
  · have there : c.store.peek host path = some a := there
    rw [store] at there
    obtain new | old := Store.stored_of_peek_after fair.exact there
    · exact absurd new (unstored host path a)
    · exact fair.stored host path a old

theorem holds_update {os : List Order} {st : Standing} (stands : ∀ v, (s.standing v).Holds os (d.ask v))
    (holds : st.Holds os (d.ask w)) (v : ω) :
    (Function.update s.standing w st v).Holds os (d.ask v) := by
  by_cases own : v = w
  · subst own
    rwa [Function.update_self]
  · rw [Function.update_of_ne own]
    exact stands v

theorem orders_tell : (s.tell d w v).orders = s.orders ++ s.ordering d w v := by
  simp [orders, tell, Function.comp_def]

theorem isolated_tell (fair : Fair d s)
    (new : ∀ o ∈ s.ordering d w v, ∀ id ∈ o.lead,
      (∃ f, s.cache.flights.flight? id = some f ∧ f.Carries none []) ∧ ∀ p ∈ s.orders, p.lead ≠ some id)
    (registered : ∀ key id, s.cache.flights.registered.get? key = some id →
      ∃ o ∈ s.orders ++ s.ordering d w v, o.lead = some id ∧ o.key = key)
    (holds : (Standing.told v).Holds (s.orders ++ s.ordering d w v) (d.ask w)) :
    Isolated d (s.tell d w v) := by
  have grows : s.orders ⊆ s.orders ++ s.ordering d w v := List.subset_append_left _ _
  refine ⟨⟨fair.tidy, fair.exact, fun t mem => ?_, ?_, ?_, fun host path a there => ?_, ?_⟩, ?_⟩
  · obtain old | mem := List.mem_append.mp mem
    · exact fair.fares t old
    · obtain ⟨o, ordered, rfl⟩ := List.mem_map.mp mem
      exact Voyage.fares_begin (ω := ω) fun id own => (new o ordered id own).1
  · rw [orders_tell, List.pairwise_append]
    refine ⟨fair.apart, ?_, fun p mem o among id own leads => (new o among id leads).2 p mem own⟩
    unfold ordering
    split
    · exact List.pairwise_singleton _ _
    · exact .nil
  · rw [orders_tell]
    refine List.forall_mem_append.mpr ⟨fair.parted, fun o mem => ?_⟩
    unfold ordering at mem
    split at mem
    · rw [List.mem_singleton.mp mem]
      exact d.parted w
    · cases mem
  · obtain ⟨o, mem, rest⟩ := fair.stored host path a there
    rw [orders_tell]
    exact ⟨o, grows mem, rest⟩
  · rw [orders_tell]
    exact holds_update (fun v => Standing.holds_mono (fair.stands v) grows) holds
  · rw [orders_tell]
    exact registered

omit [DecidableEq ω] in
theorem isolated_cache (isolated : Isolated d s) (ms : List (FlightTable.Move ω)) (os : List Store.Op)
    (flights : c.flights = s.cache.flights.after ms) (store : c.store = s.cache.store.after os)
    (undriven : ∀ m ∈ ms, ∀ id, m.drives id = false) (unstored : ∀ h p a, .store h p a ∉ os)
    (kept : ∀ key id, c.flights.registered.get? key = some id →
      s.cache.flights.registered.get? key = some id) :
    Isolated d { s with cache := c, lines := l } :=
  ⟨fair_cache isolated.toFair ms os flights store undriven unstored,
    fun key id there => isolated.registered key id (kept key id there)⟩

omit [DecidableEq ω] in
theorem ordering_unled (unled : ∀ id, v ≠ .lead id) : ∀ o ∈ s.ordering d w v, o.lead = none := by
  cases v with
  | lead id => exact absurd rfl (unled id)
  | fetch => simp [ordering, Verdict.relayed?]
  | bypass | hit _ | wait _ => simp [ordering, Verdict.relayed?]

theorem isolated_unled (isolated : Isolated d s) (unled : ∀ id, v ≠ .lead id)
    (holds : (Standing.told v).Holds s.orders (d.ask w)) : Isolated d (s.tell d w v) := by
  have grows : s.orders ⊆ s.orders ++ s.ordering d w v := List.subset_append_left _ _
  refine isolated_tell isolated.toFair (fun o mem id own => ?_) (fun key id there => ?_)
    (Standing.holds_mono holds grows)
  · cases (ordering_unled unled o mem).symm.trans own
  · obtain ⟨o, mem, rest⟩ := isolated.registered key id there
    exact ⟨o, grows mem, rest⟩

theorem isolated_standing (isolated : Isolated d s) {st : Standing}
    (holds : st.Holds s.orders (d.ask w)) :
    Isolated d { s with standing := Function.update s.standing w st } :=
  ⟨{ isolated.toFair with stands := holds_update isolated.stands holds }, isolated.registered⟩

theorem isolated_consult (isolated : Isolated d s) (w : ω) : Isolated d (step d s (.consult w)) := by
  simp only [step]
  split
  · obtain same | ⟨v, same, known⟩ := s.cache.consult_cases (d.merging w) (d.ask w)
    · rw [same]
      exact isolated_unled isolated (by simp) (Standing.holds_idle rfl (by simp))
    · have looked : Isolated d { s with cache := { s.cache with
          store := s.cache.store.step (.get (d.ask w).host (d.ask w).path) } } :=
        isolated_cache isolated [] [.get _ _] rfl rfl (by simp) (by simp) fun _ _ there => there
      rw [same]
      obtain ⟨a, there, rfl⟩ | rfl | rfl := known
      · refine isolated_unled looked (by simp) ⟨by simp [Standing.boards?], fun b told => ?_⟩
        cases told
        exact isolated.stored _ _ a there
      · exact isolated_standing looked (Standing.holds_idle rfl (by simp))
      · exact isolated_unled looked (by simp) (Standing.holds_idle rfl (by simp))
  · exact isolated

theorem isolated_lead (isolated : Isolated d s)
    (free : s.cache.flights.registered.get? (d.ask w).key = none)
    (flights : c.flights = s.cache.flights.step (.elect (d.ask w).key w))
    (store : c.store = s.cache.store) :
    Isolated d (tell d { s with cache := c, lines := l } w (.lead s.cache.flights.next)) := by
  -- The flights of all orders are there, so none of them has the next number.
  have unseen : ∀ p ∈ s.orders, p.lead ≠ some s.cache.flights.next := by
    intro p mem leads
    obtain ⟨f, there, -⟩ := flight?_of_fair isolated.toFair mem leads
    rw [isolated.tidy.sound.numbered _ (Nat.le_refl _)] at there
    cases there
  have fair : Fair d { s with cache := c, lines := l } :=
    fair_cache isolated.toFair [.elect (d.ask w).key w] [] flights store
      (by simp [FlightTable.Move.drives]) (by simp)
  refine isolated_tell fair (fun o mem id own => ?_) (fun key id there => ?_) ⟨?_, by simp⟩
  · obtain rfl := List.mem_singleton.mp mem
    cases own
    refine ⟨⟨{ key := (d.ask w).key }, ?_, rfl, rfl, rfl⟩, unseen⟩
    exact flights ▸ FlightTable.flight?_elected free w
  · have there : c.flights.registered.get? key = some id := there
    rw [flights, FlightTable.get?_registered_step isolated.tidy (.elect (d.ask w).key w)] at there
    dsimp only at there
    split at there
    · next same =>
      rw [← same, free] at there
      cases there
      exact ⟨_, List.mem_append_right _ (List.mem_singleton_self _), rfl, same⟩
    · obtain ⟨o, mem, rest⟩ := isolated.registered key id there
      exact ⟨o, List.mem_append_left _ mem, rest⟩
  · rintro id own
    cases own
    exact ⟨_, List.mem_append_right _ (List.mem_singleton_self _), rfl, rfl, rfl⟩

theorem isolated_wait (isolated : Isolated d s) {m : FlightTable.Move ω}
    (flights : c.flights = s.cache.flights.step m) (store : c.store = s.cache.store)
    (undriven : ∀ id, m.drives id = false)
    (kept : ∀ key id, c.flights.registered.get? key = some id →
      s.cache.flights.registered.get? key = some id)
    (boards : ∃ o ∈ s.orders, o.lead = some id ∧ o.IsFor (d.ask w).host (d.ask w).path) :
    Isolated d (tell d { s with cache := c, lines := l } w (.wait id)) := by
  have joined : Isolated d { s with cache := c, lines := l } :=
    isolated_cache isolated [m] [] flights store (by simpa using undriven) (by simp) kept
  refine isolated_unled joined (by simp) ⟨fun j own => ?_, by simp⟩
  cases own
  exact boards

theorem isolated_elect (isolated : Isolated d s) (w : ω) : Isolated d (step d s (.elect w)) := by
  simp only [step]
  split
  · obtain ⟨v, same, known⟩ := s.cache.elect_cases (d.ask w) w
    rw [same]
    obtain ⟨free, rfl⟩ | ⟨id, taken, rfl⟩ := known
    · exact isolated_lead isolated free rfl rfl
    · refine isolated_wait (s := s) (m := .elect (d.ask w).key w) isolated rfl rfl (fun _ => rfl)
        (fun key j there => ?_) (isFor_of_registered isolated taken)
      have there := (FlightTable.get?_registered_step isolated.tidy (.elect _ w) key).symm.trans there
      dsimp only at there
      split at there
      · next same =>
        rw [← same, taken] at there ⊢
        exact there
      · exact there
  · exact isolated

theorem isolated_sit (isolated : Isolated d s) (w : ω) : Isolated d (step d s (.sit w)) := by
  simp only [step]
  split
  · next id found =>
    have boards := (isolated.stands w).boards id (by simp [found, Standing.boards?])
    refine isolated_wait (s := s) (m := .seat id w) isolated rfl rfl (fun _ => rfl)
      (fun key j there => ?_) boards
    exact (FlightTable.get?_registered_step isolated.tidy (.seat id w) key).symm.trans there
  · exact isolated

omit [DecidableEq ω] in
theorem unled_of_fair (fair : Fair d s) {t u : Voyage} {i j : Nat} (there : s.voyages[i]? = some t)
    (place : s.voyages[j]? = some u) (other : i ≠ j) (own : u.lead = some id) : t.lead ≠ some id := by
  have apart := List.pairwise_iff_getElem.mp (List.pairwise_map.mp fair.apart)
  obtain ⟨within, rfl⟩ := List.getElem?_eq_some_iff.mp there
  obtain ⟨within', rfl⟩ := List.getElem?_eq_some_iff.mp place
  obtain early | late := Nat.lt_or_gt_of_ne other
  · exact fun leads => apart i j within within' early id leads own
  · exact apart j i within' within late id own

omit [DecidableEq ω] in
theorem orders_set {t u : Voyage} {i : Nat} (there : s.voyages[i]? = some t) (same : u.order = t.order) :
    (s.voyages.set i u).map Voyage.order = s.orders := by
  obtain ⟨within, rfl⟩ := List.getElem?_eq_some_iff.mp there
  rw [List.map_set, same, ← List.getElem_map Voyage.order (h := by simpa), List.set_getElem_self, orders]

omit [DecidableEq ω] in
theorem fares_set (fair : Fair d s) {t u : Voyage} {i : Nat} {ms : List (FlightTable.Move ω)}
    (there : s.voyages[i]? = some t) (moved : ∀ m ∈ ms, m ∈ t.relay.moves)
    (flights : c.flights = s.cache.flights.after ms) (own : u.Fares c) :
    ∀ v ∈ s.voyages.set i u, v.Fares c := by
  intro v mem
  obtain rfl | ⟨j, other, place⟩ := exists_of_mem_set mem
  · exact own
  · have leads := Voyage.lead_of_fares (fair.fares t (List.mem_of_getElem? there))
    refine Voyage.fares_others (fair.fares v (List.mem_of_getElem? place)) fair.tidy.sound
      (fun id led m among => ?_) flights
    have foreign : t.lead ≠ some id := unled_of_fair fair there place other led
    exact (Relay.aside_of_mem_moves leads foreign (moved m among) "").1

omit [DecidableEq ω] in
theorem drives_of_moving {t : Voyage} {e : Trip.Event} {m : FlightTable.Move ω}
    (mem : m ∈ Visit.moving (t.visit s.cache s.lines) (Trip.event e)) : ∃ id, m.drives id = true := by
  obtain ⟨id, -, drives⟩ := Relay.drives_of_mem_moves (Trip.mem_moves_of_moving mem)
  exact ⟨id, drives⟩

theorem isolated_fetch (isolated : Isolated d s) (i : Nat) (e : Trip.Event) :
    Isolated d (step d s (.fetch i e)) := by
  simp only [step]
  split
  · next t there =>
    have fares := isolated.fares t (List.mem_of_getElem? there)
    have flights := Visit.flights_step (s := t.visit s.cache s.lines) (e := Trip.event e)
    have store := Visit.store_step (s := t.visit s.cache s.lines) (Trip.event e)
      (by cases e <;> simp [Trip.event])
    have named := Voyage.order_resume t s.cache s.lines e
    have own := Voyage.fares_own fares isolated.tidy s.lines e
    generalize Visit.step (t.visit s.cache s.lines) (Trip.event e) = x at flights store named own ⊢
    have same : Traffic.orders
        { s with cache := x.cache, lines := x.lines, voyages := s.voyages.set i (t.resume x) } =
      s.orders := orders_set there named
    have fares' := fares_set isolated.toFair there (fun m => Trip.mem_moves_of_moving) flights own
    refine ⟨⟨?_, ?_, fares', same ▸ isolated.apart, same ▸ isolated.parted,
      fun host path a found => ?_, same ▸ isolated.stands⟩, fun key id found => ?_⟩
    · show x.cache.flights.Tidy
      rw [flights]
      exact isolated.tidy.after _
    · show x.cache.store.Exact
      rw [store]
      exact Store.exact_after isolated.exact _
    · have found : x.cache.store.peek host path = some a := found
      rw [store] at found
      rw [same]
      obtain new | old := Store.stored_of_peek_after isolated.exact found
      · obtain ⟨b, put, gives⟩ := Voyage.gives_of_mem_storing fares new
        cases put
        exact ⟨t.order, List.mem_map_of_mem (List.mem_of_getElem? there), ⟨rfl, rfl⟩, gives⟩
      · exact isolated.stored host path a old
    · have found : x.cache.flights.registered.get? key = some id := found
      rw [flights] at found
      rw [same]
      exact isolated.registered key id
        (FlightTable.registered_of_driven isolated.tidy (fun m => drives_of_moving) found)
  · exact isolated

theorem isolated_step (isolated : Isolated d s) (e : Event ω) : Isolated d (step d s e) := by
  cases e with
  | consult w => exact isolated_consult isolated w
  | elect w => exact isolated_elect isolated w
  | sit w => exact isolated_sit isolated w
  | fetch i e => exact isolated_fetch isolated i e
  | find w =>
    simp only [step]
    split
    · next id _ taken =>
      refine isolated_standing isolated ⟨?_, by simp⟩
      rintro id own
      cases own
      exact isFor_of_registered isolated taken
    · exact isolated
  | execute w | listen w => exact ⟨{ isolated.toFair with }, isolated.registered⟩
  | purge host =>
    refine isolated_cache (s := s) isolated [] [(host.map .purge).getD .purgeAll] rfl rfl (by simp) ?_
      fun _ _ there => there
    cases host <;> simp
  | strike key =>
    refine isolated_cache (s := s) isolated [.remove key] [] rfl rfl
      (by simp [FlightTable.Move.drives]) (by simp) fun k id there => ?_
    have there := (FlightTable.get?_registered_step isolated.tidy (.remove key) k).symm.trans there
    dsimp only at there
    split at there
    · cases there
    · exact there

omit [DecidableEq ω] in
theorem isolated_start {capacity : Nat} {empty : Store} (made : Store.new capacity = .ok empty)
    (d : Crowd ω) : Isolated d (start empty) := by
  obtain ⟨exact, -, bare⟩ := Store.exact_new made
  have fresh : Fair d (start empty) := by
    refine ⟨FlightTable.tidy_empty, exact, fun t mem => absurd mem List.not_mem_nil, .nil,
      fun o mem => absurd mem List.not_mem_nil, fun host path a there => ?_,
      fun w => Standing.holds_idle rfl nofun⟩
    have there : empty.peek host path = some a := there
    rw [Store.peek_eq_some_iff exact, (bare host).1] at there
    cases there
  refine ⟨fresh, fun key id there => ?_⟩
  cases there

theorem isolated_after (isolated : Isolated d s) (es : List (Event ω)) : Isolated d (after d s es) :=
  Course.after_keeps (P := Isolated d) (fun _ e isolated => isolated_step isolated e) isolated es

end Traffic
end CachingProxy
