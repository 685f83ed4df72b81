import CachingProxy.Proofs.Relay.Isolation

namespace CachingProxy

/-- What a follower's client has of what an origin gives. -/
structure Client.Has (c : Client) (o : Order) : Prop where
  head : ∀ h, c.answer = some (.ok h) → ∃ g, o.outcome = .answered g ∧ h = g.marked .coalesced
  part : c.body <+: (Fed.chunks o.sent).flatten
  /-- What the client takes for a complete answer is one. -/
  whole : c.isSatisfied → Fed.fate? o.sent = some .ended ∧ c.body = (Fed.chunks o.sent).flatten

theorem Watch.has_of_truthful {ω : Type} [DecidableEq ω] {s : Watch ω} {w : ω} {o : Order}
    (truthful : s.Truthful w) (tells : s.flight.Tells o) : s.line.client.Has o where
  head h answer := by
    obtain ⟨g, named, marked⟩ := truthful.head h answer
    exact ⟨g, tells.head g named, marked⟩
  part := truthful.part.trans tells.body
  whole content := by
    obtain ⟨closed, all⟩ := truthful.whole content
    obtain ⟨ended, same⟩ := tells.whole closed
    exact ⟨ended, all.trans same⟩

namespace Standing

def seats : Standing → List FlightId
  | told (.wait id) => [id]
  | coming | missed | found _ | told _ => []

theorem length_seats (st : Standing) : st.seats.length ≤ 1 := by
  unfold seats
  split <;> simp

theorem mem_seats {st : Standing} {id : FlightId} : id ∈ st.seats ↔ st = .told (.wait id) := by
  unfold seats
  split <;> simp_all [eq_comm]

end Standing

namespace Traffic

variable {ω : Type} [DecidableEq ω] {d : Crowd ω} {s : Traffic ω} {w : ω} {id : FlightId}

/-- The flights in which somebody has a seat. -/
def seatsFor (w : ω) (ss : List (FlightId × ω)) : List FlightId :=
  (ss.filter fun p => p.2 = w).map Prod.fst

theorem seatsFor_append (ss ts : List (FlightId × ω)) :
    seatsFor w (ss ++ ts) = seatsFor w ss ++ seatsFor w ts := by
  simp [seatsFor]

theorem seatsFor_singleton {u : ω} :
    seatsFor w [(id, u)] = if w = u then (Standing.told (.wait id)).seats else [] := by
  by_cases own : w = u
  · subst own
    simp [seatsFor, Standing.seats]
  · simp [seatsFor, own, Ne.symm own]

theorem seats_update {f : ω → Standing} {u : ω} (unseated : (f u).seats = []) (st : Standing) (w : ω) :
    (Function.update f u st w).seats = (f w).seats ++ if w = u then st.seats else [] := by
  by_cases own : w = u
  · subst own
    simp [unseated]
  · simp [own]

theorem seats_ashore {f : ω → Standing} {u : ω} {st : Standing} (unseated : (f u).seats = [])
    (ashore : st.seats = []) (w : ω) :
    (Function.update f u st w).seats = (f w).seats ++ seatsFor w [] := by
  rw [seats_update unseated, ashore, ite_self]
  rfl

theorem seats_step (isolated : Isolated d s) (e : Event ω) (w : ω) :
    ((step d s e).standing w).seats =
      (s.standing w).seats ++ seatsFor w (s.cache.flights.seatings (moving d s e)) := by
  have idle : (s.standing w).seats = (s.standing w).seats ++ seatsFor w [] := (List.append_nil _).symm
  cases e with
  | consult u =>
    simp only [step, moving]
    split
    · next coming =>
      have unseated : (s.standing u).seats = [] := by rw [coming]; rfl
      obtain same | ⟨v, same, ⟨a, -, rfl⟩ | rfl | rfl⟩ := s.cache.consult_cases (d.merging u) (d.ask u)
      all_goals
        rw [same]
        exact seats_ashore unseated rfl w
    · exact idle
  | elect u =>
    simp only [step, moving]
    split
    · next missed =>
      have unseated : (s.standing u).seats = [] := by rw [missed]; rfl
      obtain ⟨v, same, ⟨free, rfl⟩ | ⟨id, taken, rfl⟩⟩ := s.cache.elect_cases (d.ask u) u
      · have seating : s.cache.flights.seating (.elect (d.ask u).key u) = [] := by
          simp only [FlightTable.seating, FlightTable.elect_of_none free]
        rw [same, FlightTable.seatings_singleton, seating]
        exact seats_ashore unseated rfl w
      · have seating : s.cache.flights.seating (.elect (d.ask u).key u) = [(id, u)] := by
          simp only [FlightTable.seating, FlightTable.elect_of_some taken]
        rw [same, FlightTable.seatings_singleton, seating, seatsFor_singleton]
        exact seats_update unseated _ w
    · exact idle
  | find u =>
    simp only [step, moving]
    split
    · next missed taken =>
      have unseated : (s.standing u).seats = [] := by rw [missed]; rfl
      exact seats_ashore unseated rfl w
    · exact idle
  | sit u =>
    simp only [step, moving]
    split
    · next id found =>
      obtain ⟨o, mem, leads, -⟩ := (isolated.stands u).boards id (by simp [found, Standing.boards?])
      obtain ⟨f, there, -⟩ := flight?_of_fair isolated.toFair mem leads
      have unseated : (s.standing u).seats = [] := by rw [found]; rfl
      have seating : s.cache.flights.seating (.seat id u) = [(id, u)] := by
        simp [FlightTable.seating, there]
      rw [FlightTable.seatings_singleton, seating, seatsFor_singleton]
      exact seats_update (f := s.standing) unseated _ w
    · exact idle
  | fetch i e =>
    simp only [step, moving]
    split
    · rw [FlightTable.seatings_of_driven fun m => drives_of_moving]
      exact idle
    · exact idle
  | execute _ | listen _ | purge _ | strike _ => exact idle

theorem seats_after (isolated : Isolated d s) (es : List (Event ω)) (w : ω) :
    ((after d s es).standing w).seats =
      (s.standing w).seats ++ seatsFor w (s.cache.flights.seatings (moves d s es)) := by
  induction es generalizing s with
  | nil => exact (List.append_nil _).symm
  | cons e es ih =>
    rw [moves, Course.noted_cons, FlightTable.seatings_append, seatsFor_append, ← flights_step,
      ← List.append_assoc, ← seats_step isolated]
    exact ih (isolated_step isolated e)

theorem mem_seatsFor {ss : List (FlightId × ω)} : id ∈ seatsFor w ss ↔ (id, w) ∈ ss := by
  simp [seatsFor]

theorem count_eq_length_seatsFor (w : ω) (ss : List (FlightId × ω)) :
    (ss.map Prod.snd).count w = (seatsFor w ss).length := by
  rw [seatsFor, List.length_map, ← List.countP_eq_length_filter, List.count, List.countP_map]
  rfl

/-- What the requests at one cache have of each other: nothing, unless they are for the same. -/
structure KeptApart (d : Crowd ω) (s : Traffic ω) : Prop where
  /-- Whoever finds an answer finds the whole answer to an order for its own host and path. -/
  hit : ∀ w a, s.standing w = .told (.hit a) →
    ∃ o ∈ s.orders, o.IsFor (d.ask w).host (d.ask w).path ∧ o.Gives a
  /-- Whoever waits is given what the origin gives to an order for its own host and path. -/
  wait : ∀ w id, s.standing w = .told (.wait id) →
    ∃ o ∈ s.orders, o.lead = some id ∧ o.IsFor (d.ask w).host (d.ask w).path ∧
      (s.lines w).client.Has o
  /-- Nobody else is given anything of a flight. -/
  idle : ∀ w, (∀ id, s.standing w ≠ .told (.wait id)) →
    (s.lines w).client.answer = none ∧ (s.lines w).client.body = []
  /-- Those who lead one flight, or wait or are about to wait for it, are for the same. -/
  flight : ∀ v w id, (s.standing v).boards? = some id → (s.standing w).boards? = some id →
    (d.ask v).host = (d.ask w).host ∧ (d.ask v).path = (d.ask w).path
  /-- What is stored for a host and a path is the whole answer to an order for them. -/
  stored : ∀ host path a, s.cache.store.peek host path = some a →
    ∃ o ∈ s.orders, o.IsFor host path ∧ o.Gives a

variable {store : Store}

theorem mem_seatings (isolated : Isolated d (start store)) (es : List (Event ω)) :
    (id, w) ∈ FlightTable.seatings {} (moves d (start store) es) ↔
      (after d (start store) es).standing w = .told (.wait id) := by
  rw [← Standing.mem_seats, seats_after isolated, ← mem_seatsFor]
  rfl

theorem count_seatings (isolated : Isolated d (start store)) (es : List (Event ω)) (w : ω) :
    ((FlightTable.seatings {} (moves d (start store) es)).map Prod.snd).count w ≤ 1 := by
  have seats := seats_after isolated es w
  rw [count_eq_length_seatsFor]
  exact Nat.le_trans (Nat.le_of_eq (congrArg List.length seats.symm)) (Standing.length_seats _)

theorem wait_of_isolated (isolated : Isolated d (start store)) (es : List (Event ω))
    (told : (after d (start store) es).standing w = .told (.wait id)) :
    ∃ o ∈ (after d (start store) es).orders, o.lead = some id ∧
      o.IsFor (d.ask w).host (d.ask w).path ∧ ((after d (start store) es).lines w).client.Has o := by
  have now := isolated_after isolated es
  have once := count_seatings isolated es w
  obtain ⟨o, mem, leads, same⟩ := (now.stands w).boards id (by rw [told]; rfl)
  refine ⟨o, mem, leads, same, ?_⟩
  obtain ⟨f, there, tells⟩ := flight?_of_fair now.toFair mem leads
  obtain ⟨g, tr, known, served, handed⟩ :=
    FlightTable.exists_served once ((mem_seatings isolated es).mpr told)
  obtain rfl : f = g := by
    rw [flights_after, known] at there
    exact (Option.some.inj there).symm
  obtain ⟨faithful, -⟩ := faithful_after store es once
  have truthful : Watch.Truthful w ⟨f, (after d (start store) es).lines w⟩ :=
    Watch.truthful_of_bearsOut served.bearsOut (handed ▸ faithful)
  exact Watch.has_of_truthful truthful tells

theorem idle_of_isolated (isolated : Isolated d (start store)) (es : List (Event ω))
    (ashore : ∀ id, (after d (start store) es).standing w ≠ .told (.wait id)) :
    ((after d (start store) es).lines w).client.answer = none ∧
      ((after d (start store) es).lines w).client.body = [] := by
  obtain ⟨faithful, fed⟩ := faithful_after store es (count_seatings isolated es w)
  rw [FlightTable.deliveriesFor_unseated fun id mem => ashore id ((mem_seatings isolated es).mp mem)]
    at faithful
  -- It has had no more of the flights than of one that has nothing to give.
  have truthful : Watch.Truthful w ⟨{ key := "" }, (after d (start store) es).lines w⟩ :=
    Watch.truthful_of_bearsOut (t := .nothing) (Flight.bearsOut_nothing _) faithful
  refine ⟨?_, List.prefix_nil.mp truthful.part⟩
  cases answer : ((after d (start store) es).lines w).client.answer with
  | none => rfl
  | some a =>
    cases a with
    | ok h =>
      obtain ⟨g, named, -⟩ := truthful.head h answer
      cases named
    | error e =>
      obtain ⟨-, -, -, aborted | unfed⟩ := truthful.refusal e answer
      · cases aborted
      · cases fed.symm.trans unfed

/-- For every store that is empty at first, all requests at one cache, each for whatever it likes, with
all the fetches that come of them and whatever the origins give to these, and everything that happens in
any order: what a request finds in the store, or is given while it waits, comes of a fetch for exactly
the same host and the same path. No two keys are the same unless host and path are, which can be told
apart in everything that is asked of the proxy. -/
theorem kept_apart {capacity : Nat} {empty : Store} (made : Store.new capacity = .ok empty)
    (d : Crowd ω) (es : List (Event ω)) :
    KeptApart d (after d (start empty) es) ∧
    (∀ host path host' path', Store.Parted host path → Store.Parted host' path' →
      Store.key host path = Store.key host' path' → host = host' ∧ path = path') ∧
    ∀ (b : Bytes) (r : Request) (q : Inquiry), Target.parse b = .ok r.target →
      Route.ofPath r.target.path = .proxied → Service.inquiry? r = .ok q →
      Store.Parted q.host q.path := by
  have first := isolated_start made d
  have now := isolated_after first es
  refine ⟨⟨fun w a told => (now.stands w).hit a told, fun w id => wait_of_isolated first es,
    fun w => idle_of_isolated first es, fun v w id boards boards' => ?_, now.stored⟩,
    fun host path host' path' => Store.key_inj, fun b r q => Service.parted_of_inquiry⟩
  obtain ⟨o, mem, leads, same⟩ := (now.stands v).boards id boards
  obtain ⟨p, mem', leads', same'⟩ := (now.stands w).boards id boards'
  obtain rfl : o = p := by
    by_contra other
    exact now.apart.forall mem mem' other id leads leads'
  exact ⟨same.1.symm.trans same'.1, same.2.symm.trans same'.2⟩

def similar : Crowd Nat where
  ask w := ⟨.get, "a", if w % 2 = 0 then "/b" else "/b?c", []⟩
  parted w := by
    refine ⟨by simp [Store.opens], ?_⟩
    dsimp only
    split <;> rfl
  merging _ := true
  outcome _ := .answered ⟨.ok, []⟩
  sent n := [.chunk [UInt8.ofNat n], .ended]

/-- Both are fetched at one time. Somebody waits for the first, and the second is found in the store. -/
theorem kept_apart_of_similar :
    let empty : Store := .empty 2
    let es : List (Event Nat) := List.flatten [
      [.consult 0, .consult 1, .consult 2, .elect 0, .elect 1, .elect 2],
      [.fetch 0 .send, .fetch 0 .send, .fetch 1 .send, .fetch 1 .send],
      List.flatten (List.replicate 8 [.fetch 0 .advance, .fetch 1 .advance]),
      [.execute 2, .execute 2, .execute 2, .listen 2, .listen 2, .listen 2], [.consult 3]]
    let s := after similar (start empty) es
    Store.new 2 = .ok empty ∧
      (∃ o ∈ s.orders, o.lead = some 0 ∧ o.IsFor "a" "/b" ∧ (s.lines 2).client.Has o) ∧
      (s.lines 2).client.body = [0] ∧
      (∃ o ∈ s.orders, o.IsFor "a" "/b?c" ∧ o.Gives ⟨⟨.ok, []⟩, [1]⟩) ∧
      s.standing 3 = .told (.hit ⟨⟨.ok, []⟩, [1]⟩) := by
  intro empty es
  have made : Store.new 2 = .ok empty := rfl
  obtain ⟨apart, -, -⟩ := kept_apart made similar es
  have waits : (after similar (start empty) es).standing 2 = .told (.wait 0) := by decide +kernel
  have finds : (after similar (start empty) es).standing 3 = .told (.hit ⟨⟨.ok, []⟩, [1]⟩) := by
    decide +kernel
  have given : ((after similar (start empty) es).lines 2).client.body = [0] := by decide +kernel
  exact ⟨made, apart.wait 2 0 waits, given, apart.hit 3 _ finds, finds⟩

end Traffic
end CachingProxy
