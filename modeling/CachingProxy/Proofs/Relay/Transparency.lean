import CachingProxy.Proofs.Relay.Progress
import CachingProxy.Proofs.Relay.Storing
import CachingProxy.Proofs.Service.Hits

namespace CachingProxy

/-- A head that differs from another one only in naming where the answer came from. -/
structure Head.Echoes (g h : Head) (p : Provenance) : Prop where
  status : g.status = h.status
  values : ∀ n, n ≠ .xCache → g.headers.values n = h.headers.values n
  xCache : g.headers.values .xCache = [p.value]

theorem Head.echoes_marked (h : Head) (p : Provenance) : (h.marked p).Echoes h p where
  status := rfl
  values n other := by rw [Head.values_marked, if_neg (Ne.symm other)]
  xCache := by rw [Head.values_marked, if_pos rfl]

/-- The client was given the head and the whole body, and knows it. -/
structure Client.Receives (c : Client) (h : Head) (body : Bytes) (p : Provenance) : Prop where
  satisfied : c.isSatisfied
  answer : ∃ g, c.answer = some (.ok g) ∧ g.Echoes h p
  body : c.body = body

namespace Exchange

variable {ω : Type} [DecidableEq ω] {s : Exchange ω} {id : FlightId} {h : Head}
  {chunks : List Bytes} {w : ω} {t : Transcript} {f : Flight ω}

omit [DecidableEq ω] in
theorem going_or_landed (u : s.Underway id h chunks) :
    ∃ f, s.cache.flights.flight? id = some f ∧
      (f.phase.isOver = false ∨ f.Landed h chunks.flatten) := by
  obtain ⟨f, there, carried⟩ := u.carried
  refine ⟨f, there, ?_⟩
  unfold Relay.Carried at carried
  split at carried
  · exact .inl carried.2.2.1.going
  · exact .inl carried.2.2.1.going
  · obtain ⟨-, -, done, rest, -, carries, -⟩ := carried
    exact .inl carries.going
  · obtain ⟨-, -, done, rest, -, carries, -⟩ := carried
    exact .inl carries.going
  · exact .inl carried.2.2.1.going
  · exact .inl carried.2.1.going
  · exact .inr carried.1
  · exact .inr carried.1
  all_goals exact carried.elim

omit [DecidableEq ω] in
theorem landed_of_ended (u : s.Underway id h chunks) (ended : s.client.ended = true) :
    s.client.pieces = chunks.map .ok ∧
      ∃ f, s.cache.flights.flight? id = some f ∧ f.Landed h chunks.flatten := by
  obtain ⟨-, empty, finished⟩ := u.ended ended
  obtain ⟨f, there, carried⟩ := u.carried
  simp only [Relay.Carried, finished] at carried
  obtain ⟨landed, offered⟩ := carried
  exact ⟨by simpa [told, empty] using offered, f, there, landed⟩

omit [DecidableEq ω] in
theorem client_receives (u : s.Underway id h chunks) (ended : s.client.ended = true) :
    s.client.Receives h chunks.flatten .miss := by
  obtain ⟨pieces, -⟩ := landed_of_ended u ended
  have answer := u.answer.resolve_left (u.ended ended).1
  refine ⟨⟨ended, ⟨_, answer⟩, ?_⟩, ⟨_, answer, Head.echoes_marked h .miss⟩, ?_⟩
  · simp [pieces]
  · simp [Client.body, pieces, List.flatMap_map]

theorem complete_of_landed (served : f.Served w t) (landed : f.Landed h chunks.flatten) :
    t.isComplete = true ∧ t.head? = some h ∧ t.bytes = chunks.flatten := by
  have complete := served.complete.mpr landed.closed
  obtain ⟨g, named⟩ : ∃ g, t.head? = some g := by
    cases t <;> simp_all [Transcript.isComplete, Transcript.head?]
  obtain rfl : g = h := Option.some.inj ((served.head g named).symm.trans landed.head)
  exact ⟨complete, named, (served.whole landed.closed).trans landed.body⟩

theorem follower_receives {l : Line} (served : f.Served w t)
    (state : f.phase.isOver = false ∨ f.Landed h chunks.flatten) (faithful : l.Faithful t.deliveries)
    (fed : l.fed = true) (ended : l.client.ended = true) :
    l.client.Receives h chunks.flatten .coalesced := by
  obtain ⟨same, past⟩ := Line.client_of_ended faithful fed ended
  rw [served.isOver] at past
  have landed := state.resolve_left (by simp [past])
  obtain ⟨complete, named, bytes⟩ := complete_of_landed served landed
  rw [same]
  exact ⟨(Transcript.client_isSatisfied_iff t).mpr complete,
    ⟨_, Transcript.client_answer_of_head named, Head.echoes_marked h .coalesced⟩,
    t.client_body.trans bytes⟩

theorem follower_ends {l : Line} (served : f.Served w t) (landed : f.Landed h chunks.flatten)
    (faithful : l.Faithful t.deliveries) (fed : l.fed = true) (idle : l.loop.queued = []) {n : Nat}
    (enough : l.inbox.length < n) : (Line.read^[n] l).client.ended = true := by
  obtain ⟨complete, -, -⟩ := complete_of_landed served landed
  apply Line.iterate_read_ended faithful (.inr _) enough
  have handed := faithful.queued fed
  rw [idle, List.flatMap_nil, List.append_nil] at handed
  obtain ⟨d, mem, terminal, -⟩ := (Transcript.isComplete_iff t).mp complete
  exact ⟨d, handed ▸ mem, terminal⟩

variable {prior : List (FlightTable.Move ω)} {store : Store} {host path : String}

/-- A relay that leads a flight which nobody has driven yet, when the origin has answered. -/
abbrev launch (prior : List (FlightTable.Move ω)) (store : Store) (host path : String)
    (id : FlightId) (h : Head) (chunks : List Bytes) : Exchange ω :=
  start prior store { host, path, lead := some id, fetched := some (.answered h) }
    (Fed.script chunks)

theorem underway_launch (known : ((FlightTable.after {} prior).flight? id).isSome)
    (undriven : ∀ m ∈ prior, m.drives id = false) :
    (launch prior store host path id h chunks).Underway id h chunks := by
  obtain ⟨f, there⟩ := Option.isSome_iff_exists.mp known
  refine ⟨FlightTable.sound_after prior, ⟨f, there, ?_⟩, ?_, .inl rfl, nofun⟩
  · exact ⟨rfl, rfl, FlightTable.carries_of_undriven undriven there, rfl, rfl⟩
  · exact ⟨rfl, Nat.succ_pos _, by simp [start], .inr ⟨rfl, rfl⟩⟩

theorem name_after (named : s.relay.host = host ∧ s.relay.path = path) (es : List (Event ω)) :
    (s.after es).relay.host = host ∧ (s.after es).relay.path = path :=
  Course.after_keeps (P := fun s : Exchange ω => s.relay.host = host ∧ s.relay.path = path)
    (fun _ e named => name_step named e) named es

theorem store_sound_after (sound : s.cache.store.Sound) (es : List (Event ω)) :
    (s.after es).cache.store.Sound :=
  Course.after_keeps (P := fun s : Exchange ω => s.cache.store.Sound)
    (fun _ e sound => store_sound_step sound e) sound es

theorem peek_after (u : s.Underway id h chunks) (sound : s.cache.store.Sound)
    (named : s.relay.host = host ∧ s.relay.path = path) (storable : h.isStorable = true)
    (unstored : s.relay.stage.hasStored = false) {es : List (Event ω)}
    (others : ∀ m, .flights m ∈ es → m.drives id = false) (kept : losses host path s es = [])
    (stored : (s.after es).relay.stage.hasStored = true) :
    (s.after es).cache.store.peek host path = some ⟨h, chunks.flatten⟩ := by
  induction es using List.reverseRecOn with
  | nil =>
    rw [after, Course.after_nil, unstored] at stored
    cases stored
  | append_singleton es e ih =>
    have before : ∀ m, Event.flights m ∈ es → m.drives id = false := fun m mem =>
      others m (List.mem_append_left _ mem)
    obtain ⟨early, late⟩ := List.append_eq_nil_iff.mp
      ((Course.noted_append step _ s es [e]).symm.trans kept)
    rw [after_concat] at stored ⊢
    exact peek_step (underway_after u before) (store_sound_after sound es) storable
      (name_after named es) (ih before early) late stored

/-- For every head, all chunks and whatever else happens in any order, as long as nobody else drives
the flight: a client whose request is relayed receives the origin's answer when it has read to the
end, and after enough rounds it has; so does each follower that joins once, early or late, and it
comes to the end when that client has; and so does, at once, whoever asks for an answer that was
stored and not taken away since. -/
theorem transparent {capacity : Nat} {empty : Store} (made : Store.new capacity = .ok empty)
    (ops : List Store.Op) (prior : List (FlightTable.Move ω)) (host path : String) (id : FlightId)
    (h : Head) (chunks : List Bytes) (es : List (Event ω))
    (known : ((FlightTable.after {} prior).flight? id).isSome = true)
    (undriven : ∀ m ∈ prior, m.drives id = false)
    (others : ∀ m, .flights m ∈ es → m.drives id = false) :
    let x := launch prior (empty.after ops) host path id h chunks
    let s := x.after es
    let seatings := FlightTable.seatings {} (prior ++ x.moves es)
    (s.client.ended = true →
      s.client.Receives h chunks.flatten .miss ∧ s.relay.stage.hasStored = true) ∧
    (∀ rounds : List (List (Event ω)), (∀ es ∈ rounds, Round id es) → s.remaining ≤ rounds.length →
      (s.after rounds.flatten).client.ended = true) ∧
    (∀ w, (seatings.map Prod.snd).count w ≤ 1 → (id, w) ∈ seatings →
      ((s.lines w).client.ended = true →
        (s.lines w).client.Receives h chunks.flatten .coalesced) ∧
      (s.client.ended = true → (s.lines w).loop.queued = [] → ∀ n, (s.lines w).inbox.length < n →
        (Line.read^[n] (s.lines w)).client.ended = true)) ∧
    (h.isStorable = true → s.relay.stage.hasStored = true → losses host path x es = [] →
      ∀ (v : Service) (q : Inquiry) (name : String) (nanos : Nat),
        v.desk.cache.store = s.cache.store → q.host = host → q.path = path → q.passesBy = false →
        ∃ g, (v.accept name q nanos).2 = .answered ⟨g, chunks.flatten⟩ ∧ g.Echoes h .hit) := by
  intro x s seatings
  have first : x.Underway id h chunks := underway_launch known undriven
  have u : s.Underway id h chunks := underway_after first others
  refine ⟨fun ended => ⟨client_receives u ended, by rw [(u.ended ended).2.2]; rfl⟩,
    fun rounds => ended_after_rounds u, ?_, ?_⟩
  · -- The table knows the flight as the relay left it, and the line as the flight served it.
    intro w once seated
    obtain ⟨faithful, fed⟩ := faithful_after es once
    obtain ⟨f, t, there, served, handed⟩ := FlightTable.exists_served once seated
    rw [← handed] at faithful
    rw [← flights_after] at there
    obtain ⟨g, there', state⟩ := going_or_landed u
    obtain rfl : g = f := Option.some.inj (there'.symm.trans there)
    refine ⟨follower_receives served state faithful fed, fun ended idle n enough => ?_⟩
    obtain ⟨-, g', there', landed⟩ := landed_of_ended u ended
    obtain rfl : g' = g := Option.some.inj (there'.symm.trans there)
    exact follower_ends served landed faithful fed idle enough
  · rintro storable stored kept v q name nanos same rfl rfl asks
    have sound : x.cache.store.Sound := Store.sound_after (Store.sound_new made) ops
    have there := peek_after first sound ⟨rfl, rfl⟩ storable rfl others kept stored
    rw [← same] at there
    exact ⟨_, Service.accept_hit asks there, Head.echoes_marked h .hit⟩

/-- An early and a late follower of a relay that carries three chunks, one of them empty. -/
theorem transparent_three_chunks :
    let prior : List (FlightTable.Move Nat) := [.elect "h/p" 0, .elect "h/p" 1]
    let es : List (Event Nat) := List.replicate 4 .send ++ List.replicate 12 .advance ++
      [.flights (.seat 0 2), .store (.get "h" "/p")] ++ List.replicate 5 .read ++
      List.replicate 4 (.execute 1) ++ List.replicate 4 (.listen 1) ++
      [.execute 2, .listen 2, .listen 2]
    let s := (launch prior (.empty 1) "h" "/p" 0 ⟨.ok, []⟩ [[1], [], [2]]).after es
    s.client.Receives ⟨.ok, []⟩ [[1], [], [2]].flatten .miss ∧
    (s.lines 1).client.Receives ⟨.ok, []⟩ [[1], [], [2]].flatten .coalesced ∧
    (s.lines 2).client.Receives ⟨.ok, []⟩ [[1], [], [2]].flatten .coalesced ∧
    ∀ (v : Service) (q : Inquiry) (name : String) (nanos : Nat),
      v.desk.cache.store = s.cache.store → q.host = "h" → q.path = "/p" → q.passesBy = false →
      ∃ g, (v.accept name q nanos).2 = .answered ⟨g, [[1], [], [2]].flatten⟩ ∧
        g.Echoes ⟨.ok, []⟩ .hit := by
  intro prior es s
  have others : ∀ m, .flights m ∈ es → m.drives 0 = false := by
    simp [es, FlightTable.Move.drives]
  have made : Store.new 1 = .ok (.empty 1) := rfl
  have seen := transparent made [] prior "h" "/p" 0 ⟨.ok, []⟩ [[1], [], [2]] es (by decide) (by decide)
    others
  rw [Store.after_nil] at seen
  obtain ⟨leader, -, followers, hits⟩ := seen
  refine ⟨(leader ?_).1, (followers 1 ?_ ?_).1 ?_, (followers 2 ?_ ?_).1 ?_, hits rfl ?_ ?_⟩
  all_goals decide +kernel

end Exchange
end CachingProxy
