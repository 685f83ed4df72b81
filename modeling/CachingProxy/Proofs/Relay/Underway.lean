import CachingProxy.Proofs.Flight.Lead
import CachingProxy.Proofs.Relay.Exchange

namespace CachingProxy

variable {ω : Type}

def Fed.script (chunks : List Bytes) : List Fed := chunks.map .chunk ++ [.ended]

/-- The account of a relay, by the stage of its task. -/
def Relay.Carried (r : Relay) (id : FlightId) (h : Head) (chunks : List Bytes) (f : Flight ω)
    (told : List (Except String Bytes)) (coming : List Fed) : Prop :=
  match r.stage with
  | .fetching =>
    r.fetched = some (.answered h) ∧ r.lead = some id ∧ f.Carries none [] ∧
      told = [] ∧ coming = Fed.script chunks
  | .opening g =>
    g = h ∧ r.lead = some id ∧ f.Carries none [] ∧ told = [] ∧ coming = Fed.script chunks
  | .pumping g =>
    g = h ∧ r.lead = some id ∧ ∃ done rest, chunks = done ++ rest ∧
      f.Carries (some h) done.flatten ∧ told = done.map .ok ∧ coming = Fed.script rest
  | .offering g b =>
    g = h ∧ r.lead = some id ∧ ∃ done rest, chunks = done ++ b :: rest ∧
      f.Carries (some h) (done.flatten ++ b) ∧ told = done.map .ok ∧ coming = Fed.script rest
  | .storing g =>
    g = h ∧ r.lead = some id ∧ f.Carries (some h) chunks.flatten ∧ told = chunks.map .ok
  | .landing => r.lead = some id ∧ f.Carries (some h) chunks.flatten ∧ told = chunks.map .ok
  | .leaving | .finished => f.Landed h chunks.flatten ∧ told = chunks.map .ok
  | .reporting _ | .failing | .abandoning | .refusing _ => False

structure Relay.Attended (r : Relay) (h : Head) : Prop where
  heard : r.client.heard = true
  room : 0 < r.client.room
  fed : r.client.fed = false ↔ r.stage = .finished
  head : r.head = .given (.ok h) ∨ (r.head = .awaited ∧ r.stage = .fetching)

namespace Exchange

def told (s : Exchange ω) : List (Except String Bytes) := s.client.pieces ++ s.relay.client.waiting

def coming (s : Exchange ω) : List Fed := s.relay.feed ++ s.upcoming

/-- A relay on its way with the head and the chunks. -/
structure Underway (id : FlightId) (h : Head) (chunks : List Bytes) (s : Exchange ω) : Prop where
  sound : s.cache.flights.Sound
  carried : ∃ f, s.cache.flights.flight? id = some f ∧
    s.relay.Carried id h chunks f s.told s.coming
  attended : s.relay.Attended h
  answer : s.client.answer = none ∨ s.client.answer = some (.ok (h.marked .miss))
  ended : s.client.ended = true →
    s.client.answer ≠ none ∧ s.relay.client.waiting = [] ∧ s.relay.stage = .finished

variable {id : FlightId} {h : Head} {chunks : List Bytes} {s : Exchange ω}
  {r r' : Relay} {f g : Flight ω} {told : List (Except String Bytes)} {coming : List Fed}

theorem carried_congr (carried : r.Carried id h chunks f told coming) (stage : r'.stage = r.stage)
    (fetched : r'.fetched = r.fetched) (lead : r'.lead = r.lead)
    (same : g = f ∨ ∃ w, g = (f.join w).1) : r'.Carried id h chunks g told coming := by
  have carries {head : Option Head} {body : Bytes} (c : f.Carries head body) : g.Carries head body := by
    rcases same with rfl | ⟨w, rfl⟩
    · exact c
    · exact Flight.carries_join c w
  have landed {body : Bytes} (l : f.Landed h body) : g.Landed h body := by
    rcases same with rfl | ⟨w, rfl⟩
    · exact l
    · exact Flight.landed_join l w
  unfold Relay.Carried at carried ⊢
  rw [stage, fetched, lead]
  split at carried
  · obtain ⟨answered, leads, c, rest⟩ := carried
    exact ⟨answered, leads, carries c, rest⟩
  · obtain ⟨same, leads, c, rest⟩ := carried
    exact ⟨same, leads, carries c, rest⟩
  · obtain ⟨same, leads, done, rest, all, c, more⟩ := carried
    exact ⟨same, leads, done, rest, all, carries c, more⟩
  · obtain ⟨same, leads, done, rest, all, c, more⟩ := carried
    exact ⟨same, leads, done, rest, all, carries c, more⟩
  · obtain ⟨same, leads, c, rest⟩ := carried
    exact ⟨same, leads, carries c, rest⟩
  · obtain ⟨leads, c, rest⟩ := carried
    exact ⟨leads, carries c, rest⟩
  · obtain ⟨l, rest⟩ := carried
    exact ⟨landed l, rest⟩
  · obtain ⟨l, rest⟩ := carried
    exact ⟨landed l, rest⟩
  · exact carried
  · exact carried
  · exact carried
  · exact carried

theorem exists_told (carried : r.Carried id h chunks f told coming) :
    ∃ done : List Bytes, told = done.map .ok := by
  unfold Relay.Carried at carried
  split at carried
  · exact ⟨[], carried.2.2.2.1⟩
  · exact ⟨[], carried.2.2.2.1⟩
  · obtain ⟨-, -, done, -, -, -, all, -⟩ := carried
    exact ⟨done, all⟩
  · obtain ⟨-, -, done, -, -, -, all, -⟩ := carried
    exact ⟨done, all⟩
  · exact ⟨chunks, carried.2.2.2⟩
  · exact ⟨chunks, carried.2.2⟩
  · exact ⟨chunks, carried.2⟩
  · exact ⟨chunks, carried.2⟩
  all_goals exact carried.elim

section carrying

variable {c c' : Cache ω} {ps : Postings ω} {pieces : List (Except String Bytes)} {upcoming : List Fed}

theorem flight?_idle (stepped : r.step c = some (c', r', ps))
    (there : c.flights.flight? id = some f) (none_made : (r.moves : List (FlightTable.Move ω)) = []) :
    c'.flights.flight? id = some f := by
  rw [(Relay.step_done stepped).1, none_made]
  exact there

theorem flight?_flushed {m : FlightTable.Move ω} (stepped : r.step c = some (c', r', ps))
    (sound : c.flights.Sound) (there : c.flights.flight? id = some f)
    (about : c.flights.target? m = some id) (both : r.moves = [m, .flush id false]) :
    c'.flights.flight? id = some ((f.after m.acts).flush false).1 := by
  have driven := FlightTable.flight?_driven sound there about
  rw [(Relay.step_done stepped).1, both]
  exact FlightTable.flight?_driven (FlightTable.sound_step sound) driven rfl

theorem carried_pumping {g : Head} (stage : r.stage = .pumping g) (sound : c.flights.Sound)
    (there : c.flights.flight? id = some f)
    (carried : r.Carried id h chunks f (pieces ++ r.client.waiting) (r.feed ++ upcoming))
    (stepped : r.step c = some (c', r', ps)) :
    ∃ g, c'.flights.flight? id = some g ∧
      r'.Carried id h chunks g (pieces ++ r'.client.waiting) (r'.feed ++ upcoming) := by
  simp only [Relay.Carried, stage] at carried
  obtain ⟨rfl, lead, done, rest, split, carries, offered, all⟩ := carried
  cases feed : r.feed with
  | nil => simp [Relay.step, stage, feed] at stepped
  | cons x feed' =>
    rw [feed] at all
    -- What the origin sends next tells whether chunks are left.
    cases rest with
    | nil =>
      obtain ⟨rfl, -⟩ := List.cons.inj all
      have idle := flight?_idle stepped there (by simp [Relay.moves, stage, lead, feed])
      simp only [Relay.step, stage, feed] at stepped
      cases stepped
      rw [List.append_nil] at split
      rw [split]
      exact ⟨f, idle, rfl, lead, carries, offered⟩
    | cons b rest =>
      obtain ⟨rfl, later⟩ := List.cons.inj all
      have appended := flight?_flushed (m := .append id b) stepped sound there rfl
        (by simp [Relay.moves, stage, lead, feed])
      have carries' := Flight.carries_flush (Flight.carries_append carries b)
      simp only [Relay.step, stage, feed] at stepped
      cases stepped
      exact ⟨_, appended, rfl, lead, done, rest, split, carries', offered, later⟩

theorem carried_offering {g : Head} {b : Bytes} (stage : r.stage = .offering g b)
    (there : c.flights.flight? id = some f) (heard : r.client.heard = true)
    (carried : r.Carried id h chunks f (pieces ++ r.client.waiting) (r.feed ++ upcoming))
    (stepped : r.step c = some (c', r', ps)) :
    ∃ g, c'.flights.flight? id = some g ∧
      r'.Carried id h chunks g (pieces ++ r'.client.waiting) (r'.feed ++ upcoming) := by
  simp only [Relay.Carried, stage] at carried
  obtain ⟨rfl, lead, done, rest, split, carries, offered, all⟩ := carried
  have idle := flight?_idle stepped there (by simp [Relay.moves, stage, lead])
  -- A full channel holds the task up; otherwise the chunk is now the last one that waits there.
  by_cases full : r.client.room ≤ r.client.waiting.length
  · simp [Relay.step, stage, Channel.send, heard, full] at stepped
  · simp only [Relay.step, stage, Channel.send, heard, full] at stepped
    cases stepped
    refine ⟨f, idle, rfl, lead, done ++ [b], rest, by simp [split], ?_, ?_, all⟩
    · simpa using carries
    · rw [← List.append_assoc, offered]
      simp

theorem carried_step (sound : c.flights.Sound) (there : c.flights.flight? id = some f)
    (heard : r.client.heard = true)
    (carried : r.Carried id h chunks f (pieces ++ r.client.waiting) (r.feed ++ upcoming))
    (stepped : r.step c = some (c', r', ps)) :
    ∃ g, c'.flights.flight? id = some g ∧
      r'.Carried id h chunks g (pieces ++ r'.client.waiting) (r'.feed ++ upcoming) := by
  cases stage : r.stage with
  | fetching =>
    simp only [Relay.Carried, stage] at carried
    obtain ⟨answered, lead, carries, offered, all⟩ := carried
    have idle := flight?_idle stepped there (by simp [Relay.moves, stage, lead])
    simp only [Relay.step, stage, answered] at stepped
    cases stepped
    exact ⟨f, idle, rfl, lead, carries, offered, all⟩
  | opening g =>
    simp only [Relay.Carried, stage] at carried
    obtain ⟨rfl, lead, carries, offered, all⟩ := carried
    have noted := flight?_flushed (m := .setHead id g) stepped sound there rfl
      (by simp [Relay.moves, stage, lead])
    have carries' := Flight.carries_flush (Flight.carries_setHead carries g)
    simp only [Relay.step, stage] at stepped
    cases stepped
    exact ⟨_, noted, rfl, lead, [], chunks, rfl, carries', offered, all⟩
  | pumping g => exact carried_pumping stage sound there carried stepped
  | offering g b => exact carried_offering stage there heard carried stepped
  | storing g =>
    simp only [Relay.Carried, stage] at carried
    obtain ⟨rfl, lead, carries, offered⟩ := carried
    have idle := flight?_idle stepped there (by simp [Relay.moves, stage, lead])
    simp only [Relay.step, stage] at stepped
    cases stepped
    exact ⟨f, idle, lead, carries, offered⟩
  | landing =>
    simp only [Relay.Carried, stage] at carried
    obtain ⟨lead, carries, offered⟩ := carried
    have finished : c'.flights.flight? id = some (f.after [.flush true, .abort]) := by
      have only : (r.moves : List (FlightTable.Move ω)) = [.finish id] := by
        simp [Relay.moves, stage, lead]
      rw [(Relay.step_done stepped).1, only]
      exact FlightTable.flight?_driven (m := .finish id) sound there rfl
    simp only [Relay.step, stage] at stepped
    cases stepped
    exact ⟨_, finished, Flight.landed_finish carries, offered⟩
  | leaving =>
    simp only [Relay.Carried, stage] at carried
    have idle := flight?_idle stepped there (by cases lead : r.lead <;> simp [Relay.moves, stage, lead])
    simp only [Relay.step, stage] at stepped
    cases stepped
    exact ⟨f, idle, carried⟩
  | finished => simp [Relay.step, stage] at stepped
  | reporting _ | failing | abandoning | refusing _ =>
    simp only [Relay.Carried, stage] at carried

end carrying

theorem attended_step {c c' : Cache ω} {ps : Postings ω} (a : r.Attended h)
    (carried : r.Carried id h chunks f told coming) (stepped : r.step c = some (c', r', ps)) :
    r'.Attended h := by
  have fed (unfinished : r.stage ≠ .finished) : ¬ r.client.fed = false := by rwa [a.fed]
  have given (gone : r.stage ≠ .fetching) : r.head = .given (.ok h) := by
    simpa [gone] using a.head
  cases stage : r.stage with
  | fetching =>
    simp only [Relay.Carried, stage] at carried
    simp only [Relay.step, stage, carried.1] at stepped
    cases stepped
    exact ⟨a.heard, a.room, by simpa using fed (by simp [stage]), .inl rfl⟩
  | opening g | storing g | landing =>
    simp only [Relay.step, stage] at stepped
    cases stepped
    exact ⟨a.heard, a.room, by simpa using fed (by simp [stage]), .inl (given (by simp [stage]))⟩
  | pumping g =>
    simp only [Relay.step, stage] at stepped
    split at stepped
    · cases stepped
    all_goals
      cases stepped
      exact ⟨a.heard, a.room, by simpa using fed (by simp [stage]), .inl (given (by simp [stage]))⟩
  | offering g b =>
    by_cases full : r.client.room ≤ r.client.waiting.length
    · simp [Relay.step, stage, Channel.send, a.heard, full] at stepped
    · simp only [Relay.step, stage, Channel.send, a.heard, full] at stepped
      cases stepped
      exact ⟨rfl, a.room, by simpa using fed (by simp [stage]), .inl (given (by simp [stage]))⟩
  | leaving =>
    simp only [Relay.step, stage] at stepped
    cases stepped
    exact ⟨a.heard, a.room, ⟨fun _ => rfl, fun _ => rfl⟩, .inl (given (by simp [stage]))⟩
  | finished => simp [Relay.step, stage] at stepped
  | reporting _ | failing | abandoning | refusing _ =>
    simp only [Relay.Carried, stage] at carried

variable [DecidableEq ω]

theorem underway_advance (u : s.Underway id h chunks) : (s.step .advance).Underway id h chunks := by
  cases stepped : s.relay.step s.cache with
  | none => simpa [step, stepped] using u
  | some x =>
    obtain ⟨c', r', ps⟩ := x
    obtain ⟨f, there, carried⟩ := u.carried
    have unfinished : s.relay.stage ≠ .finished := by
      intro stage
      simp [Relay.step, stage] at stepped
    simp only [step, stepped]
    refine ⟨?_, carried_step u.sound there u.attended.heard carried stepped,
      attended_step u.attended carried stepped, u.answer, ?_⟩
    · show c'.flights.Sound
      rw [(Relay.step_done stepped).1]
      exact Course.after_keeps (P := FlightTable.Sound) (fun _ _ => FlightTable.sound_step) u.sound _
    · exact fun ended => absurd (u.ended ended).2.2 unfinished

theorem underway_read (u : s.Underway id h chunks) : (s.step .read).Underway id h chunks := by
  cases ended : s.client.ended with
  | true => simpa [step, Relay.read, ended] using u
  | false =>
    rcases u.answer with unanswered | answered
    · rcases u.attended.head with given | ⟨awaited, -⟩
      · simp only [step, Relay.read, ended, unanswered, given]
        exact ⟨u.sound, u.carried, u.attended, .inr rfl, by simp⟩
      · simpa [step, Relay.read, ended, unanswered, awaited] using u
    · obtain ⟨f, there, carried⟩ := u.carried
      cases waiting : s.relay.client.waiting with
      | cons p rest =>
        -- All that was offered are pieces, so what the client finds is no error.
        obtain ⟨done, offered⟩ := exists_told carried
        have mem : p ∈ done.map Except.ok := by
          rw [← offered, told, waiting]
          simp
        obtain ⟨b, -, rfl⟩ := List.mem_map.mp mem
        have result : s.step .read =
            { s with
              relay := { s.relay with client := { s.relay.client with waiting := rest } }
              client := { s.client with pieces := s.client.pieces ++ [.ok b] } } := by
          simp [step, Relay.read, ended, answered, Channel.read, waiting, Arrival.next]
        have same : (s.step .read).told = s.told := by
          simp [result, told, waiting]
        refine ⟨by rw [result]; exact u.sound, ⟨f, by rw [result]; exact there, ?_⟩, ?_, ?_, ?_⟩
        · rw [same]
          rw [result]
          exact carried_congr carried rfl rfl rfl (.inl rfl)
        all_goals rw [result]
        · exact ⟨u.attended.heard, u.attended.room, u.attended.fed, u.attended.head⟩
        · exact u.answer
        · simp [ended]
      | nil =>
        cases fed : s.relay.client.fed with
        | true => simpa [step, Relay.read, ended, answered, Channel.read, waiting, fed, Arrival.next] using u
        | false =>
          have result : s.step .read = { s with client := { s.client with ended := true } } := by
            simp [step, Relay.read, ended, answered, Channel.read, waiting, fed, Arrival.next]
          rw [result]
          exact ⟨u.sound, u.carried, u.attended, u.answer,
            fun _ => ⟨by simp [answered], waiting, u.attended.fed.mp fed⟩⟩

/-- Whatever happens, as long as nobody else drives the flight, the relay stays on its way. -/
theorem underway_step (u : s.Underway id h chunks) (e : Event ω)
    (others : ∀ m, e = .flights m → m.drives id = false) : (s.step e).Underway id h chunks := by
  obtain ⟨f, there, carried⟩ := u.carried
  cases e with
  | send =>
    cases upcoming : s.upcoming with
    | nil => simpa [step, upcoming] using u
    | cons x rest =>
      have same : (s.step .send).coming = s.coming := by simp [step, upcoming, coming]
      refine ⟨?_, ⟨f, ?_, same ▸ ?_⟩, ?_, ?_, ?_⟩
      all_goals simp only [step, upcoming]
      · exact u.sound
      · exact there
      · exact carried_congr carried rfl rfl rfl (.inl rfl)
      · exact ⟨u.attended.heard, u.attended.room, u.attended.fed, u.attended.head⟩
      · exact u.answer
      · exact u.ended
  | advance => exact underway_advance u
  | read => exact underway_read u
  | flights m =>
    obtain ⟨g, there', same⟩ := FlightTable.exists_undriven u.sound there (others m rfl)
    exact ⟨FlightTable.sound_step u.sound, ⟨g, there', carried_congr carried rfl rfl rfl same⟩,
      u.attended, u.answer, u.ended⟩
  | store _ | execute _ | listen _ =>
    exact ⟨u.sound, ⟨f, there, carried⟩, u.attended, u.answer, u.ended⟩

theorem underway_after (u : s.Underway id h chunks) {es : List (Event ω)}
    (others : ∀ m, .flights m ∈ es → m.drives id = false) : (s.after es).Underway id h chunks := by
  induction es generalizing s with
  | nil => exact u
  | cons e es ih =>
    refine ih (underway_step u e ?_) fun m mem => others m (List.mem_cons_of_mem _ mem)
    rintro m rfl
    exact others m List.mem_cons_self

end Exchange
end CachingProxy
