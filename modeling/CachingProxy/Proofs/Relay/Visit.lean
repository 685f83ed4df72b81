import CachingProxy.Proofs.Relay.Hearing
import CachingProxy.Proofs.Relay.Next

namespace CachingProxy

theorem Relay.read_cases (r : Relay) (c : Client) :
    (r.read c).1 = r ∨ (r.read c).1 = { r with client := r.client.read.1 } := by
  unfold Relay.read
  split
  · exact .inl rfl
  · split
    · split <;> exact .inl rfl
    · split
      · next read => exact .inr (by rw [read])
      · next read => exact .inr (by rw [read])
      · exact .inl rfl
      · exact .inl rfl

theorem Relay.exists_read (r : Relay) (c : Client) :
    ∃ client, (r.read c).1 = { r with client } := by
  obtain same | same := r.read_cases c
  · exact ⟨r.client, same⟩
  · exact ⟨r.client.read.1, same⟩

namespace Visit

variable {ω : Type} [DecidableEq ω]

inductive Event (ω : Type)
  | exchange (e : Exchange.Event ω)
  /-- The relay's client goes away. From then on it reads nothing. -/
  | leave

def step (s : Exchange ω) : Event ω → Exchange ω
  | .exchange .read => if s.relay.client.heard then s.step .read else s
  | .exchange e => s.step e
  | .leave => { s with relay := s.relay.leave }

def after (s : Exchange ω) (es : List (Event ω)) : Exchange ω := Course.after step s es

theorem after_append (s : Exchange ω) (before later : List (Event ω)) :
    after s (before ++ later) = after (after s before) later :=
  Course.after_append _ _ _ _

/-- A relay that was answered with a head, when its task has not seen it yet. -/
def start (prior : List (FlightTable.Move ω)) (store : Store) (host path : String)
    (lead : Option FlightId) (h : Head) (sent : List Fed) : Exchange ω :=
  .start prior store { host, path, lead, fetched := some (.answered h) } sent

variable {s : Exchange ω} {e : Event ω} {h : Head} {sent : List Fed} {taken : List Bytes}

def moving (s : Exchange ω) : Event ω → List (FlightTable.Move ω)
  | .exchange e => s.moving e
  | .leave => []

def moves (s : Exchange ω) (es : List (Event ω)) : List (FlightTable.Move ω) :=
  Course.noted step moving s es

theorem moves_append (s : Exchange ω) (before later : List (Event ω)) :
    moves s (before ++ later) = moves s before ++ moves (after s before) later :=
  Course.noted_append _ _ _ _ _

theorem step_cases (s : Exchange ω) (e : Event ω) :
    step s e = s ∧ e = .exchange .read ∨ e = .leave ∨
      ∃ x, e = .exchange x ∧ step s e = s.step x ∧ (x = .read → s.relay.client.heard = true) := by
  cases e with
  | leave => exact .inr (.inl rfl)
  | exchange x =>
    cases x with
    | read =>
      cases heard : s.relay.client.heard with
      | false => exact .inl ⟨by simp [step, heard], rfl⟩
      | true => exact .inr (.inr ⟨.read, rfl, by simp [step, heard], fun _ => rfl⟩)
    | send | advance | flights _ | store _ | execute _ | listen _ =>
      exact .inr (.inr ⟨_, rfl, rfl, nofun⟩)

theorem step_advance (s : Exchange ω) :
    step s (.exchange .advance) =
      match s.relay.next? with
      | none => s
      | some relay =>
        { s with
          cache :=
            { store := s.cache.store.after (s.relay.ops s.cache)
              flights := s.cache.flights.after s.relay.moves }
          relay }.post (s.cache.flights.posted s.relay.moves) := by
  simp only [step, Exchange.step, Relay.step_eq]
  cases s.relay.next? <;> rfl

theorem flights_step : (step s e).cache.flights = s.cache.flights.after (moving s e) := by
  obtain ⟨same, rfl⟩ | rfl | ⟨x, rfl, same, -⟩ := step_cases s e
  · rw [same]
    rfl
  · rfl
  · rw [same]
    exact Exchange.flights_step

def taking (s : Exchange ω) : Event ω → List Bytes
  | .exchange .advance =>
    match s.relay.step s.cache with
    | none => []
    | some _ => s.relay.taking
  | _ => []

/-- What the relay and its client know of each other. -/
def Knows (h : Head) (sent : List Fed) (s : Exchange ω) (taken : List Bytes) : Prop :=
  s.relay.Account h sent s.coming taken ∧ s.relay.Told s.client h sent taken

theorem knows_start (prior : List (FlightTable.Move ω)) (store : Store) (host path : String)
    (lead : Option FlightId) (h : Head) (sent : List Fed) :
    Knows h sent (start prior store host path lead h sent) [] :=
  ⟨⟨rfl, rfl, rfl⟩, fun _ _ => rfl, nofun, .inr ⟨rfl, rfl⟩, .inl rfl, nofun⟩

theorem knows_step (knows : Knows h sent s taken) (e : Event ω) :
    Knows h sent (step s e) (taken ++ taking s e) := by
  obtain ⟨account, told⟩ := knows
  obtain ⟨same, rfl⟩ | rfl | ⟨x, rfl, same, heard⟩ := step_cases s e
  · simp only [same, taking, List.append_nil]
    exact ⟨account, told⟩
  · simp only [taking, List.append_nil]
    exact ⟨account, nofun, told.fed, told.head, told.answer, told.ended⟩
  · rw [same]
    cases x with
    | send =>
      simp only [taking, List.append_nil]
      cases upcoming : s.upcoming with
      | nil => simpa [Exchange.step, upcoming] using ⟨account, told⟩
      | cons y rest =>
        have kept : (s.step .send).coming = s.coming := by
          simp [Exchange.step, upcoming, Exchange.coming]
        rw [Knows, kept]
        simp only [Exchange.step, upcoming]
        exact ⟨account, told.hears, told.fed, told.head, told.answer, told.ended⟩
    | advance =>
      cases stepped : s.relay.step s.cache with
      | none => simpa [taking, Exchange.step, stepped] using ⟨account, told⟩
      | some y =>
        have turn := Relay.turn_of_step stepped
        simp only [taking, Exchange.step, stepped]
        exact ⟨Relay.account_turn account turn, Relay.told_turn told account turn⟩
    | read =>
      obtain ⟨client, read⟩ := s.relay.exists_read s.client
      simp only [taking, List.append_nil]
      refine ⟨?_, Relay.told_read told (heard rfl) account⟩
      show (s.relay.read s.client).1.Account h sent ((s.relay.read s.client).1.feed ++ s.upcoming) taken
      rw [read]
      exact account
    | flights _ | store _ | execute _ | listen _ =>
      simp only [taking, List.append_nil]
      exact ⟨account, told⟩

theorem knows_after (knows : Knows h sent s taken) (es : List (Event ω)) :
    ∃ taken, Knows h sent (after s es) taken :=
  Course.after_keeps (P := fun s : Exchange ω => ∃ taken, Knows h sent s taken)
    (fun _ e ⟨_, knows⟩ => ⟨_, knows_step knows e⟩) ⟨_, knows⟩ es

/-- For every relay, everything that its origin can send after the head, and whatever else happens in
any order: a client that has come to the end of its body has read all chunks that came before anything
else, and it takes them for the whole body just if what came then was the end, or else a panic, which
nobody tells it of. -/
theorem concludes (prior : List (FlightTable.Move ω)) (store : Store) (host path : String)
    (lead : Option FlightId) (h : Head) (sent : List Fed) (es : List (Event ω))
    (ended : (after (start prior store host path lead h sent) es).client.ended = true) :
    (after (start prior store host path lead h sent) es).client.answer = some (.ok (h.marked .miss)) ∧
    (after (start prior store host path lead h sent) es).client.body = (Fed.chunks sent).flatten ∧
    ((after (start prior store host path lead h sent) es).client.isSatisfied ↔
      Fed.fate? sent = some .ended ∨ Fed.fate? sent = some .panicked) := by
  obtain ⟨taken, -, told⟩ := knows_after (knows_start prior store host path lead h sent) es
  obtain ⟨answered, pieces, known, -⟩ := told.ended ended
  have answer := told.answer.resolve_left answered
  refine ⟨answer, ?_, fun content => ?_, fun untold => ?_⟩
  · rw [Client.body, pieces, Fed.complaint]
    split <;> simp [List.flatMap_map]
  · obtain ⟨-, -, content⟩ := content
    refine (Fed.fate?_cases known).resolve_left ?_
    rintro ⟨e, fate⟩
    have told : .error e.message ∈ (Fed.chunks sent).map Except.ok ++ Fed.complaint sent := by
      simp [Fed.complaint, fate]
    obtain ⟨b, error⟩ := content _ (pieces ▸ told)
    cases error
  · have silent : Fed.complaint sent = [] := by
      obtain fate | fate := untold <;> rw [Fed.complaint, fate]
    refine ⟨ended, ⟨_, answer⟩, fun p mem => ?_⟩
    rw [pieces, silent, List.append_nil] at mem
    obtain ⟨b, -, rfl⟩ := List.mem_map.mp mem
    exact ⟨b, rfl⟩

/-- A client that reads a body of two chunks to its end, while nobody else does anything. -/
theorem concludes_two_chunks :
    let es : List (Exchange.Event Nat) :=
      [.send, .send, .send] ++ List.replicate 10 .advance ++ List.replicate 4 .read
    let s := after (start [] (.empty 1) "h" "/p" none ⟨.ok, []⟩ [.chunk [1], .chunk [2], .ended])
      (es.map .exchange)
    s.client.ended = true ∧ s.client.body = [1, 2] ∧ s.client.isSatisfied := by
  intro es s
  have ended : s.client.ended = true := by decide +kernel
  obtain ⟨-, body, satisfied⟩ := concludes [] _ "h" "/p" none ⟨.ok, []⟩
    [.chunk [1], .chunk [2], .ended] _ ended
  exact ⟨ended, body, satisfied.mpr (.inl rfl)⟩

/-- The origin's body panics after one chunk. The relay's client finds that chunk and a good end, while
a follower of the same flight is reset. -/
theorem satisfied_by_torn_body :
    let es : List (Exchange.Event Nat) :=
      [.send, .send] ++ List.replicate 7 .advance ++ List.replicate 3 .read ++
        List.replicate 3 (.execute 1)
    let s := after (start [.elect "h/p" 0, .elect "h/p" 1] (.empty 1) "h" "/p" (some 0) ⟨.ok, []⟩
      [.chunk [1], .panicked]) (es.map .exchange)
    s.client.isSatisfied ∧ s.client.body = [1] ∧
      Fed.fate? [.chunk [1], .panicked] ≠ some .ended ∧ .reset ∈ (s.lines 1).handed := by
  intro es s
  have pieces : s.client.pieces = [.ok [1]] := by decide +kernel
  refine ⟨⟨by decide +kernel, ⟨_, rfl⟩, by simp [pieces]⟩, by rw [Client.body, pieces]; rfl,
    by simp [Fed.fate?], by decide +kernel⟩

end Visit
end CachingProxy
