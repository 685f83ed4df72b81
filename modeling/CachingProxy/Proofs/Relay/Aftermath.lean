import CachingProxy.Proofs.Relay.Doomed

namespace CachingProxy

variable {ω : Type}

/-- How many steps are left at most once the task has seen the failure. -/
def Stage.toEnd? : Stage → Option Nat
  | .reporting _ => some 3
  | .failing => some 2
  | .abandoning | .refusing _ => some 1
  | .finished => some 0
  | .fetching | .opening _ | .pumping _ | .offering _ _ | .storing _ | .landing | .leaving => none

/-- Whether the failure can be reported to the client at once. -/
def Relay.HasRoom (r : Relay) : Prop :=
  r.client.heard = true → r.client.waiting.length < r.client.room

theorem Relay.hasRoom_read {r : Relay} (room : r.HasRoom) (c : Client) : (r.read c).1.HasRoom := by
  obtain same | same := r.read_cases c
  · rwa [same]
  · rw [same]
    intro heard
    have before : r.client.waiting.length < r.client.room := room heard
    show (Arrival.next r.client.waiting r.client.fed).2.length < r.client.room
    cases waiting : r.client.waiting with
    | nil => simpa [Arrival.next, waiting] using before
    | cons p rest =>
      rw [waiting] at before
      exact Nat.lt_of_succ_lt before

theorem Cache.judge_lead {c : Cache ω} {q : Inquiry} (asks : q.passesBy = false)
    (absent : c.store.peek q.host q.path = none) (free : c.flights.registered.get? q.key = none)
    (w : ω) : ∃ d, c.judge true q w = (d, [], .lead c.flights.next) := by
  simp [judge, consult, asks, Store.get, absent, elect, FlightTable.elect, free, FlightTable.create]

/-- Whoever waits is handed nothing, or the head and some of the body, and then one reset. -/
def Mishap.Resets (x : Mishap) (ds : List Delivery) : Prop :=
  ds = [.reset] ∨ ∃ h ps, x.head? = some h ∧ ds = Transcript.opening h ps ++ [.reset] ∧
    ps.flatMap Piece.bytes <+: x.chunks.flatten

theorem Flight.resets_of_crashed [DecidableEq ω] {f : Flight ω} {w : ω} {t : Transcript} {x : Mishap}
    (served : f.Served w t) (crashed : f.Crashed x.head? x.chunks.flatten) : x.Resets t.deliveries := by
  have reset : t.isReset = true := served.reset.mpr crashed.aborted
  have bytes := served.bytes
  rw [crashed.body] at bytes
  cases t with
  | refused => exact .inl rfl
  | broken h ps => exact .inr ⟨h, ps, crashed.head.symm.trans (served.head h rfl), rfl, bytes⟩
  | nothing | bare _ | begun _ _ | ended _ _ _ => cases reset

namespace Audience

variable {s : Audience ω} {es : List (Event ω)}

def Event.isAdvance : Event ω → Bool
  | .exchange .advance => true
  | _ => false

variable [DecidableEq ω]

theorem toEnd_advance {n : Nat} (left : s.relay.stage.toEnd? = some n)
    (room : s.relay.HasRoom ∨ n ≤ 2) :
    (s.step (.exchange .advance)).relay.stage.toEnd? = some (n - 1) := by
  rw [step_advance]
  cases stage : s.relay.stage with
  | reporting detail =>
    rw [stage] at left
    cases left
    -- A client that is there has room for the report; one that has left does not hold it up.
    have roomy : s.relay.HasRoom := room.resolve_right (by decide)
    have becomes : ∃ client, s.relay.next? = some { s.relay with client, stage := .failing } := by
      simp only [Relay.next?, stage, Channel.send]
      cases heard : s.relay.client.heard with
      | false => simp
      | true => simp [Nat.not_le.mpr (roomy heard)]
    obtain ⟨client, becomes⟩ := becomes
    simp [becomes, Stage.toEnd?]
  | failing | abandoning | refusing _ | finished =>
    rw [stage] at left
    cases left
    simp [Relay.next?, stage, Stage.toEnd?]
  | fetching | opening _ | pumping _ | offering _ _ | storing _ | landing | leaving =>
    rw [stage] at left
    cases left

theorem toEnd_step {n : Nat} (left : s.relay.stage.toEnd? = some n)
    (room : s.relay.HasRoom ∨ n ≤ 2) (e : Event ω) :
    ∃ k, (s.step e).relay.stage.toEnd? = some k ∧ ((s.step e).relay.HasRoom ∨ k ≤ 2) ∧
      k ≤ n - [e].countP Event.isAdvance := by
  cases e using Event.cases with
  | advance =>
    refine ⟨n - 1, toEnd_advance left room, .inr ?_, Nat.le_refl _⟩
    have few : n ≤ 3 := by
      cases stage : s.relay.stage <;> rw [stage] at left <;> cases left <;> decide
    omega
  | answer | execute _ | listen _ =>
    simp only [step]
    split <;> exact ⟨n, left, room, Nat.le_refl _⟩
  | send =>
    simp only [step, Visit.step, Exchange.step]
    split <;> exact ⟨n, left, room, Nat.le_refl _⟩
  | read =>
    obtain ⟨client, read⟩ := s.relay.exists_read s.client
    simp only [step, Visit.step, Exchange.step]
    split
    · refine ⟨n, ?_, room.imp_left fun room => Relay.hasRoom_read room s.client, Nat.le_refl _⟩
      rw [read]
      exact left
    · exact ⟨n, left, room, Nat.le_refl _⟩
  | leave =>
    refine ⟨n, left, .inl fun heard => ?_, Nat.le_refl _⟩
    cases heard
  | flights _ | store _ | depart _ => exact ⟨n, left, room, Nat.le_refl _⟩

theorem finished_after {n : Nat} (left : s.relay.stage.toEnd? = some n)
    (room : s.relay.HasRoom ∨ n ≤ 2) (enough : n ≤ es.countP Event.isAdvance) :
    (s.after es).relay.stage = .finished := by
  induction es generalizing s n with
  | nil =>
    obtain rfl : n = 0 := Nat.le_zero.mp enough
    cases stage : s.relay.stage <;> rw [stage] at left <;> cases left
    exact stage
  | cons e es ih =>
    obtain ⟨k, left', room', less⟩ := toEnd_step left room e
    apply ih left' room'
    have split : (e :: es).countP Event.isAdvance =
        [e].countP Event.isAdvance + es.countP Event.isAdvance := by
      rw [← List.countP_append, List.singleton_append]
    omega

variable {prior : List (FlightTable.Move ω)} {store : Store} {host path : String}
  {lead : Option FlightId} {x : Mishap} {unseen : List Fed}

/-- A relay with its request on the way, and a flight that nobody has driven yet if it leads one. -/
abbrev launch (prior : List (FlightTable.Move ω)) (store : Store) (host path : String)
    (lead : Option FlightId) (x : Mishap) (unseen : List Fed) : Audience ω :=
  start { store, flights := .after {} prior }
    (fun w => Line.post {} ((FlightTable.posted {} prior).tasksFor w)) host path lead x.fetched
    (x.script unseen)

theorem doomed_launch
    (known : ∀ id ∈ lead, ((FlightTable.after {} prior).flight? id).isSome = true)
    (undriven : ∀ id ∈ lead, ∀ m ∈ prior, m.drives id = false) :
    (launch prior store host path lead x unseen).Doomed x unseen lead := by
  refine ⟨FlightTable.tidy_after prior, fun _ => rfl, ⟨none, [], ?_, ?_⟩, nofun⟩
  · exact ⟨.inl ⟨rfl, rfl⟩, rfl, rfl, rfl⟩
  · intro id own
    obtain ⟨f, there⟩ := Option.isSome_iff_exists.mp (known id own)
    exact ⟨f, there, FlightTable.carries_of_undriven (undriven id own) there⟩

omit [DecidableEq ω] in
theorem crashed_of_finished (d : s.Doomed x unseen lead) (finished : s.relay.stage = .finished)
    {id : FlightId} (own : id ∈ lead) :
    ∃ f, s.cache.flights.flight? id = some f ∧ f.Crashed x.head? x.chunks.flatten := by
  obtain ⟨head, body, account, stands⟩ := d.account
  obtain ⟨f, there, stood⟩ := stands id own
  simp only [Relay.Fails, finished] at account
  obtain ⟨rfl, rfl⟩ := account
  rw [Flight.Stands, if_pos finished] at stood
  exact ⟨f, there, stood⟩

/-- For every relay, whether or not it leads a flight, whose fetch comes to a bad end, and whatever
else happens in any order, as long as nobody else drives the flight. At any time the store is what the
others have made of it. Once the task has seen the failure it ends within three more steps, unless its
client neither goes away nor reads what fills the channel; and the step that ends it strikes its own
flight from the register and no other. From then on the flight has failed, nobody finds it, and each
follower that joins once, early or late, is handed nothing, or the head and a part of the chunks, and
then one reset; and whoever next asks for the same leads a new flight, if the others have left
neither an answer nor a flight for it. -/
theorem leaves_only_resets (prior : List (FlightTable.Move ω)) (store : Store) (host path : String)
    (lead : Option FlightId) (x : Mishap) (unseen : List Fed) (es : List (Event ω))
    (known : ∀ id ∈ lead, ((FlightTable.after {} prior).flight? id).isSome = true)
    (undriven : ∀ id ∈ lead, ∀ m ∈ prior, m.drives id = false)
    (others : ∀ id ∈ lead, ∀ m, .exchange (.flights m) ∈ es → m.drives id = false) :
    let y := launch prior store host path lead x unseen
    let s := y.after es
    let done := prior ++ y.moves es
    s.cache.store = store.after (ops es) ∧
    (∀ n later, s.relay.stage.toEnd? = some n → (s.relay.HasRoom ∨ n ≤ 2) →
      n ≤ later.countP Event.isAdvance → (s.after later).relay.stage = .finished) ∧
    (s.relay.stage ≠ .finished → (s.step (.exchange .advance)).relay.stage = .finished → ∀ key,
      (s.step (.exchange .advance)).cache.flights.registered.get? key =
        if s.cache.flights.registered.get? key = lead then none
        else s.cache.flights.registered.get? key) ∧
    (s.relay.stage = .finished → ∀ id ∈ lead,
      (∃ f, s.cache.flights.flight? id = some f ∧ f.phase = .aborted) ∧
      (∀ key, s.cache.flights.registered.get? key ≠ some id) ∧
      ∀ w, ((FlightTable.seatings {} done).map Prod.snd).count w ≤ 1 →
        (id, w) ∈ FlightTable.seatings {} done →
        x.Resets (Postings.deliveriesFor w (FlightTable.posted {} done))) ∧
    (s.relay.stage = .finished → ∀ (q : Inquiry) (w : ω),
      q.host = host → q.path = path → q.passesBy = false →
      (store.after (ops es)).peek host path = none →
      (∀ id, s.cache.flights.registered.get? q.key = some id → lead = some id) →
      ∃ c id, s.cache.judge true q w = (c, [], .lead id)) := by
  intro y s done
  have first : y.Doomed x unseen lead := doomed_launch known undriven
  have d : s.Doomed x unseen lead := doomed_after first others
  have stored : s.cache.store = store.after (ops es) := store_after_doomed first others
  refine ⟨stored, ?_, registered_ended d, ?_, ?_⟩
  · exact fun n later => finished_after
  · intro finished id own
    obtain ⟨f, there, crashed⟩ := crashed_of_finished d finished own
    refine ⟨⟨f, there, crashed.aborted⟩, d.struck finished id own, fun w once seated => ?_⟩
    -- The flight that serves the follower is the one that the account is about.
    obtain ⟨g, t, there', served, handed⟩ := FlightTable.exists_served once seated
    have same : s.cache.flights = .after {} done := by
      rw [flights_after, FlightTable.after_append]
      rfl
    obtain rfl : g = f := Option.some.inj (there'.symm.trans (same ▸ there))
    exact handed ▸ Flight.resets_of_crashed served crashed
  · rintro finished q w rfl rfl asks absent alone
    have free : s.cache.flights.registered.get? q.key = none := by
      apply Option.eq_none_iff_forall_ne_some.mpr
      intro id there
      exact d.struck finished id (alone id there) q.key there
    obtain ⟨c, judged⟩ := Cache.judge_lead asks (stored ▸ absent) free w
    exact ⟨c, _, judged⟩

/-- A body that breaks off after two chunks when the client has gone, with a follower before the head,
one between the chunks and one after the end. -/
theorem leaves_only_resets_after_two_chunks :
    let prior : List (FlightTable.Move Nat) := [.elect "h/p" 0, .elect "h/p" 1]
    let x : Mishap := .broken ⟨.ok, []⟩ [[1], [2]] none
    let es : List (Event Nat) := .answer :: List.replicate 3 (.exchange .send) ++
      List.replicate 4 (.exchange .advance) ++ [.exchange (.flights (.seat 0 2)), .leave] ++
      List.replicate 5 (.exchange .advance) ++
      [.exchange (.flights (.seat 0 3)), .exchange (.store (.get "h" "/p"))]
    let empty : Store := .empty 1
    let s := (launch prior empty "h" "/p" (some 0) x []).after es
    let done := prior ++ (launch prior empty "h" "/p" (some 0) x []).moves es
    s.cache.store = { empty with misses := 1 } ∧
    (∀ w ∈ [1, 2, 3], x.Resets (Postings.deliveriesFor w (FlightTable.posted {} done))) ∧
    ∃ c id, s.cache.judge true ⟨.get, "h", "/p", []⟩ 4 = (c, [], .lead id) := by
  intro prior x es empty s done
  have others : ∀ id ∈ some 0, ∀ m, .exchange (.flights m) ∈ es → m.drives id = false := by
    simp [es, FlightTable.Move.drives]
  obtain ⟨store, -, -, ended, next⟩ := leaves_only_resets prior empty "h" "/p" (some 0) x [] es
    (by decide) (by decide) others
  refine ⟨store, fun w mem => ?_, ?_⟩
  · have seated : ∀ w ∈ [1, 2, 3], ((FlightTable.seatings {} done).map Prod.snd).count w ≤ 1 ∧
        (0, w) ∈ FlightTable.seatings {} done := by decide +kernel
    obtain ⟨-, -, resets⟩ := ended (by decide +kernel) 0 rfl
    exact resets w (seated w mem).1 (seated w mem).2
  · apply next (by decide +kernel) ⟨.get, "h", "/p", []⟩ 4 rfl rfl
    · decide +kernel
    · decide +kernel
    · decide +kernel

end Audience
end CachingProxy
