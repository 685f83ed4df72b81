import CachingProxy.Proofs.Relay.Voyage
import CachingProxy.Proofs.Service.Naming

namespace CachingProxy

/-- Requests, and what the origins give to the fetches that come of them, one after the other. -/
structure Crowd (ω : Type) where
  ask : ω → Inquiry
  parted : ∀ w, Store.Parted (ask w).host (ask w).path
  /-- Whether a request is merged with others for the same. -/
  merging : ω → Bool
  outcome : Nat → Fetched
  sent : Nat → List Fed

/-- Where a request stands. -/
inductive Standing
  | coming
  /-- It has looked for its answer in vain. -/
  | missed
  /-- It has found a flight for its key and takes its seat next. -/
  | found (id : FlightId)
  | told (v : Verdict)
  deriving DecidableEq

namespace Verdict

def relayed? : Verdict → Option (Option FlightId)
  | lead id => some (some id)
  | fetch => some none
  | bypass | hit _ | wait _ => none

end Verdict

namespace Cache

variable {ω : Type}

theorem consult_cases (c : Cache ω) (merging : Bool) (q : Inquiry) :
    c.consult merging q = (c, some .bypass) ∨
      ∃ v, c.consult merging q = ({ c with store := c.store.step (.get q.host q.path) }, v) ∧
        ((∃ a, c.store.peek q.host q.path = some a ∧ v = some (.hit a)) ∨
          v = none ∨ v = some .fetch) := by
  unfold consult
  split
  · exact .inl rfl
  · right
    rw [Store.step, Store.get]
    cases there : c.store.peek q.host q.path with
    | some a => exact ⟨_, rfl, .inl ⟨a, rfl, rfl⟩⟩
    | none => cases merging <;> exact ⟨_, rfl, by simp⟩

theorem elect_cases (c : Cache ω) (q : Inquiry) (w : ω) :
    ∃ v, c.elect q w = ({ c with flights := c.flights.step (.elect q.key w) },
        c.flights.posted [.elect q.key w], v) ∧
      (c.flights.registered.get? q.key = none ∧ v = .lead c.flights.next ∨
        ∃ id, c.flights.registered.get? q.key = some id ∧ v = .wait id) := by
  refine ⟨(c.elect q w).2.2, ?_, ?_⟩
  · rw [FlightTable.posted_singleton]
    rfl
  · cases taken : c.flights.registered.get? q.key with
    | none => exact .inl ⟨rfl, by simp [elect, FlightTable.elect_of_none taken]⟩
    | some id => exact .inr ⟨id, rfl, by simp [elect, FlightTable.elect_of_some taken]⟩

end Cache

/-- Many requests at one cache. A request first looks for its answer and then, unless it is there, comes
for the key of its host and path; between the two, and before it takes the seat that it has found,
others may act. -/
structure Traffic (ω : Type) where
  cache : Cache ω
  voyages : List Voyage := []
  standing : ω → Standing := fun _ => .coming
  lines : ω → Line := fun _ => {}

namespace Traffic

variable {ω : Type}

inductive Event (ω : Type)
  /-- A request looks for its answer. -/
  | consult (w : ω)
  /-- A request leads a new flight or takes a seat in the one that it finds. -/
  | elect (w : ω)
  /-- A request finds a flight and does not take its seat yet. -/
  | find (w : ω)
  | sit (w : ω)
  | fetch (i : Nat) (e : Trip.Event)
  | execute (w : ω)
  | listen (w : ω)
  /-- The answers of a host, or all of them, are forgotten. -/
  | purge (host : Option String)
  /-- A key is struck from the register. -/
  | strike (key : String)

variable [DecidableEq ω]

def post (s : Traffic ω) (ps : Postings ω) : Traffic ω :=
  { s with lines := fun w => (s.lines w).post (ps.tasksFor w) }

def ordering (d : Crowd ω) (s : Traffic ω) (w : ω) (v : Verdict) : List Order :=
  match v.relayed? with
  | some lead =>
    let n := s.voyages.length
    [⟨(d.ask w).host, (d.ask w).path, lead, d.outcome n, d.sent n⟩]
  | none => []

def tell (d : Crowd ω) (s : Traffic ω) (w : ω) (v : Verdict) : Traffic ω :=
  { s with
    standing := Function.update s.standing w (.told v)
    voyages := s.voyages ++ (s.ordering d w v).map Voyage.begin }

def step (d : Crowd ω) (s : Traffic ω) : Event ω → Traffic ω
  | .consult w =>
    match s.standing w with
    | .coming =>
      match s.cache.consult (d.merging w) (d.ask w) with
      | (cache, some v) => { s with cache }.tell d w v
      | (cache, none) => { s with cache, standing := Function.update s.standing w .missed }
    | _ => s
  | .elect w =>
    match s.standing w with
    | .missed =>
      let (cache, ps, v) := s.cache.elect (d.ask w) w
      ({ s with cache }.post ps).tell d w v
    | _ => s
  | .find w =>
    match s.standing w, s.cache.flights.registered.get? (d.ask w).key with
    | .missed, some id => { s with standing := Function.update s.standing w (.found id) }
    | _, _ => s
  | .sit w =>
    match s.standing w with
    | .found id =>
      let (flights, ps) := s.cache.flights.seat id w
      ({ s with cache := { s.cache with flights } }.post ps).tell d w (.wait id)
    | _ => s
  | .fetch i e =>
    match s.voyages[i]? with
    | some t =>
      let x := Visit.step (t.visit s.cache s.lines) (Trip.event e)
      { s with cache := x.cache, lines := x.lines, voyages := s.voyages.set i (t.resume x) }
    | none => s
  | .execute w => { s with lines := Function.update s.lines w (s.lines w).execute }
  | .listen w => { s with lines := Function.update s.lines w (s.lines w).read }
  | .purge host =>
    let store := s.cache.store.step ((host.map .purge).getD .purgeAll)
    { s with cache := { s.cache with store } }
  | .strike key => { s with cache := { s.cache with flights := s.cache.flights.step (.remove key) } }

def after (d : Crowd ω) (s : Traffic ω) (es : List (Event ω)) : Traffic ω := Course.after (step d) s es

def orders (s : Traffic ω) : List Order := s.voyages.map Voyage.order

def moving (d : Crowd ω) (s : Traffic ω) : Event ω → List (FlightTable.Move ω)
  | .elect w =>
    match s.standing w with
    | .missed => [.elect (d.ask w).key w]
    | _ => []
  | .sit w =>
    match s.standing w with
    | .found id => [.seat id w]
    | _ => []
  | .fetch i e =>
    match s.voyages[i]? with
    | some t => Visit.moving (t.visit s.cache s.lines) (Trip.event e)
    | none => []
  | .strike key => [.remove key]
  | .consult _ | .find _ | .execute _ | .listen _ | .purge _ => []

def moves (d : Crowd ω) (s : Traffic ω) (es : List (Event ω)) : List (FlightTable.Move ω) :=
  Course.noted (step d) (moving d) s es

variable {d : Crowd ω} {s : Traffic ω} {w : ω} {v : Verdict}

theorem flights_step (d : Crowd ω) (s : Traffic ω) (e : Event ω) :
    (step d s e).cache.flights = s.cache.flights.after (moving d s e) := by
  cases e with
  | consult w =>
    simp only [step, moving]
    split
    · obtain same | ⟨v, same, -⟩ := s.cache.consult_cases (d.merging w) (d.ask w)
      · rw [same]
        rfl
      · rw [same]
        cases v <;> rfl
    · rfl
  | elect w =>
    obtain ⟨v, same, -⟩ := s.cache.elect_cases (d.ask w) w
    simp only [step, moving]
    split
    · rw [same]
      rfl
    · rfl
  | find w | sit w =>
    simp only [step, moving]
    split <;> rfl
  | fetch i e =>
    simp only [step, moving]
    split
    · exact Visit.flights_step
    · rfl
  | execute _ | listen _ | purge _ | strike _ => rfl

theorem faithful_step {t : Transcript} (faithful : (s.lines w).Faithful t.deliveries)
    (fed : (s.lines w).fed = true) (e : Event ω) :
    ((step d s e).lines w).Faithful
      (t.deliveries ++ Postings.deliveriesFor w (s.cache.flights.posted (moving d s e))) ∧
    ((step d s e).lines w).fed = true := by
  have unposted {l : Line} (kept : l.Faithful t.deliveries ∧ l.fed = true) :
      l.Faithful (t.deliveries ++ []) ∧ l.fed = true := by
    rwa [List.append_nil]
  have idle := unposted ⟨faithful, fed⟩
  cases e with
  | consult v =>
    have same : (step d s (.consult v)).lines = s.lines := by
      simp only [step]
      split
      · split <;> rfl
      · rfl
    rw [same]
    exact idle
  | elect v =>
    obtain ⟨u, same, -⟩ := s.cache.elect_cases (d.ask v) v
    simp only [step, moving]
    split
    · rw [same]
      exact Line.faithful_posted ⟨faithful, fed⟩ _ w
    · exact idle
  | find v =>
    simp only [step]
    split <;> exact idle
  | sit v =>
    simp only [step, moving]
    split
    · rw [FlightTable.posted_singleton]
      exact Line.faithful_posted ⟨faithful, fed⟩ _ w
    · exact idle
  | fetch i e =>
    simp only [step, moving]
    split
    · exact Visit.faithful_step (s := Voyage.visit s.cache s.lines _) faithful fed _
    · exact idle
  | execute v =>
    refine unposted (Line.faithful_update ⟨faithful, fed⟩ ⟨?_, Line.fed_execute.trans fed⟩ v)
    exact Line.faithful_execute faithful
  | listen v =>
    refine unposted (Line.faithful_update ⟨faithful, fed⟩ ⟨?_, Line.fed_read.trans fed⟩ v)
    exact Line.faithful_read faithful
  | purge _ | strike _ => exact idle

def start (store : Store) : Traffic ω where
  cache := { store }

theorem flights_after (d : Crowd ω) (store : Store) (es : List (Event ω)) :
    (after d (start store) es).cache.flights = .after {} (moves d (start store) es) :=
  Course.after_image (f := fun s : Traffic ω => s.cache.flights) (flights_step d) (start store) es

theorem faithful_after (store : Store) (es : List (Event ω))
    (once : ((FlightTable.seatings {} (moves d (start store) es)).map Prod.snd).count w ≤ 1) :
    ((after d (start store) es).lines w).Faithful
        (Postings.deliveriesFor w (FlightTable.posted {} (moves d (start store) es))) ∧
      ((after d (start store) es).lines w).fed = true := by
  have first : ((start store).lines w).Faithful (Postings.deliveriesFor w (FlightTable.posted {} [])) ∧
      ((start store).lines w).fed = true := ⟨Line.faithful_new, rfl⟩
  exact Line.faithful_course (f := fun s : Traffic ω => s.cache.flights) (l := fun s => s.lines w)
    (flights_step d) (fun _ e _ faithful fed => faithful_step faithful fed e) rfl first es once

end Traffic
end CachingProxy
