import Mathlib.Logic.Function.Basic
import CachingProxy.Proofs.Flight.History
import CachingProxy.Proofs.Follower.Reading
import CachingProxy.Proofs.Relay.Moves

namespace CachingProxy

/-- The relay and its client once the client has asked for the head of its answer, or, if it has that,
for the next piece of the body. -/
def Relay.read (r : Relay) (c : Client) : Relay × Client :=
  if c.ended then (r, c)
  else match c.answer with
  | none =>
    match r.head with
    | .awaited => (r, c)
    | .given (.ok h) => (r, { c with answer := some (.ok (h.marked .miss)) })
    | .given (.error f) => (r, { c with answer := some (.error f), ended := true })
    | .abandoned =>
      (r, { c with
        answer := some (.error ⟨.internal, "Upstream relay stopped unexpectedly"⟩), ended := true })
  | some _ =>
    match r.client.read with
    | (client, .item (.ok b)) => ({ r with client }, { c with pieces := c.pieces ++ [.ok b] })
    | (client, .item (.error e)) =>
      ({ r with client }, { c with pieces := c.pieces ++ [.error e], ended := true })
    | (_, .pending) => (r, c)
    | (_, .closed) => (r, { c with ended := true })

namespace Line

variable {ω : Type} [DecidableEq ω] {lines : ω → Line} {w : ω} {l : Line} {ds : List Delivery}

theorem faithful_posted (kept : l.Faithful ds ∧ l.fed = true) (ps : Postings ω) (w : ω) :
    (l.post (ps.tasksFor w)).Faithful (ds ++ Postings.deliveriesFor w ps) ∧
      (l.post (ps.tasksFor w)).fed = true := by
  rw [← Postings.flatMap_tasksFor]
  exact ⟨faithful_post kept.1 _, (fed_post _).trans kept.2⟩

theorem faithful_update {f : Line → Line} (kept : (lines w).Faithful ds ∧ (lines w).fed = true)
    (own : (f (lines w)).Faithful ds ∧ (f (lines w)).fed = true) (v : ω) :
    (Function.update lines v (f (lines v)) w).Faithful ds ∧
      (Function.update lines v (f (lines v)) w).fed = true := by
  by_cases here : w = v
  · subst here
    rwa [Function.update_self]
  · rwa [Function.update_of_ne here]

end Line

/-- A follower's line along any course in which the line gets all that is posted for it. -/
theorem Line.faithful_course {σ ε ω : Type} [DecidableEq ω] {step : σ → ε → σ}
    {moving : σ → ε → List (FlightTable.Move ω)} {f : σ → FlightTable ω} {l : σ → Line} {w : ω}
    (moves : ∀ s e, f (step s e) = (f s).after (moving s e))
    (keeps : ∀ s e (t : Transcript), (l s).Faithful t.deliveries → (l s).fed = true →
      (l (step s e)).Faithful
          (t.deliveries ++ Postings.deliveriesFor w ((f s).posted (moving s e))) ∧
        (l (step s e)).fed = true)
    {s : σ} {prior : List (FlightTable.Move ω)} (begins : f s = .after {} prior)
    (first : (l s).Faithful (Postings.deliveriesFor w (FlightTable.posted {} prior)) ∧
      (l s).fed = true) (es : List ε)
    (once : ((FlightTable.seatings {} (prior ++ Course.noted step moving s es)).map
      Prod.snd).count w ≤ 1) :
    (l (Course.after step s es)).Faithful (Postings.deliveriesFor w
        (FlightTable.posted {} (prior ++ Course.noted step moving s es))) ∧
      (l (Course.after step s es)).fed = true := by
  induction es using List.reverseRecOn with
  | nil => exact (List.append_nil prior).symm ▸ first
  | append_singleton es e ih =>
    rw [Course.noted_concat, ← List.append_assoc] at once
    have before := FlightTable.once_of_append once
    obtain ⟨t, handed⟩ := FlightTable.exists_transcript before
    obtain ⟨faithful, fed⟩ := ih before
    rw [← handed] at faithful
    have flights : f (Course.after step s es) =
        .after {} (prior ++ Course.noted step moving s es) := by
      rw [FlightTable.after_append, ← begins]
      exact Course.after_image moves s es
    have kept := keeps _ e t faithful fed
    rw [flights, handed, ← Postings.deliveriesFor_append, ← FlightTable.posted_append,
      List.append_assoc, ← Course.noted_concat] at kept
    rw [Course.after_append]
    exact kept

/-- A relay with everybody who takes part in it: the origin, the client that it carries the answer to,
the followers with their lines, and others at work on the flights and on the store. -/
structure Exchange (ω : Type) where
  cache : Cache ω
  relay : Relay
  /-- What the origin has not sent yet. -/
  upcoming : List Fed
  client : Client := {}
  lines : ω → Line

namespace Exchange

variable {ω : Type}

inductive Event (ω : Type)
  | send
  /-- The relay's task does its next step, if it can. -/
  | advance
  | read
  /-- Somebody else does something to the flights. -/
  | flights (m : FlightTable.Move ω)
  /-- Somebody else does something to the store. -/
  | store (o : Store.Op)
  | execute (w : ω)
  /-- A follower's client looks for what comes next. -/
  | listen (w : ω)

variable [DecidableEq ω]

def post (s : Exchange ω) (ps : Postings ω) : Exchange ω :=
  { s with lines := fun w => (s.lines w).post (ps.tasksFor w) }

def step (s : Exchange ω) : Event ω → Exchange ω
  | .send =>
    match s.upcoming with
    | [] => s
    | x :: r => { s with relay := { s.relay with feed := s.relay.feed ++ [x] }, upcoming := r }
  | .advance =>
    match s.relay.step s.cache with
    | none => s
    | some (cache, relay, ps) => { s with cache, relay }.post ps
  | .read =>
    let (relay, client) := s.relay.read s.client
    { s with relay, client }
  | .flights m =>
    let (flights, ps) := s.cache.flights.perform m
    { s with cache := { s.cache with flights } }.post ps
  | .store o => { s with cache := { s.cache with store := s.cache.store.step o } }
  | .execute w => { s with lines := Function.update s.lines w (s.lines w).execute }
  | .listen w => { s with lines := Function.update s.lines w (s.lines w).read }

def after (s : Exchange ω) (es : List (Event ω)) : Exchange ω := Course.after step s es

def moving (s : Exchange ω) : Event ω → List (FlightTable.Move ω)
  | .advance =>
    match s.relay.step s.cache with
    | none => []
    | some _ => s.relay.moves
  | .flights m => [m]
  | _ => []

def moves (s : Exchange ω) (es : List (Event ω)) : List (FlightTable.Move ω) :=
  Course.noted step moving s es

variable {s : Exchange ω} {e : Event ω} {w : ω}

theorem flights_step : (s.step e).cache.flights = s.cache.flights.after (s.moving e) := by
  cases e with
  | send =>
    simp only [step, moving]
    split <;> rfl
  | advance =>
    cases stepped : s.relay.step s.cache with
    | none => simp [step, moving, stepped]
    | some x =>
      simp only [step, moving, stepped]
      exact (Relay.step_done stepped).1
  | read | flights _ | store _ | execute _ | listen _ => rfl

theorem faithful_step {t : Transcript} (faithful : (s.lines w).Faithful t.deliveries)
    (fed : (s.lines w).fed = true) (e : Event ω) :
    ((s.step e).lines w).Faithful
      (t.deliveries ++ Postings.deliveriesFor w (s.cache.flights.posted (s.moving e))) ∧
    ((s.step e).lines w).fed = true := by
  have unposted {l : Line} (kept : l.Faithful t.deliveries ∧ l.fed = true) :
      l.Faithful (t.deliveries ++ []) ∧ l.fed = true := by
    rwa [List.append_nil]
  have idle := unposted ⟨faithful, fed⟩
  cases e with
  | send =>
    simp only [step]
    split <;> exact idle
  | advance =>
    cases stepped : s.relay.step s.cache with
    | none =>
      simp only [step, moving, stepped]
      exact idle
    | some x =>
      simp only [step, moving, stepped]
      rw [← (Relay.step_done stepped).2.1]
      exact Line.faithful_posted ⟨faithful, fed⟩ _ w
  | flights m =>
    rw [moving, FlightTable.posted_singleton]
    exact Line.faithful_posted ⟨faithful, fed⟩ _ w
  | read | store _ => exact idle
  | execute v =>
    refine unposted (Line.faithful_update ⟨faithful, fed⟩ ⟨?_, Line.fed_execute.trans fed⟩ v)
    exact Line.faithful_execute faithful
  | listen v =>
    refine unposted (Line.faithful_update ⟨faithful, fed⟩ ⟨?_, Line.fed_read.trans fed⟩ v)
    exact Line.faithful_read faithful

/-- A relay and its origin that come to a table to which this was done before. -/
def start (prior : List (FlightTable.Move ω)) (store : Store) (relay : Relay)
    (upcoming : List Fed) : Exchange ω where
  cache := { store, flights := FlightTable.after {} prior }
  relay := relay
  upcoming := upcoming
  lines := fun w => Line.post {} ((FlightTable.posted {} prior).tasksFor w)

variable {prior : List (FlightTable.Move ω)} {store : Store} {relay : Relay} {upcoming : List Fed}
  {es : List (Event ω)}

theorem after_concat : s.after (es ++ [e]) = (s.after es).step e :=
  Course.after_append step s es [e]

theorem flights_after (es : List (Event ω)) :
    ((start prior store relay upcoming).after es).cache.flights =
      .after {} (prior ++ (start prior store relay upcoming).moves es) := by
  rw [FlightTable.after_append]
  exact Course.after_image (f := fun s : Exchange ω => s.cache.flights) (fun _ _ => flights_step) _ es

theorem faithful_start (prior : List (FlightTable.Move ω)) (store : Store) (relay : Relay)
    (upcoming : List Fed) (w : ω) :
    ((start prior store relay upcoming).lines w).Faithful
        (Postings.deliveriesFor w (FlightTable.posted {} prior)) ∧
      ((start prior store relay upcoming).lines w).fed = true := by
  refine ⟨?_, (Line.fed_post _).trans rfl⟩
  have posted := Line.faithful_post Line.faithful_new ((FlightTable.posted {} prior).tasksFor w)
  rwa [Postings.flatMap_tasksFor, List.nil_append] at posted

theorem faithful_after (es : List (Event ω))
    (once : ((FlightTable.seatings {} (prior ++ (start prior store relay upcoming).moves es)).map
      Prod.snd).count w ≤ 1) :
    (((start prior store relay upcoming).after es).lines w).Faithful
      (Postings.deliveriesFor w
        (FlightTable.posted {} (prior ++ (start prior store relay upcoming).moves es))) ∧
    (((start prior store relay upcoming).after es).lines w).fed = true :=
  Line.faithful_course (f := fun s : Exchange ω => s.cache.flights) (l := fun s => s.lines w)
    (fun _ _ => flights_step) (fun _ e _ faithful fed => faithful_step faithful fed e) rfl
    (faithful_start _ _ _ _ w) es once

end Exchange
end CachingProxy
