import CachingProxy.Proofs.Relay.Visit

namespace CachingProxy

/-- The relay as if its client had gone away at once. -/
def Relay.apart (r : Relay) : Relay := { r with client := { room := clientRoom, heard := false } }

namespace Relay

@[simp] theorem apart_apart (r : Relay) : r.apart.apart = r.apart := rfl

theorem next?_apart {r r' : Relay} (becomes : r.next? = some r') :
    ∃ u, r.apart.next? = some u ∧ u.apart = r'.apart := by
  apply Option.map_eq_some_iff.mp
  cases turn_of_next? becomes with
  | answered h stage known => simp [next?, apart, stage, known]
  | refused f stage known => simp [next?, apart, stage, known]
  | died stage known => simp [next?, apart, stage, known]
  | took h b rest stage next => simp [next?, apart, stage, next]
  | broke h f rest stage next => simp [next?, apart, stage, next]
  | ended h rest stage next => simp [next?, apart, stage, next]
  | panicked h rest stage next => simp [next?, apart, stage, next]
  | offered h b stage room => simp [next?, apart, stage, Channel.send]
  | reported detail stage room => simp [next?, apart, stage, Channel.send]
  | opened h stage | stored h stage | landed stage | left stage | failed stage | abandoned stage
  | told f stage => simp [next?, apart, stage]

end Relay

/-- A relay from the request to its end before an audience that may leave: the client that asked and the
followers of its flight. -/
structure Audience (ω : Type) extends Exchange ω where
  /-- What becomes of the request, until the relay knows it. -/
  pending : Option Fetched
  /-- Whether a follower has gone away. -/
  gone : ω → Bool := fun _ => false

namespace Audience

variable {ω : Type}

inductive Event (ω : Type)
  /-- The relay gets to know what became of the request. -/
  | answer
  | visit (e : Visit.Event ω)
  /-- A follower goes away. -/
  | depart (w : ω)

namespace Event

@[match_pattern] abbrev exchange (e : Exchange.Event ω) : Event ω := .visit (.exchange e)

@[match_pattern] abbrev leave : Event ω := .visit .leave

@[elab_as_elim]
theorem cases {motive : Event ω → Prop} (answer : motive .answer) (send : motive (.exchange .send))
    (advance : motive (.exchange .advance)) (read : motive (.exchange .read)) (leave : motive .leave)
    (flights : ∀ m, motive (.exchange (.flights m))) (store : ∀ o, motive (.exchange (.store o)))
    (execute : ∀ w, motive (.exchange (.execute w))) (listen : ∀ w, motive (.exchange (.listen w)))
    (depart : ∀ w, motive (.depart w)) (e : Event ω) : motive e :=
  match e with
  | .answer => answer
  | .exchange .send => send
  | .exchange .advance => advance
  | .exchange .read => read
  | .leave => leave
  | .exchange (.flights m) => flights m
  | .exchange (.store o) => store o
  | .exchange (.execute w) => execute w
  | .exchange (.listen w) => listen w
  | .depart w => depart w

end Event

variable [DecidableEq ω]

def drop (s : Audience ω) (w : ω) : Audience ω :=
  { s with lines := Function.update s.lines w { s.lines w with inbox := [] } }

/-- Who has gone reads nothing, and what its loop hands over is lost. -/
def step (s : Audience ω) : Event ω → Audience ω
  | .answer =>
    match s.pending with
    | none => s
    | some x => { s with relay := { s.relay with fetched := some x }, pending := none }
  | .exchange (.execute w) =>
    let s := { s with toExchange := s.toExchange.step (.execute w) }
    if s.gone w then s.drop w else s
  | .exchange (.listen w) =>
    if s.gone w then s else { s with toExchange := s.toExchange.step (.listen w) }
  | .visit e => { s with toExchange := Visit.step s.toExchange e }
  | .depart w => { s.drop w with gone := Function.update s.gone w true }

def after (s : Audience ω) (es : List (Event ω)) : Audience ω := Course.after step s es

/-- A relay that has just sent its request, with what will become of it and what the origin will send. -/
def start (cache : Cache ω) (lines : ω → Line) (host path : String) (lead : Option FlightId)
    (outcome : Fetched) (sent : List Fed) : Audience ω where
  cache := cache
  relay := { host, path, lead }
  pending := some outcome
  upcoming := sent
  lines := lines

def moving (s : Audience ω) : Event ω → List (FlightTable.Move ω)
  | .visit e => Visit.moving s.toExchange e
  | _ => []

def moves (s : Audience ω) (es : List (Event ω)) : List (FlightTable.Move ω) :=
  Course.noted step moving s es

/-- What is posted for the followers, in order. -/
def posted (s : Audience ω) (es : List (Event ω)) : Postings ω := s.cache.flights.posted (s.moves es)

variable (away : ω → Bool)

/-- What an event adds to the trace of a run if one looks away from these followers and from the
relay's client. A task that has to wait leaves no trace. -/
def tracing (s : Audience ω) : Event ω → List (Event ω)
  | .exchange .advance => if s.relay.next?.isSome then [.exchange .advance] else []
  | .exchange .read | .leave | .depart _ => []
  | .exchange (.execute w) => if away w then [] else [.exchange (.execute w)]
  | .exchange (.listen w) => if away w then [] else [.exchange (.listen w)]
  | e => [e]

/-- What everybody does but the relay's client and these followers, in order. -/
def trace (s : Audience ω) (es : List (Event ω)) : List (Event ω) :=
  Course.noted step (tracing away) s es

def spared (lines : ω → Line) : ω → Line := fun w => if away w then {} else lines w

/-- What lasts of an audience if one looks away from these followers and from the relay's client. -/
def lasting (s : Audience ω) : Audience ω where
  cache := s.cache
  relay := s.relay.apart
  pending := s.pending
  upcoming := s.upcoming
  lines := spared away s.lines

def Within (s : Audience ω) : Prop := ∀ w, s.gone w = true → away w = true

variable {away} {s : Audience ω} {e : Event ω} {es : List (Event ω)}

theorem after_concat : s.after (es ++ [e]) = (s.after es).step e :=
  Course.after_append step s es [e]

theorem flights_step : (s.step e).cache.flights = s.cache.flights.after (s.moving e) := by
  cases e using Event.cases with
  | answer =>
    simp only [step, moving]
    split <;> rfl
  | execute _ | listen _ =>
    simp only [step, moving]
    split <;> rfl
  | depart _ => rfl
  | send | advance | read | leave | flights _ | store _ =>
    exact Visit.flights_step (s := s.toExchange)

theorem flights_after (es : List (Event ω)) :
    (s.after es).cache.flights = s.cache.flights.after (s.moves es) :=
  Course.after_image (f := fun s : Audience ω => s.cache.flights) (fun _ _ => flights_step) s es

theorem step_advance (s : Audience ω) :
    step s (.exchange .advance) =
      match s.relay.next? with
      | none => s
      | some relay =>
        let cache : Cache ω :=
          { store := s.cache.store.after (s.relay.ops s.cache)
            flights := s.cache.flights.after s.relay.moves }
        let posted := s.cache.flights.posted s.relay.moves
        { s with cache, relay, lines := fun w => (s.lines w).post (posted.tasksFor w) } := by
  simp only [step, Visit.step_advance]
  cases s.relay.next? <;> rfl

omit [DecidableEq ω] in
theorem moving_advance (s : Audience ω) :
    s.moving (.exchange .advance) = if s.relay.next?.isSome then s.relay.moves else [] := by
  simp only [moving, Visit.moving, Exchange.moving, Relay.step_eq]
  cases s.relay.next? <;> rfl

theorem within_step (within : s.Within away) (only : ∀ w, e = .depart w → away w = true) :
    (s.step e).Within away := by
  cases e using Event.cases with
  | answer | listen _ =>
    simp only [step]
    split <;> exact within
  | execute w =>
    simp only [step]
    split <;> exact within
  | send | advance | read | leave | flights _ | store _ => exact within
  | depart v =>
    intro w there
    by_cases here : w = v
    · exact here ▸ only v rfl
    · exact within w (by simpa [step, drop, Function.update_of_ne here] using there)

section lines

variable {lines : ω → Line} {w : ω}

omit [DecidableEq ω] in
@[simp] theorem spared_spared : spared away (spared away lines) = spared away lines := by
  funext w
  cases leaves : away w <;> simp [spared, leaves]

omit [DecidableEq ω] in
@[simp] theorem spared_post (ts : ω → List Task) :
    spared away (fun w => (spared away lines w).post (ts w)) =
      spared away fun w => (lines w).post (ts w) := by
  funext w
  cases leaves : away w <;> simp [spared, leaves]

theorem spared_update_away (leaves : away w = true) (l : Line) :
    spared away (Function.update lines w l) = spared away lines := by
  funext v
  by_cases here : v = w
  · subst here
    simp [spared, leaves]
  · simp [spared, here]

theorem spared_update (l : Line) :
    spared away (Function.update (spared away lines) w l) =
      spared away (Function.update lines w l) := by
  funext v
  by_cases here : v = w
  · subst here
    simp [spared]
  · cases leaves : away v <;> simp [spared, here, leaves]

end lines

theorem lasting_advance :
    lasting away (s.step (.exchange .advance)) =
      if s.relay.next?.isSome then lasting away ((lasting away s).step (.exchange .advance))
      else lasting away s := by
  rw [step_advance, step_advance]
  cases becomes : s.relay.next? with
  | none => rfl
  | some relay =>
    obtain ⟨relay', becomes', same⟩ := Relay.next?_apart becomes
    have next : (lasting away s).relay.next? = some relay' := becomes'
    rw [next]
    simp only [lasting, Option.isSome_some, if_true, same, spared_post]
    rfl

/-- What lasts of an audience goes on with the trace alone. -/
theorem lasting_step (within : s.Within away) (only : ∀ w, e = .depart w → away w = true) :
    lasting away (s.step e) =
      Course.after (fun s e => lasting away (s.step e)) (lasting away s) (tracing away s e) := by
  cases e using Event.cases with
  | answer =>
    cases pending : s.pending <;> simp [tracing, step, lasting, Relay.apart, pending]
  | send =>
    cases upcoming : s.upcoming <;>
      simp [tracing, step, Visit.step, Exchange.step, lasting, Relay.apart, upcoming]
  | advance =>
    rw [lasting_advance, tracing]
    split <;> rfl
  | read =>
    obtain ⟨client, read⟩ := s.relay.exists_read s.client
    simp only [step, Visit.step, Exchange.step, tracing, Course.after_nil]
    split
    · simp [lasting, read, Relay.apart]
    · rfl
  | leave => rfl
  | flights m =>
    simp only [tracing, Course.after_cons, Course.after_nil, step, Visit.step, Exchange.step,
      Exchange.post, lasting, spared_post]
    rfl
  | store o =>
    simp only [tracing, Course.after_cons, Course.after_nil, step, Visit.step, Exchange.step, lasting,
      spared_spared]
    rfl
  | execute w =>
    cases leaves : away w with
    | true =>
      simp only [step, Exchange.step, tracing, leaves, if_true, Course.after_nil]
      split <;> simp [lasting, drop, spared_update_away leaves]
    | false =>
      have there : s.gone w = false := by
        by_contra gone
        simp [within w (by simpa using gone)] at leaves
      simp [step, Exchange.step, tracing, lasting, leaves, there, spared_update]
      simp [spared, leaves]
  | listen w =>
    cases leaves : away w with
    | true =>
      simp only [step, Exchange.step, tracing, leaves, if_true, Course.after_nil]
      split
      · rfl
      · simp [lasting, spared_update_away leaves]
    | false =>
      have there : s.gone w = false := by
        by_contra gone
        simp [within w (by simpa using gone)] at leaves
      simp [step, Exchange.step, tracing, lasting, leaves, there, spared_update]
      simp [spared, leaves]
  | depart w =>
    have leaves := only w rfl
    simp only [step, drop, tracing, lasting, spared_update_away leaves, Course.after_nil]

theorem moving_step :
    Course.noted (fun s e => lasting away (s.step e)) moving (lasting away s) (tracing away s e) =
      moving s e := by
  cases e using Event.cases with
  | advance =>
    rw [moving_advance, tracing]
    cases becomes : s.relay.next? with
    | none => rfl
    | some relay =>
      obtain ⟨relay', becomes', -⟩ := Relay.next?_apart becomes
      have next : (lasting away s).relay.next? = some relay' := becomes'
      simp only [Option.isSome_some, if_true, Course.noted_cons, Course.noted_nil, List.append_nil,
        moving_advance, next]
      rfl
  | execute w | listen w =>
    cases leaves : away w <;> simp [tracing, leaves, moving, Visit.moving, Exchange.moving]
  | answer | send | read | leave | flights _ | store _ | depart _ =>
    simp [tracing, moving, Visit.moving, Exchange.moving]

theorem lasting_after (within : s.Within away) (only : ∀ w, .depart w ∈ es → away w = true) :
    lasting away (s.after es) =
        Course.after (fun s e => lasting away (s.step e)) (lasting away s) (s.trace away es) ∧
      s.moves es = Course.noted (fun s e => lasting away (s.step e)) moving (lasting away s)
        (s.trace away es) := by
  induction es generalizing s with
  | nil => exact ⟨rfl, rfl⟩
  | cons e es ih =>
    have first : ∀ w, e = .depart w → away w = true := fun w same => only w (same ▸ List.mem_cons_self)
    obtain ⟨lasts, moved⟩ := ih (within_step within first) fun w mem =>
      only w (List.mem_cons_of_mem _ mem)
    rw [lasting_step within first] at lasts moved
    rw [moves, Course.noted_cons, trace, Course.noted_cons, Course.after_append, Course.noted_append,
      moving_step]
    exact ⟨lasts, congrArg _ moved⟩

end Audience
end CachingProxy
