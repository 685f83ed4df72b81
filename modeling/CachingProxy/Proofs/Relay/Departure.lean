import CachingProxy.Proofs.Relay.Audience

namespace CachingProxy

namespace Relay

variable {r r' : Relay} {c : Client}

/-- A relay and a client that has read everything so far. -/
structure Met (r : Relay) (c : Client) : Prop where
  heard : r.client.heard = true
  quiet : r.client.waiting = []
  room : 0 < r.client.room
  fed : r.client.fed = false → r.stage = .abandoning ∨ r.stage = .finished
  head : r.head = .awaited ↔ r.stage = .fetching ∨ ∃ f, r.stage = .refusing f
  answer : c.answer = none ↔ r.head = .awaited
  ended : c.ended = true → r.stage.hasTold = true
  closes : r.stage = .abandoning ∨ r.stage = .finished → c.ended = true

theorem Met.unended (met : r.Met c) (telling : r.stage.hasTold = false) : c.ended = false := by
  by_contra ended
  rw [met.ended (by simpa using ended)] at telling
  cases telling

theorem Met.open (met : r.Met c) (telling : r.stage.hasTold = false) : r.client.fed = true := by
  by_contra closed
  obtain stage | stage := met.fed (by simpa using closed) <;> simp [stage, Stage.hasTold] at telling

theorem Met.exists_answer (met : r.Met c) (given : r.head ≠ .awaited) : ∃ a, c.answer = some a :=
  Option.ne_none_iff_exists'.mp fun nothing => given (met.answer.mp nothing)

theorem Met.still {u : Relay} (met : r.Met c) (telling : r.stage.hasTold = false)
    (given : r.head ≠ .awaited) (client : u.client = r.client) (head : u.head = r.head)
    (going : u.stage = .failing ∨ u.stage.hasTold = false)
    (begun : u.stage ≠ .fetching ∧ ∀ f, u.stage ≠ .refusing f) :
    (u.read c).1.Met (u.read c).2 := by
  have unended := met.unended telling
  have fed := met.open telling
  obtain ⟨a, answer⟩ := met.exists_answer given
  have same : u.read c = (u, c) := by
    simp [read, unended, answer, Channel.read, client, met.quiet, fed, Arrival.next]
  rw [same]
  refine ⟨client ▸ met.heard, client ▸ met.quiet, client ▸ met.room, ?_, ?_, head ▸ met.answer, ?_, ?_⟩
  · simp [client, fed]
  · simp [head, given, begun]
  · simp [unended]
  · intro through
    have through : u.stage = .abandoning ∨ u.stage = .finished := through
    rcases through with stage | stage <;> simp [stage, Stage.hasTold] at going

/-- A client that looks again after each step of the task has read everything at any time. -/
theorem met_turn (met : r.Met c) (turn : r.Turn r') : (r'.read c).1.Met (r'.read c).2 := by
  obtain ⟨heard, quiet, room, fed, head, answer, ended, closes⟩ := id met
  have given (stage : r.stage ≠ .fetching ∧ ∀ f, r.stage ≠ .refusing f) : r.head ≠ .awaited := by
    simpa [stage] using head.not.mpr
  have sent (a : Except String Bytes) : (r.client.send a).1 = { r.client with waiting := [a] } := by
    simp [Channel.send, heard, quiet, room.ne']
  cases turn with
  | opened h stage | stored h stage | landed stage | took h b rest stage next
  | broke h f rest stage next | ended h rest stage next | panicked h rest stage next =>
    exact met.still (by simp [stage, Stage.hasTold]) (given (by simp [stage])) rfl rfl
      (by simp [Stage.hasTold]) (by simp)
  | answered h stage known =>
    have unended := met.unended (by simp [stage, Stage.hasTold])
    have fed := met.open (by simp [stage, Stage.hasTold])
    have unanswered := answer.mpr (head.mpr (.inl stage))
    simp only [read, unended, unanswered]
    refine ⟨heard, quiet, room, ?_, ?_, ?_, ?_, ?_⟩ <;> simp [fed]
  | refused f stage known =>
    have unended := met.unended (by simp [stage, Stage.hasTold])
    have fed := met.open (by simp [stage, Stage.hasTold])
    have awaited := head.mpr (.inl stage)
    have unanswered := answer.mpr awaited
    simp only [read, unended, unanswered, awaited]
    refine ⟨heard, quiet, room, ?_, ?_, ?_, ?_, ?_⟩ <;> simp [fed, unended, unanswered]
  | died stage known =>
    have unended := met.unended (by simp [stage, Stage.hasTold])
    have unanswered := answer.mpr (head.mpr (.inl stage))
    simp only [read, unended, unanswered]
    refine ⟨heard, quiet, room, ?_, ?_, ?_, ?_, ?_⟩ <;> simp [Stage.hasTold]
  | offered h b stage room' =>
    have unended := met.unended (by simp [stage, Stage.hasTold])
    have fed := met.open (by simp [stage, Stage.hasTold])
    have given := given (by simp [stage])
    obtain ⟨a, answered⟩ := met.exists_answer given
    simp only [read, unended, answered, sent, Channel.read, Arrival.next]
    refine ⟨heard, rfl, room, ?_, ?_, ?_, ?_, ?_⟩ <;> simp [fed, given]
  | reported detail stage room' =>
    have unended := met.unended (by simp [stage, Stage.hasTold])
    have fed := met.open (by simp [stage, Stage.hasTold])
    have given := given (by simp [stage])
    obtain ⟨a, answered⟩ := met.exists_answer given
    simp only [read, unended, answered, sent, Channel.read, Arrival.next]
    refine ⟨heard, rfl, room, ?_, ?_, ?_, ?_, ?_⟩ <;> simp [fed, given, Stage.hasTold]
  | left stage =>
    have unended := met.unended (by simp [stage, Stage.hasTold])
    have given := given (by simp [stage])
    obtain ⟨a, answered⟩ := met.exists_answer given
    simp only [read, unended, answered, Channel.hangUp, Channel.read, quiet, Arrival.next]
    refine ⟨heard, rfl, room, ?_, ?_, ?_, ?_, ?_⟩ <;> simp [given, Stage.hasTold]
  | failed stage =>
    have given := given (by simp [stage])
    obtain ⟨a, answered⟩ := met.exists_answer given
    -- After an error the client has stopped looking; after a panic it finds the channel closed.
    cases stopped : c.ended with
    | false =>
      simp only [read, stopped, answered, Channel.hangUp, Channel.read, quiet, Arrival.next]
      refine ⟨heard, rfl, room, ?_, ?_, ?_, ?_, ?_⟩ <;> simp [given, Stage.hasTold]
    | true =>
      simp only [read, stopped]
      refine ⟨heard, quiet, room, ?_, ?_, ?_, ?_, ?_⟩ <;>
        simp [given, answered, stopped, Stage.hasTold]
  | abandoned stage =>
    have given := given (by simp [stage])
    obtain ⟨a, answered⟩ := met.exists_answer given
    have stopped := closes (.inl stage)
    simp only [read, stopped]
    refine ⟨heard, quiet, room, ?_, ?_, ?_, ?_, ?_⟩ <;>
      simp [given, answered, stopped, Stage.hasTold]
  | told f stage =>
    have unended := met.unended (by simp [stage, Stage.hasTold])
    have unanswered := answer.mpr (head.mpr (.inr ⟨f, stage⟩))
    simp only [read, unended, unanswered]
    refine ⟨heard, quiet, room, ?_, ?_, ?_, ?_, ?_⟩ <;> simp [Stage.hasTold]

theorem heard_read (r : Relay) (c : Client) : (r.read c).1.client.heard = r.client.heard := by
  obtain same | same := r.read_cases c <;> rw [same]
  rfl

theorem Met.isSome_next? (met : r.Met c) (becomes : r.apart.next?.isSome = true) :
    r.next?.isSome = true := by
  obtain ⟨heard, quiet, room, -⟩ := met
  cases stage : r.stage with
  | fetching =>
    simp only [next?, apart, stage] at becomes ⊢
    cases fetched : r.fetched with
    | none => simp [fetched] at becomes
    | some x => cases x <;> rfl
  | pumping h =>
    simp only [next?, apart, stage] at becomes ⊢
    cases feed : r.feed with
    | nil => simp [feed] at becomes
    | cons x rest => cases x <;> rfl
  | offering h b | reporting detail =>
    simp [next?, stage, Channel.send, heard, quiet, room.ne']
  | finished => simp [next?, apart, stage] at becomes
  | opening _ | storing _ | landing | leaving | failing | abandoning | refusing _ =>
    simp [next?, stage]

end Relay

namespace Audience

variable {ω : Type} [DecidableEq ω] {away : ω → Bool} {s t : Audience ω} {e : Event ω}
  {es : List (Event ω)}

/-- The events with a look of the relay's client after each step of the task. -/
def attend (es : List (Event ω)) : List (Event ω) :=
  es.flatMap fun
    | .exchange .advance => [.exchange .advance, .exchange .read]
    | e => [e]

/-- An audience that nobody has left, and whose client has read everything so far. -/
structure Attended (s : Audience ω) : Prop where
  met : s.relay.Met s.client
  present : ∀ w, s.gone w = false

theorem attended_step (attended : s.Attended) (stays : e ≠ .leave ∧ ∀ w, e ≠ .depart w)
    (other : e ≠ .exchange .advance ∧ e ≠ .exchange .read) : (s.step e).Attended := by
  obtain ⟨met, present⟩ := id attended
  cases e using Event.cases with
  | answer =>
    simp only [step]
    split
    · exact attended
    · exact ⟨⟨met.heard, met.quiet, met.room, met.fed, met.head, met.answer, met.ended, met.closes⟩,
        present⟩
  | send =>
    simp only [step, Visit.step, Exchange.step]
    split
    · exact attended
    · exact ⟨⟨met.heard, met.quiet, met.room, met.fed, met.head, met.answer, met.ended, met.closes⟩,
        present⟩
  | advance | read | leave => simp at other stays
  | depart w => exact absurd rfl (stays.2 w)
  | flights _ | store _ => exact ⟨met, present⟩
  | execute _ | listen _ =>
    simp only [step]
    split <;> exact ⟨met, present⟩

theorem attended_advance (attended : s.Attended) (becomes : s.relay.next?.isSome = true) :
    ((s.step (.exchange .advance)).step (.exchange .read)).Attended := by
  obtain ⟨relay, becomes⟩ := Option.isSome_iff_exists.mp becomes
  have turn := Relay.turn_of_next? becomes
  have met := Relay.met_turn attended.met turn
  have heard : relay.client.heard = true := (relay.heard_read s.client).symm.trans met.heard
  rw [step_advance, becomes]
  simp only [step, Visit.step, Exchange.step, heard, if_true]
  exact ⟨met, attended.present⟩

theorem attend_step (attended : t.Attended) (same : lasting away t = lasting away s) (e : Event ω) :
    t.trace away (attend (tracing away s e)) = tracing away s e ∧
      (t.after (attend (tracing away s e))).Attended := by
  have alone {e : Event ω} (stays : e ≠ .leave ∧ ∀ w, e ≠ .depart w)
      (other : e ≠ .exchange .advance ∧ e ≠ .exchange .read)
      (traced : ∀ u : Audience ω, u.tracing away e = [e]) :
      t.trace away (attend [e]) = [e] ∧ (t.after (attend [e])).Attended := by
    have same : attend [e] = [e] := by cases e using Event.cases <;> simp [attend] at other ⊢
    rw [same]
    exact ⟨by simp [trace, traced], attended_step attended stays other⟩
  cases e using Event.cases with
  | answer | send | flights _ | store _ => exact alone (by simp) (by simp) fun _ => rfl
  | read | leave | depart _ => exact ⟨rfl, attended⟩
  | execute w | listen w =>
    cases leaves : away w with
    | true => simpa [tracing, leaves, attend, trace, after] using attended
    | false =>
      simp only [tracing, leaves, Bool.false_eq_true, if_false]
      exact alone (by simp) (by simp) fun _ => by simp [tracing, leaves]
  | advance =>
    cases becomes : s.relay.next? with
    | none => simpa [tracing, becomes, attend, trace, after] using attended
    | some relay =>
      obtain ⟨relay', becomes', -⟩ := Relay.next?_apart becomes
      have apart : t.relay.apart = s.relay.apart := congrArg (fun u => u.relay) same
      have ready : t.relay.next?.isSome = true :=
        attended.met.isSome_next? (by rw [apart, becomes']; rfl)
      simp only [tracing, becomes, Option.isSome_some, if_true]
      refine ⟨?_, attended_advance attended ready⟩
      simp [attend, trace, tracing, ready]

omit [DecidableEq ω] in
theorem stays_of_mem_tracing {x : Event ω} (mem : x ∈ s.tracing away e) :
    x ≠ .leave ∧ ∀ w, x ≠ .depart w := by
  cases e using Event.cases with
  | read | leave | depart _ => cases mem
  | answer | send | flights _ | store _ =>
    obtain rfl : x = _ := List.mem_singleton.mp mem
    simp
  | advance =>
    simp only [tracing] at mem
    split at mem
    · obtain rfl : x = _ := List.mem_singleton.mp mem
      simp
    · cases mem
  | execute w | listen w =>
    simp only [tracing] at mem
    split at mem
    · cases mem
    · obtain rfl : x = _ := List.mem_singleton.mp mem
      simp

theorem stays_of_mem_trace {x : Event ω} (mem : x ∈ s.trace away es) :
    x ≠ .leave ∧ ∀ w, x ≠ .depart w := by
  induction es generalizing s with
  | nil => cases mem
  | cons e es ih =>
    rcases List.mem_append.mp mem with first | rest
    · exact stays_of_mem_tracing first
    · exact ih rest

omit [DecidableEq ω] in
theorem stays_of_mem_attend {x : Event ω} (mem : x ∈ attend es)
    (stay : ∀ e ∈ es, e ≠ .leave ∧ ∀ w, e ≠ .depart w) : x ≠ .leave ∧ ∀ w, x ≠ .depart w := by
  obtain ⟨e, there, mem⟩ := List.mem_flatMap.mp mem
  have stays := stay e there
  split at mem
  · have either : x = .exchange .advance ∨ x = .exchange .read := by simpa using mem
    rcases either with rfl | rfl <;> simp
  · obtain rfl : x = e := by simpa using mem
    exact stays

omit [DecidableEq ω] in
theorem attend_append (es es' : List (Event ω)) : attend (es ++ es') = attend es ++ attend es' :=
  List.flatMap_append

/-- Beside every run there is one with the same trace that the relay's client attends. -/
theorem attend_after (within : s.Within away) (only : ∀ w, .depart w ∈ es → away w = true)
    (attended : t.Attended) (same : lasting away t = lasting away s) :
    t.trace away (attend (s.trace away es)) = s.trace away es ∧
      (t.after (attend (s.trace away es))).Attended := by
  induction es generalizing s t with
  | nil => exact ⟨rfl, attended⟩
  | cons e es ih =>
    obtain ⟨traced, attended'⟩ := attend_step attended same e
    have first : ∀ w, e = .depart w → away w = true := fun w same =>
      only w (same ▸ List.mem_cons_self)
    have within' : t.Within away := fun w gone => by simp [attended.present w] at gone
    have stay : ∀ w, .depart w ∉ attend (s.tracing away e) := fun w mem =>
      (stays_of_mem_attend mem fun _ => stays_of_mem_tracing).2 w rfl
    have lasts := (lasting_after within' fun w mem => absurd mem (stay w)).1
    rw [traced, same, ← lasting_step within first] at lasts
    obtain ⟨rest, attended'⟩ := ih (within_step within first)
      (fun w mem => only w (List.mem_cons_of_mem _ mem)) attended' lasts
    have split : s.trace away (e :: es) = s.tracing away e ++ (s.step e).trace away es := rfl
    rw [split, attend_append]
    refine ⟨?_, ?_⟩
    · rw [trace, Course.noted_append]
      exact congrArg₂ (· ++ ·) traced rest
    · rw [after, Course.after_append]
      exact attended'

omit [DecidableEq ω] in
theorem attended_start (cache : Cache ω) (lines : ω → Line) (host path : String)
    (lead : Option FlightId) (outcome : Fetched) (sent : List Fed) :
    (start cache lines host path lead outcome sent).Attended :=
  have room : 0 < clientRoom := by decide
  ⟨⟨rfl, rfl, room, nofun, by simp [start], by simp [start], nofun, by simp [start]⟩, fun _ => rfl⟩

/-- For every cache, every relay with or without a flight, everything that can become of its request
and that its origin can send, whatever else happens in any order, and any followers who may go away: a
run in which these followers and the relay's client leave at any time, and any other run in which the
rest does the same things in the same order, come to the same cache with the same table of flights,
have posted the same, and have the relay at the same stage and the followers who stay at the same
point. One of these runs is that in which nobody leaves and the relay's client looks again after each
step of the task; once the relay is through, that client has read everything to the end. -/
theorem departures_unfelt (cache : Cache ω) (lines : ω → Line) (host path : String)
    (lead : Option FlightId) (outcome : Fetched) (sent : List Fed) (away : ω → Bool)
    (es : List (Event ω)) (only : ∀ w, .depart w ∈ es → away w = true) :
    let x := start cache lines host path lead outcome sent
    let s := x.after es
    let full := attend (x.trace away es)
    (∀ es', x.trace away es' = x.trace away es → (∀ w, .depart w ∈ es' → away w = true) →
      (x.after es').cache = s.cache ∧ x.posted es' = x.posted es ∧
        (x.after es').relay.stage = s.relay.stage ∧
        ∀ w, away w = false → (x.after es').lines w = s.lines w) ∧
    (.leave ∉ full ∧ ∀ w, .depart w ∉ full) ∧
    x.trace away full = x.trace away es ∧
    (s.relay.stage = .finished →
      (x.after full).client.ended = true ∧ (x.after full).relay.client.waiting = []) := by
  intro x s full
  have within : x.Within away := nofun
  obtain ⟨traced, attended⟩ : x.trace away full = x.trace away es ∧ (x.after full).Attended :=
    attend_after within only (attended_start cache lines host path lead outcome sent) rfl
  have stay {e : Event ω} (mem : e ∈ full) : e ≠ .leave ∧ ∀ w, e ≠ .depart w :=
    stays_of_mem_attend mem fun _ => stays_of_mem_trace
  have alike (es' : List (Event ω)) (same : x.trace away es' = x.trace away es)
      (only' : ∀ w, .depart w ∈ es' → away w = true) :
      lasting away (x.after es') = lasting away s ∧ x.posted es' = x.posted es := by
    obtain ⟨lasts, moved⟩ := lasting_after within only
    obtain ⟨lasts', moved'⟩ := lasting_after within only'
    rw [same] at lasts' moved'
    exact ⟨lasts'.trans lasts.symm, congrArg x.cache.flights.posted (moved'.trans moved.symm)⟩
  refine ⟨fun es' same only' => ?_, ⟨fun mem => (stay mem).1 rfl, fun w mem => (stay mem).2 w rfl⟩,
    traced, fun through => ⟨attended.met.closes (.inr ?_), attended.met.quiet⟩⟩
  · obtain ⟨lasts, posts⟩ := alike es' same only'
    refine ⟨congrArg (fun u => u.cache) lasts, posts, congrArg (fun u => u.relay.stage) lasts,
      fun w stays => ?_⟩
    have line := congrFun (congrArg (fun u => u.lines) lasts) w
    simpa [lasting, spared, stays] using line
  · obtain ⟨lasts, -⟩ := alike full traced fun w mem => absurd rfl ((stay mem).2 w)
    exact (congrArg (fun u => u.relay.stage) lasts).trans through

/-- The client leaves before the head has come, and one of two followers after the first chunk. -/
theorem departures_unfelt_midway :
    let flights : FlightTable Nat := .after {} [.elect "h/p" 0, .elect "h/p" 1, .elect "h/p" 2]
    let es : List (Event Nat) := [.leave, .answer] ++ List.replicate 3 (.exchange .send) ++
      List.replicate 4 (.exchange .advance) ++ [.exchange (.execute 1), .depart 1,
        .exchange (.execute 2)] ++ List.replicate 4 (.exchange .advance) ++ [.exchange (.execute 1)] ++
      List.replicate 2 (.exchange .advance) ++ List.replicate 2 (.exchange (.execute 2))
    let x := start { store := .empty 1, flights } (fun _ => {}) "h" "/p"
      (some 0) (.answered ⟨.ok, []⟩) [.chunk [1], .chunk [2], .ended]
    let full := attend (x.trace (fun w => w = 1) es)
    (∀ w, .depart w ∈ es → decide (w = 1) = true) ∧ (x.after full).cache = (x.after es).cache ∧
      x.posted full = x.posted es ∧ (x.after full).lines 2 = (x.after es).lines 2 ∧
      (x.after full).client.body = [1, 2] := by
  intro flights es
  have only : ∀ w, .depart w ∈ es → decide (w = 1) = true := by
    intro w mem
    simpa [es] using mem
  obtain ⟨alike, ⟨-, stay⟩, traced, -⟩ := departures_unfelt
    { store := .empty 1, flights } (fun _ => {}) "h" "/p" (some 0)
    (.answered ⟨.ok, []⟩) [.chunk [1], .chunk [2], .ended] (fun w => w = 1) es only
  obtain ⟨cache, posted, -, lines⟩ := alike _ traced fun w mem => absurd mem (stay w)
  exact ⟨only, cache, posted, lines 2 rfl, by decide +kernel⟩

end Audience
end CachingProxy
