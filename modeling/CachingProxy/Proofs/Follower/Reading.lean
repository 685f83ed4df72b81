import Mathlib.Data.List.Induction
import CachingProxy.Proofs.Flight.Replay
import CachingProxy.Proofs.Follower.Line

namespace CachingProxy

variable {ω : Type} [DecidableEq ω]

def Postings.tasksFor (w : ω) (ps : Postings ω) : List Task :=
  (ps.filter fun p => p.1 = w).map Prod.snd

theorem Postings.flatMap_tasksFor (w : ω) (ps : Postings ω) :
    (tasksFor w ps).flatMap Task.deliveries = deliveriesFor w ps := by
  rw [tasksFor, deliveriesFor, List.flatMap_map]

/-- A flight, and the line to one of its followers. -/
structure Watch (ω : Type) where
  flight : Flight ω
  line : Line := {}

namespace Watch

inductive Event (ω : Type)
  | act (m : Flight.Move ω)
  | execute
  | lose
  | read

def step (w : ω) (s : Watch ω) : Event ω → Watch ω
  | .act m => ⟨s.flight.step m, s.line.post ((s.flight.perform m).2.tasksFor w)⟩
  | .execute => { s with line := s.line.execute }
  | .lose => { s with line := s.line.lose }
  | .read => { s with line := s.line.read }

def after (w : ω) (s : Watch ω) (es : List (Event ω)) : Watch ω := Course.after (step w) s es

def moves (es : List (Event ω)) : List (Flight.Move ω) :=
  es.filterMap fun
    | .act m => some m
    | _ => none

/-- What the client of a follower may conclude. -/
structure Truthful (w : ω) (s : Watch ω) : Prop where
  /-- An answer has the head of the flight, marked as a coalesced one. -/
  head : ∀ h, s.line.client.answer = some (.ok h) →
    ∃ g, s.flight.head = some g ∧ h = g.marked .coalesced
  /-- There is no answer only if the follower was reset, or its sender lost, before it had a head. -/
  refusal : ∀ e, s.line.client.answer = some (.error e) →
    e = ⟨.origin, "Coalesced upstream fetch failed"⟩ ∧ e.status = .badGateway ∧
      (∀ h last, .head h last ∉ s.line.handed) ∧
      (s.flight.phase = .aborted ∨ s.line.fed = false)
  /-- Once the client has stopped asking, it takes the answer for a complete one just if a delivery
  said that it was the last. -/
  complete_iff : s.line.client.ended = true →
    (s.line.client.isSatisfied ↔ ∃ d ∈ s.line.handed, d.isTerminal = true ∧ d ≠ .reset)
  /-- What it takes for a complete answer is the whole body of a flight that ended well. -/
  whole : s.line.client.isSatisfied →
    s.flight.phase = .closed ∧ s.line.client.body = s.flight.body
  part : s.line.client.body <+: s.flight.body
  /-- There is at most one error, at the end, and only after a reset or the loss of the sender. -/
  pieces : ∃ bs : List Bytes, s.line.client.pieces = bs.map .ok ∨
    s.line.client.pieces = bs.map .ok ++ [.error "coalesced upstream fetch aborted"] ∧
      s.line.client.ended = true ∧ (.reset ∈ s.line.handed ∨ s.line.fed = false)
  orderly : s.line.client.answer ≠
      some (.error ⟨.internal, "Coalesced body arrived before headers"⟩) ∧
    .error "duplicate coalesced headers" ∉ s.line.client.pieces
  /-- Once the last delivery was handed over, or the sender is lost, the client comes to an end. -/
  ends : (s.line.fed = false ∨ ∃ d ∈ s.line.handed, d.isTerminal = true) →
    ∀ n, s.line.inbox.length < n →
      (after w s (List.replicate n .read)).line.client.ended = true

variable {w : ω} {s : Watch ω} {t : Transcript}

theorem line_after_reads (n : Nat) :
    (after w s (List.replicate n .read)).line = Line.read^[n] s.line := by
  induction n generalizing s with
  | zero => rfl
  | succ n ih => exact ih

theorem truthful_of_bearsOut (bears : s.flight.BearsOut t) (faithful : s.line.Faithful t.deliveries) :
    s.Truthful w := by
  obtain ⟨u, v, x, handed, part, told, head, bytes, complete, reset⟩ := Line.exists_taken faithful
  have whole : u.deliveries <+: t.deliveries := part.trans (handed ▸ faithful.handed)
  refine ⟨?_, ?_, ?_, ?_, ?_, ?_, ?_, ?_⟩
  · intro h answer
    obtain ⟨g, named, marked⟩ := Transcript.client_answer_ok (told ▸ answer)
    exact ⟨g, bears.head g (Transcript.head_of_prefix whole (head ▸ named)), marked⟩
  · intro e answer
    obtain ⟨rfl, headless, broke⟩ := Transcript.client_answer_error (told ▸ answer)
    have same : u.deliveries = v.deliveries := by
      rcases reset broke with past | ⟨-, same⟩
      · exact Transcript.eq_of_prefix part (by simp [Transcript.isOver, past])
      · exact same
    refine ⟨rfl, rfl, fun h last mem => ?_, ?_⟩
    · have named : u.head? = some h :=
        (Transcript.head?_eq_some_iff u h).mpr ⟨last, by rwa [same, handed]⟩
      rw [← head, headless] at named
      cases named
    · exact (reset broke).imp (fun past => bears.reset (Transcript.isReset_of_prefix whole past))
        And.left
  · intro ended
    rw [told, Transcript.client_ended] at ended
    rw [told, Transcript.client_isSatisfied_iff, complete, ← handed, ← Transcript.isComplete_iff]
    refine ⟨Transcript.isComplete_of_prefix part, fun all => ?_⟩
    by_contra incomplete
    have broke : x.isReset = true := by
      simpa [Transcript.isOver, complete, incomplete] using ended
    -- Neither a reset before the end nor the loss of the sender leaves the last delivery untaken.
    rcases reset broke with past | ⟨-, same⟩
    · have contra := Transcript.isReset_of_prefix part past
      rw [Transcript.isReset_eq_false_of_isComplete all] at contra
      cases contra
    · exact incomplete (by rwa [Transcript.isComplete_iff, same, ← Transcript.isComplete_iff])
  · intro content
    rw [told, Transcript.client_isSatisfied_iff, complete] at content
    obtain ⟨closed, all⟩ := bears.complete (Transcript.isComplete_of_prefix whole content)
    have same := Transcript.eq_of_prefix whole (by simp [Transcript.isOver, content])
    exact ⟨closed, by rw [told, Transcript.client_body, bytes, Transcript.bytes_congr same, all]⟩
  · rw [told, Transcript.client_body, bytes]
    exact (Transcript.bytes_of_prefix whole).trans bears.bytes
  · obtain ⟨bs, all | ⟨cut, broke⟩⟩ := x.client_pieces
    · exact ⟨bs, .inl (told ▸ all)⟩
    · refine ⟨bs, .inr ⟨told ▸ cut, ?_, ?_⟩⟩
      · rw [told, Transcript.client_ended, Transcript.isOver, broke, Bool.or_true]
      · apply (reset broke).imp _ And.left
        intro past
        rw [← handed, ← Transcript.isReset_iff]
        exact Transcript.isReset_of_prefix part past
  · rw [told]
    exact x.client_orderly
  · intro last n enough
    rw [line_after_reads]
    exact Line.iterate_read_ended faithful last enough

omit [DecidableEq ω] in
theorem moves_append (ds es : List (Event ω)) : moves (ds ++ es) = moves ds ++ moves es :=
  List.filterMap_append

theorem faithful_after (key : String) {es : List (Event ω)}
    (once : (Flight.joiners (moves es)).count w ≤ 1) :
    (after w ⟨{ key }, {}⟩ es).flight = Flight.after { key } (moves es) ∧
      (after w ⟨{ key }, {}⟩ es).line.Faithful
        (Postings.deliveriesFor w (Flight.posted { key } (moves es))) := by
  induction es using List.reverseRecOn with
  | nil => exact ⟨rfl, Line.faithful_new⟩
  | append_singleton es e ih =>
    rw [moves_append, Flight.joiners_append, List.count_append] at once
    have before : (Flight.joiners (moves es)).count w ≤ 1 := by omega
    obtain ⟨flight, faithful⟩ := ih before
    obtain ⟨t, handed, -⟩ := Flight.exists_transcript key before
    have last : after w ⟨{ key }, {}⟩ (es ++ [e]) = step w (after w ⟨{ key }, {}⟩ es) e :=
      Course.after_append (step w) _ es [e]
    rw [last]
    cases e with
    | act m =>
      have done : moves (es ++ [.act m]) = moves es ++ [m] := by simp [moves]
      have line := Line.faithful_post faithful
        (((after w ⟨{ key }, {}⟩ es).flight.perform m).2.tasksFor w)
      rw [Postings.flatMap_tasksFor, flight, ← Postings.deliveriesFor_append] at line
      rw [done, Flight.after_append, Flight.posted_append]
      simp only [step, flight]
      exact ⟨rfl, by simpa using line⟩
    | execute =>
      have same : moves (es ++ [.execute]) = moves es := by simp [moves]
      rw [same]
      exact ⟨flight, Line.faithful_execute faithful⟩
    | lose =>
      have same : moves (es ++ [.lose]) = moves es := by simp [moves]
      rw [same]
      exact ⟨flight, Line.faithful_lose faithful⟩
    | read =>
      have same : moves (es ++ [.read]) = moves es := by simp [moves]
      rw [← handed] at faithful
      rw [same, ← handed]
      exact ⟨flight, Line.faithful_read faithful⟩

/-- For all that is done to a new flight, and for every way in which the tasks of a follower that
joins at most once are executed and its client reads, perhaps with the sender lost on the way: what
the client concludes is true. -/
theorem truthful_after (key : String) (w : ω) (es : List (Event ω))
    (once : (Flight.joiners (moves es)).count w ≤ 1) : (after w ⟨{ key }, {}⟩ es).Truthful w := by
  obtain ⟨flight, faithful⟩ := faithful_after key once
  obtain ⟨t, handed, known⟩ := Flight.exists_transcript key once
  rw [← handed] at faithful
  apply truthful_of_bearsOut (t := t) _ faithful
  rw [flight]
  rcases known with ⟨-, served⟩ | ⟨-, rfl⟩
  · exact served.bearsOut
  · exact Flight.bearsOut_nothing _

/-- A client that finds the head and a piece before the flight is aborted, and then the reset. -/
theorem truthful_after_abort :
    (Flight.joiners (moves [.act (.join 0), .act (.setHead ⟨.ok, []⟩), .act (.append [1]),
      .act (.flush false), .execute, .read, .act .abort, .read, .execute, .read, .read])).count 0 ≤ 1 ∧
    (after 0 ⟨{ key := "k" }, {}⟩ [.act (.join 0), .act (.setHead ⟨.ok, []⟩), .act (.append [1]),
      .act (.flush false), .execute, .read, .act .abort, .read, .execute, .read, .read]).Truthful 0 ∧
    (after 0 ⟨{ key := "k" }, {}⟩ [.act (.join 0), .act (.setHead ⟨.ok, []⟩), .act (.append [1]),
      .act (.flush false), .execute, .read, .act .abort, .read, .execute, .read,
      .read]).line.client.pieces = [.ok [1], .error "coalesced upstream fetch aborted"] := by
  have once : (Flight.joiners (moves [.act (.join 0), .act (.setHead ⟨.ok, []⟩), .act (.append [1]),
      .act (.flush false), .execute, .read, .act .abort, .read, .execute, .read, .read])).count 0 ≤ 1 := by
    decide
  exact ⟨once, truthful_after "k" 0 _ once, rfl⟩

end Watch
end CachingProxy
