import CachingProxy.Proofs.Relay.Underway

namespace CachingProxy

/-- How much a stage leaves to do at most, for the task and for the client, apart from what the origin
sends later. -/
def Stage.remaining : Stage → Nat
  | .fetching | .offering _ _ => 6
  | .opening _ => 5
  | .pumping _ | .reporting _ => 4
  | .storing _ => 3
  | .landing | .failing => 2
  | .leaving | .abandoning | .refusing _ => 1
  | .finished => 0

namespace Relay

variable {ω : Type} {c c' : Cache ω} {r r' : Relay} {ps : Postings ω}

def remaining (r : Relay) : Nat :=
  3 * r.feed.length + r.client.waiting.length + r.stage.remaining

theorem remaining_sent {a : Except String Bytes} {client : Channel (Except String Bytes)}
    {sending : Sending} (sent : r.client.send a = (client, sending)) :
    client.waiting.length ≤ r.client.waiting.length + 1 := by
  unfold Channel.send at sent
  split at sent
  · cases sent
    exact Nat.le_succ _
  · split at sent <;> cases sent <;> simp

theorem remaining_step (stepped : r.step c = some (c', r', ps)) : r'.remaining < r.remaining := by
  cases stage : r.stage with
  | fetching =>
    simp only [step, stage] at stepped
    split at stepped <;> cases stepped <;> simp [remaining, stage, Stage.remaining]
  | pumping h =>
    cases feed : r.feed with
    | nil => simp [step, stage, feed] at stepped
    | cons x feed' =>
      cases x
      all_goals
        simp only [step, stage, feed] at stepped
        cases stepped
        simp only [remaining, stage, feed, Stage.remaining, List.length_cons]
        omega
  | offering _ _ | reporting _ =>
    simp only [step, stage] at stepped
    split at stepped
    · cases stepped
    · rename_i sent
      cases stepped
      have room := remaining_sent sent
      simp only [remaining, stage, Stage.remaining]
      omega
  | finished => simp [step, stage] at stepped
  | opening _ | storing _ | landing | leaving | failing | abandoning | refusing _ =>
    simp only [step, stage] at stepped
    cases stepped
    simp [remaining, stage, Stage.remaining, Channel.hangUp]

theorem isSome_step (r : Relay) (c c' : Cache ω) : (r.step c).isSome = (r.step c').isSome := by
  unfold step
  split
  · split <;> rfl
  · rfl
  · split <;> rfl
  · split <;> rfl
  · split <;> rfl
  all_goals rfl

end Relay

namespace Exchange

variable {ω : Type}

def remaining (s : Exchange ω) : Nat :=
  4 * s.upcoming.length + s.relay.remaining +
    (if s.client.answer.isNone then 1 else 0) + (if s.client.ended then 0 else 1)

/-- That the origin, the task and the client have done nothing. -/
structure Unmoved (s s' : Exchange ω) : Prop where
  upcoming : s'.upcoming = s.upcoming
  relay : s'.relay = s.relay
  client : s'.client = s.client

variable {s s' s'' : Exchange ω} {e : Event ω} {es : List (Event ω)}

theorem Unmoved.refl (s : Exchange ω) : s.Unmoved s := ⟨rfl, rfl, rfl⟩

theorem Unmoved.trans (a : s.Unmoved s') (b : s'.Unmoved s'') : s.Unmoved s'' :=
  ⟨b.upcoming.trans a.upcoming, b.relay.trans a.relay, b.client.trans a.client⟩

theorem Unmoved.remaining_eq (same : s.Unmoved s') : s'.remaining = s.remaining := by
  simp only [remaining, same.upcoming, same.relay, same.client]

variable [DecidableEq ω]

theorem remaining_read : (s.step .read).remaining < s.remaining ∨ s.Unmoved (s.step .read) := by
  simp only [step, Relay.read]
  cases ended : s.client.ended with
  | true => exact .inr ⟨rfl, rfl, rfl⟩
  | false =>
    cases answer : s.client.answer with
    | none =>
      cases head : s.relay.head with
      | awaited => exact .inr ⟨rfl, rfl, rfl⟩
      | given g =>
        left
        cases g
        all_goals
          simp only [remaining, answer, ended, Option.isNone_none, Option.isNone_some, ↓reduceIte,
            Bool.false_eq_true]
          omega
      | abandoned =>
        left
        simp only [remaining, answer, ended, Option.isNone_none, Option.isNone_some, ↓reduceIte,
          Bool.false_eq_true]
        omega
    | some g =>
      cases waiting : s.relay.client.waiting with
      | cons p rest =>
        left
        cases p
        all_goals
          simp only [Channel.read, waiting, Arrival.next, remaining, Relay.remaining, answer, ended,
            Option.isNone_some, List.length_cons, ↓reduceIte, Bool.false_eq_true]
          omega
      | nil =>
        cases fed : s.relay.client.fed with
        | true => exact .inr (by simp [Channel.read, waiting, Arrival.next, fed, Unmoved.refl])
        | false => exact .inl (by simp [Channel.read, waiting, Arrival.next, fed, remaining, answer, ended])

theorem remaining_advance (able : (s.relay.step s.cache).isSome = true) :
    (s.step .advance).remaining < s.remaining := by
  obtain ⟨x, stepped⟩ := Option.isSome_iff_exists.mp able
  have less := Relay.remaining_step stepped
  simp only [step, stepped, post, remaining]
  omega

theorem remaining_step (e : Event ω) :
    (s.step e).remaining < s.remaining ∨ s.Unmoved (s.step e) := by
  cases e with
  | send =>
    cases upcoming : s.upcoming with
    | nil => exact .inr (by simp [step, upcoming, Unmoved.refl])
    | cons x rest =>
      left
      simp only [step, upcoming, remaining, Relay.remaining, List.length_append, List.length_cons,
        List.length_nil]
      omega
  | advance =>
    cases stepped : s.relay.step s.cache with
    | none => exact .inr (by simp [step, stepped, Unmoved.refl])
    | some x => exact .inl (remaining_advance (by simp [stepped]))
  | read => exact remaining_read
  | flights _ | store _ | execute _ | listen _ => exact .inr ⟨rfl, rfl, rfl⟩

theorem remaining_after (es : List (Event ω)) :
    (s.after es).remaining < s.remaining ∨ s.Unmoved (s.after es) := by
  induction es generalizing s with
  | nil => exact .inr (Unmoved.refl s)
  | cons e es ih =>
    rcases remaining_step (s := s) e with less | same
    · rcases ih (s := s.step e) with less' | same'
      · exact .inl (less'.trans less)
      · exact .inl (same'.remaining_eq.trans_lt less)
    · rcases ih (s := s.step e) with less' | same'
      · exact .inl (less'.trans_eq same.remaining_eq)
      · exact .inr (same.trans same')

theorem remaining_after_le (es : List (Event ω)) : (s.after es).remaining ≤ s.remaining := by
  rcases remaining_after (s := s) es with less | same
  · exact less.le
  · exact same.remaining_eq.le

variable {id : FlightId} {h : Head} {chunks : List Bytes}

omit [DecidableEq ω] in
theorem stage_of_waiting (u : s.Underway id h chunks) (sent : s.upcoming = [])
    (waits : s.relay.step s.cache = none) :
    s.relay.stage = .finished ∨ s.relay.client.waiting ≠ [] ∧ s.relay.stage ≠ .fetching := by
  obtain ⟨f, -, carried⟩ := u.carried
  have all : s.coming = s.relay.feed := by rw [coming, sent, List.append_nil]
  cases stage : s.relay.stage with
  | fetching =>
    simp only [Relay.Carried, stage] at carried
    simp [Relay.step, stage, carried.1] at waits
  | pumping g =>
    simp only [Relay.Carried, stage] at carried
    obtain ⟨-, -, done, rest, -, -, -, feed⟩ := carried
    rw [all] at feed
    cases rest <;> simp [Relay.step, stage, feed, Fed.script] at waits
  | offering g b =>
    right
    have room := u.attended.room
    refine ⟨fun empty => ?_, by simp⟩
    simp [Relay.step, stage, Channel.send, u.attended.heard, empty, Nat.not_le.mpr room] at waits
  | finished => exact .inl rfl
  | opening _ | storing _ | landing | leaving => simp [Relay.step, stage] at waits
  | reporting _ | failing | abandoning | refusing _ =>
    simp only [Relay.Carried, stage] at carried

theorem exists_nearer (u : s.Underway id h chunks) (going : s.client.ended = false) :
    ∃ e : Event ω, (e = .send ∨ e = .advance ∨ e = .read) ∧ (s.step e).remaining < s.remaining := by
  cases sent : s.upcoming with
  | cons x rest =>
    refine ⟨.send, .inl rfl, (remaining_step _).resolve_right fun same => ?_⟩
    simpa [step, sent] using same.upcoming
  | nil =>
    cases stepped : s.relay.step s.cache with
    | some x => exact ⟨.advance, .inr (.inl rfl), remaining_advance (by simp [stepped])⟩
    | none =>
      refine ⟨.read, .inr (.inr rfl), remaining_read.resolve_right fun same => ?_⟩
      have waits := stage_of_waiting u sent stepped
      have begun : s.relay.stage ≠ .fetching := by
        rcases waits with finished | ⟨-, begun⟩
        · simp [finished]
        · exact begun
      have head : s.relay.head = .given (.ok h) := u.attended.head.resolve_right (begun ·.2)
      have client := same.client
      rcases u.answer with unanswered | answered
      · have told := congrArg Client.answer client
        simp [step, Relay.read, going, unanswered, head] at told
      · cases waiting : s.relay.client.waiting with
        | cons p rest =>
          have left := congrArg (·.client.waiting.length) same.relay
          cases p <;>
            simp [step, Relay.read, going, answered, Channel.read, waiting, Arrival.next] at left
        | nil =>
          have unfed := u.attended.fed.mpr (waits.resolve_right fun held => held.1 waiting)
          have ended := congrArg Client.ended client
          simp [step, Relay.read, going, answered, Channel.read, waiting, unfed, Arrival.next] at ended

theorem nearer_of_unmoved (same : s.Unmoved s') (own : e = .send ∨ e = .advance ∨ e = .read)
    (less : (s.step e).remaining < s.remaining) : (s'.step e).remaining < s'.remaining := by
  obtain ⟨cache, _, _, _, lines⟩ := s
  obtain ⟨cache', relay, upcoming, client, lines'⟩ := s'
  obtain ⟨rfl, rfl, rfl⟩ := same
  rcases own with rfl | rfl | rfl
  · cases upcoming with
    | nil => exact absurd less (Nat.lt_irrefl _)
    | cons x rest => exact less
  · -- Whether the task has to wait does not depend on what others did to flights and store.
    apply remaining_advance
    show (relay.step cache').isSome = true
    rw [Relay.isSome_step relay cache' cache]
    cases stepped : relay.step cache with
    | none => simp [step, stepped] at less
    | some x => rfl
  · exact less

/-- The origin, the task and the client have each had a turn, and nobody else drove the flight. -/
structure Round (id : FlightId) (es : List (Event ω)) : Prop where
  send : .send ∈ es
  advance : .advance ∈ es
  read : .read ∈ es
  others : ∀ m, .flights m ∈ es → m.drives id = false

theorem remaining_round (u : s.Underway id h chunks) (going : s.client.ended = false)
    (round : Round id es) : (s.after es).remaining < s.remaining := by
  obtain ⟨e, own, less⟩ := exists_nearer u going
  have mem : e ∈ es := by
    rcases own with rfl | rfl | rfl
    · exact round.send
    · exact round.advance
    · exact round.read
  obtain ⟨before, later, rfl⟩ := List.append_of_mem mem
  have split : s.after (before ++ e :: later) = ((s.after before).step e).after later :=
    Course.after_append step s before (e :: later)
  -- Either something was used up before this turn, or the turn itself uses it up.
  have turn : ((s.after before).step e).remaining < s.remaining := by
    rcases remaining_after (s := s) before with less' | same
    · exact (remaining_after_le [e]).trans_lt less'
    · exact (nearer_of_unmoved same own less).trans_eq same.remaining_eq
  rw [split]
  exact (remaining_after_le later).trans_lt turn

theorem ended_after (ended : s.client.ended = true) (es : List (Event ω)) :
    (s.after es).client.ended = true := by
  apply Course.after_keeps (P := fun s : Exchange ω => s.client.ended = true) _ ended
  intro s e ended
  cases e with
  | send => simp only [step]; split <;> exact ended
  | advance => simp only [step]; split <;> exact ended
  | read => simp [step, Relay.read, ended]
  | flights _ | store _ | execute _ | listen _ => exact ended

/-- After enough rounds the client has read to the end. -/
theorem ended_after_rounds (u : s.Underway id h chunks) {rounds : List (List (Event ω))}
    (fair : ∀ es ∈ rounds, Round id es) (enough : s.remaining ≤ rounds.length) :
    (s.after rounds.flatten).client.ended = true := by
  induction rounds generalizing s with
  | nil =>
    cases ended : s.client.ended with
    | true => exact ended
    | false => simp [remaining, ended] at enough
  | cons es rounds ih =>
    have split : s.after (es :: rounds).flatten = (s.after es).after rounds.flatten :=
      Course.after_append step s es rounds.flatten
    rw [split]
    cases ended : s.client.ended with
    | true => exact ended_after (ended_after ended es) _
    | false =>
      have round := fair es List.mem_cons_self
      have less := remaining_round u ended round
      apply ih (underway_after u round.others) fun es mem => fair es (List.mem_cons_of_mem _ mem)
      rw [List.length_cons] at enough
      omega

end Exchange
end CachingProxy
