import CachingProxy.Proofs.Relay.Account
import CachingProxy.Proofs.Relay.Exchange

namespace CachingProxy

/-- The error that a client finds after the chunks. -/
def Fed.complaint (sent : List Fed) : List (Except String Bytes) :=
  match Fed.fate? sent with
  | some (.failed e) => [.error e.message]
  | _ => []

def Stage.hasTold : Stage → Bool
  | .failing | .abandoning | .finished => true
  | _ => false

namespace Relay

variable {r r' : Relay} {c : Client} {h : Head} {sent upcoming : List Fed} {taken : List Bytes}

/-- What the client was told of the chunks that the task has taken, by the stage of the task. -/
def Hears (r : Relay) (sent : List Fed) (taken : List Bytes) (told : List (Except String Bytes)) :
    Prop :=
  match r.stage with
  | .offering _ b => told ++ [.ok b] = taken.map .ok
  | .failing | .abandoning | .finished => told = taken.map .ok ++ Fed.complaint sent
  | _ => told = taken.map .ok

/-- What the client of a relay was told. The end of the body is told by the closing of the channel alone,
so whatever goes wrong has to be said in the channel first. -/
structure Told (r : Relay) (c : Client) (h : Head) (sent : List Fed) (taken : List Bytes) : Prop where
  hears : r.client.heard = true → c.ended = false → r.Hears sent taken (c.pieces ++ r.client.waiting)
  fed : r.client.fed = false → r.stage = .abandoning ∨ r.stage = .finished
  head : r.head = .given (.ok h) ∨ r.head = .awaited ∧ r.stage = .fetching
  answer : c.answer = none ∨ c.answer = some (.ok (h.marked .miss))
  ended : c.ended = true →
    c.answer ≠ none ∧ c.pieces = (Fed.chunks sent).map .ok ++ Fed.complaint sent ∧
      (Fed.fate? sent).isSome = true ∧ r.stage.hasTold = true

theorem hears_turn {told : List (Except String Bytes)} (heard : r.client.heard = true)
    (account : r.Account h sent (r.feed ++ upcoming) taken)
    (hears : r.Hears sent taken (told ++ r.client.waiting)) (turn : r.Turn r') :
    r'.Hears sent (taken ++ r.taking) (told ++ r'.client.waiting) := by
  -- What the task can send is now the last that waits.
  have sent_last {a : Except String Bytes} (room : (r.client.send a).2 ≠ .full) :
      (r.client.send a).1.waiting = r.client.waiting ++ [a] := by
    by_cases full : r.client.room ≤ r.client.waiting.length
    · simp [Channel.send, heard, full] at room
    · simp [Channel.send, heard, full]
  cases turn with
  | took g b rest stage next =>
    simp only [Hears, stage] at hears
    simp [Hears, taking, stage, next, hears]
  | broke g e rest stage next | ended g rest stage next =>
    simpa [Hears, taking, stage, next] using hears
  | panicked g rest stage next =>
    simp only [Account, stage, next] at account
    have silent : Fed.complaint sent = [] := by
      rw [account.2, Fed.complaint, List.cons_append, Fed.fate?_append]
      rfl
    simpa [Hears, taking, stage, next, silent] using hears
  | offered g b stage room =>
    simpa [Hears, taking, stage, sent_last room] using hears
  | reported detail stage room =>
    simp only [Account, stage] at account
    obtain ⟨-, e, fate, rfl⟩ := account
    have said : Fed.complaint sent = [.error e.message] := by rw [Fed.complaint, fate]
    simp only [Hears, stage] at hears
    simp [Hears, taking, stage, sent_last room, said, ← hears]
  | left stage =>
    simp only [Account, stage] at account
    have silent : Fed.complaint sent = [] := by rw [Fed.complaint, account.2]
    simpa [Hears, taking, stage, Channel.hangUp, silent] using hears
  | failed stage => simpa [Hears, taking, stage, Channel.hangUp] using hears
  | died stage known =>
    simp only [Account, stage, known] at account
    cases account.1
  | told e stage => simp only [Account, stage] at account
  | answered g stage | refused e stage | opened g stage | stored g stage | landed stage
  | abandoned stage => simpa [Hears, taking, stage] using hears

theorem Told.fed_turn (told : r.Told c h sent taken) (turn : r.Turn r')
    (closed : r'.client.fed = false) : r'.stage = .abandoning ∨ r'.stage = .finished := by
  have kept {a : Except String Bytes} : (r.client.send a).1.fed = r.client.fed := by
    simp only [Channel.send]
    split
    · rfl
    · split <;> rfl
  cases turn with
  | left stage | failed stage | abandoned stage | told e stage | died stage => simp
  | offered g b stage | reported detail stage => simpa [stage] using told.fed (kept ▸ closed)
  | answered g stage | refused e stage | opened g stage | took g b rest stage | broke g e rest stage
  | ended g rest stage | panicked g rest stage | stored g stage | landed stage =>
    simpa [stage] using told.fed closed

theorem Told.head_turn (told : r.Told c h sent taken)
    (account : r.Account h sent (r.feed ++ upcoming) taken) (turn : r.Turn r') :
    r'.head = .given (.ok h) := by
  have given (past : r.stage ≠ .fetching) : r.head = .given (.ok h) :=
    told.head.resolve_right fun ⟨_, before⟩ => past before
  cases turn with
  | answered g stage known =>
    simp only [Account, stage, known] at account
    cases account.1
    rfl
  | refused e stage known | died stage known =>
    simp only [Account, stage, known] at account
    cases account.1
  | told e stage => simp only [Account, stage] at account
  | opened g stage | took g b rest stage | broke g e rest stage | ended g rest stage
  | panicked g rest stage | offered g b stage | reported detail stage | stored g stage
  | landed stage | left stage | failed stage | abandoned stage => exact given (by simp [stage])

theorem hasTold_turn (done : r.stage.hasTold = true) (turn : r.Turn r') : r'.stage.hasTold = true := by
  cases turn with
  | failed stage | abandoned stage => rfl
  | answered g stage | refused e stage | died stage | opened g stage | took g b rest stage
  | broke g e rest stage | ended g rest stage | panicked g rest stage | offered g b stage
  | reported detail stage | stored g stage | landed stage | left stage | told e stage =>
    simp [stage, Stage.hasTold] at done

theorem told_turn (told : r.Told c h sent taken)
    (account : r.Account h sent (r.feed ++ upcoming) taken) (turn : r.Turn r') :
    r'.Told c h sent (taken ++ r.taking) := by
  have heard : r'.client.heard = true → r.client.heard = true := by
    cases turn with
    | offered g b stage room | reported detail stage room =>
      simp only [Channel.send]
      split
      · exact id
      · split <;> exact id
    | _ => exact id
  refine ⟨fun still asks => hears_turn (heard still) account (told.hears (heard still) asks) turn,
    told.fed_turn turn, .inl (told.head_turn account turn), told.answer, fun ended => ?_⟩
  obtain ⟨answered, pieces, known, done⟩ := told.ended ended
  exact ⟨answered, pieces, known, hasTold_turn done turn⟩

theorem all_of_hears {told : List (Except String Bytes)}
    (account : r.Account h sent (r.feed ++ upcoming) taken) (hears : r.Hears sent taken told)
    (done : r.stage.hasTold = true) :
    told = (Fed.chunks sent).map .ok ++ Fed.complaint sent ∧ (Fed.fate? sent).isSome = true := by
  have known (bad : (∃ e, Fed.fate? sent = some (.failed e)) ∨ Fed.fate? sent = some .panicked) :
      (Fed.fate? sent).isSome = true := by
    obtain ⟨e, fate⟩ | fate := bad <;> simp [fate]
  cases stage : r.stage with
  | failing | abandoning =>
    simp only [Account, stage] at account
    simp only [Hears, stage] at hears
    exact ⟨by rw [hears, account.1], known account.2⟩
  | finished =>
    simp only [Account, stage] at account
    simp only [Hears, stage] at hears
    exact ⟨by rw [hears, account.1], account.2⟩
  | fetching | opening _ | pumping _ | offering _ _ | reporting _ | storing _ | landing | leaving
  | refusing _ => simp [stage, Stage.hasTold] at done

theorem done_of_error {before rest : List (Except String Bytes)} {e : String}
    (hears : r.Hears sent taken (before ++ .error e :: rest)) :
    r.stage.hasTold = true ∧ rest = [] := by
  have no_error (bs : List Bytes) : .error e ∉ bs.map (Except.ok (ε := String)) := by simp
  have among : Except.error e ∈ before ++ .error e :: rest := by simp
  have last (all : before ++ .error e :: rest = taken.map .ok ++ Fed.complaint sent) : rest = [] := by
    unfold Fed.complaint at all
    split at all
    · obtain rfl | ⟨init, x, rfl⟩ := List.eq_nil_or_concat rest
      · rfl
      · rw [List.concat_eq_append, ← List.cons_append, ← List.append_assoc] at all
        obtain ⟨chunks, -⟩ := List.append_inj' all rfl
        exact absurd (chunks ▸ by simp) (no_error taken)
    · rw [List.append_nil] at all
      exact absurd (all ▸ among) (no_error taken)
  cases stage : r.stage with
  | failing | abandoning | finished =>
    exact ⟨rfl, last (by simpa only [Hears, stage] using hears)⟩
  | offering g b =>
    simp only [Hears, stage] at hears
    exact absurd (hears ▸ List.mem_append_left _ among) (no_error taken)
  | fetching | opening _ | pumping _ | reporting _ | storing _ | landing | leaving | refusing _ =>
    simp only [Hears, stage] at hears
    exact absurd (hears ▸ among) (no_error taken)

theorem told_read (told : r.Told c h sent taken) (heard : r.client.heard = true)
    (account : r.Account h sent (r.feed ++ upcoming) taken) :
    (r.read c).1.Told (r.read c).2 h sent taken := by
  cases ended : c.ended with
  | true => simpa [read, ended] using told
  | false =>
    have hears := told.hears heard ended
    obtain unanswered | answered := told.answer
    · obtain given | ⟨awaited, -⟩ := told.head
      · simp only [read, ended, unanswered, given]
        exact ⟨fun _ _ => hears, told.fed, .inl given, .inr rfl, by simp⟩
      · simpa [read, ended, unanswered, awaited] using told
    · cases waiting : r.client.waiting with
      | nil =>
        cases fed : r.client.fed with
        | true =>
          simpa [read, ended, answered, Channel.read, waiting, fed, Arrival.next] using told
        | false =>
          have result : r.read c = (r, { c with ended := true }) := by
            simp [read, ended, answered, Channel.read, waiting, fed, Arrival.next]
          rw [waiting, List.append_nil] at hears
          have done : r.stage.hasTold = true := by
            obtain stage | stage := told.fed fed <;> rw [stage] <;> rfl
          obtain ⟨all, known⟩ := all_of_hears account hears done
          rw [result]
          exact ⟨by simp, told.fed, told.head, told.answer,
            fun _ => ⟨by simp [answered], all, known, done⟩⟩
      | cons p rest =>
        rw [waiting] at hears
        cases p with
        | ok b =>
          have result : r.read c =
              ({ r with client := { r.client with waiting := rest } },
                { c with pieces := c.pieces ++ [.ok b] }) := by
            simp [read, ended, answered, Channel.read, waiting, Arrival.next]
          rw [result]
          refine ⟨fun _ _ => ?_, told.fed, told.head, told.answer, by simp [ended]⟩
          simpa [Hears] using hears
        | error e =>
          have result : r.read c =
              ({ r with client := { r.client with waiting := rest } },
                { c with pieces := c.pieces ++ [.error e], ended := true }) := by
            simp [read, ended, answered, Channel.read, waiting, Arrival.next]
          obtain ⟨done, rfl⟩ := done_of_error hears
          obtain ⟨all, known⟩ := all_of_hears account hears done
          rw [result]
          exact ⟨by simp, told.fed, told.head, told.answer,
            fun _ => ⟨by simp [answered], all, known, done⟩⟩

end Relay
end CachingProxy
