import CachingProxy.Proofs.Relay.Moves
import CachingProxy.Proofs.Relay.Turns

namespace CachingProxy

/-- How a fetch comes to a bad end. Either a failure is told, or the other side panics. -/
inductive Mishap
  /-- The request is not answered. -/
  | unanswered (f : Option Failure)
  /-- The body breaks off after some chunks. -/
  | broken (h : Head) (chunks : List Bytes) (f : Option Failure)

namespace Mishap

def fetched : Mishap → Fetched
  | unanswered (some f) => .failed f
  | unanswered none => .panicked
  | broken h _ _ => .answered h

def head? : Mishap → Option Head
  | unanswered _ => none
  | broken h _ _ => some h

def chunks : Mishap → List Bytes
  | unanswered _ => []
  | broken _ chunks _ => chunks

def fate : Mishap → Fed
  | unanswered (some f) | broken _ _ (some f) => .failed f
  | unanswered none | broken _ _ none => .panicked

/-- What the origin sends. Nobody looks at what is sent after a failure. -/
def script (x : Mishap) (unseen : List Fed) : List Fed :=
  match x with
  | unanswered _ => unseen
  | broken _ chunks _ => chunks.map .chunk ++ x.fate :: unseen

variable {x : Mishap} {h : Head} {f : Failure}

theorem fetched_cases (x : Mishap) :
    (∃ h, x.fetched = .answered h ∧ x.head? = some h ∧
      ∀ unseen, x.script unseen = x.chunks.map .chunk ++ x.fate :: unseen) ∨
    (∀ h, x.fetched ≠ .answered h) ∧ x.head? = none ∧ x.chunks = [] := by
  cases x with
  | unanswered f => exact .inr ⟨by cases f <;> simp [fetched], rfl, rfl⟩
  | broken h chunks f => exact .inl ⟨h, rfl, rfl, fun _ => rfl⟩

theorem fate_ne (x : Mishap) : x.fate ≠ .ended ∧ ∀ b, x.fate ≠ .chunk b := by
  cases x with
  | unanswered f => cases f <;> simp [fate]
  | broken h chunks f => cases f <;> simp [fate]

end Mishap

namespace Flight

variable {ω : Type} {f : Flight ω} {head : Option Head} {body : Bytes} {stage : Stage}

structure Crashed (f : Flight ω) (head : Option Head) (body : Bytes) : Prop where
  head : f.head = head
  body : f.body = body
  aborted : f.phase = .aborted

theorem crashed_abort (c : f.Carries head body) : f.abort.1.Crashed head body := by
  have aborted : f.abort.1.head = f.head ∧ f.abort.1.body = f.body ∧ f.abort.1.phase = .aborted := by
    simp [abort, c.going]
  exact ⟨aborted.1.trans c.head, aborted.2.1.trans c.body, aborted.2.2⟩

theorem crashed_join (c : f.Crashed head body) (w : ω) : (f.join w).1.Crashed head body := by
  obtain ⟨head', body', phase'⟩ := f.join_frame w
  exact ⟨head'.trans c.head, body'.trans c.body, phase'.trans c.aborted⟩

/-- What the flight of a relay that fails has, by the stage of the task. -/
def Stands (f : Flight ω) (stage : Stage) (head : Option Head) (body : Bytes) : Prop :=
  if stage = .finished then f.Crashed head body else f.Carries head body

theorem stands_of_carries (carries : f.Carries head body) (unfinished : stage ≠ .finished) :
    f.Stands stage head body := by
  rwa [Stands, if_neg unfinished]

theorem stands_join (s : f.Stands stage head body) (w : ω) : (f.join w).1.Stands stage head body := by
  unfold Stands at s ⊢
  split
  · next finished => exact crashed_join (by simpa [finished] using s) w
  · next going => exact carries_join (by simpa [going] using s) w

end Flight

namespace Relay

variable {ω : Type} {r r' : Relay} {x : Mishap} {unseen coming upcoming : List Fed}
  {pending : Option Fetched} {head : Option Head} {body : Bytes}

def Asks (r : Relay) (x : Mishap) (pending : Option Fetched) : Prop :=
  r.fetched = none ∧ pending = some x.fetched ∨ r.fetched = some x.fetched ∧ pending = none

/-- The account of a relay whose fetch comes to a bad end, by the stage of its task: what it has made
known of the head and of the body, and what is still to come. -/
def Fails (r : Relay) (x : Mishap) (unseen : List Fed) (pending : Option Fetched) (coming : List Fed)
    (head : Option Head) (body : Bytes) : Prop :=
  match r.stage with
  | .fetching => r.Asks x pending ∧ head = none ∧ body = [] ∧ coming = x.script unseen
  | .opening g =>
    x.head? = some g ∧ head = none ∧ body = [] ∧ coming = x.chunks.map .chunk ++ x.fate :: unseen
  | .pumping g | .offering g _ =>
    x.head? = some g ∧ head = some g ∧ ∃ done rest, x.chunks = done ++ rest ∧
      body = done.flatten ∧ coming = rest.map .chunk ++ x.fate :: unseen
  | .reporting _ | .failing | .abandoning | .refusing _ | .finished =>
    head = x.head? ∧ body = x.chunks.flatten
  | .storing _ | .landing | .leaving => False

theorem fails_congr {pending' : Option Fetched} (fails : r.Fails x unseen pending coming head body)
    (stage : r'.stage = r.stage) (asks : r.Asks x pending → r'.Asks x pending') :
    r'.Fails x unseen pending' coming head body := by
  unfold Fails at fails ⊢
  rw [stage]
  split at fails
  · exact ⟨asks fails.1, fails.2⟩
  all_goals exact fails

theorem Asks.eq_of_known {y : Fetched} (asks : r.Asks x pending) (known : r.fetched = some y) :
    y = x.fetched := by
  obtain ⟨unknown, -⟩ | ⟨fetched, -⟩ := asks
  · cases unknown.symm.trans known
  · exact Option.some.inj (known.symm.trans fetched)

theorem fails_turn (fails : r.Fails x unseen pending (r.feed ++ upcoming) head body)
    (turn : r.Turn r') :
    ∃ head' body', r'.Fails x unseen pending (r'.feed ++ upcoming) head' body' ∧
      ∀ f : Flight ω, f.Carries head body → (f.after r.acts).Stands r'.stage head' body' := by
  cases turn with
  | answered h stage known =>
    simp only [Fails, stage] at fails
    obtain ⟨asks, rfl, rfl, all⟩ := fails
    obtain ⟨g, fetched, named, script⟩ | ⟨other, -⟩ := x.fetched_cases
    · obtain rfl : h = g := Fetched.answered.inj ((asks.eq_of_known known).trans fetched)
      refine ⟨none, [], ⟨named, rfl, rfl, all.trans (script _)⟩, fun f carries => ?_⟩
      simpa [acts, stage] using Flight.stands_of_carries carries (by simp)
    · exact absurd (asks.eq_of_known known).symm (other h)
  | refused _ stage known | died stage known =>
    simp only [Fails, stage] at fails
    obtain ⟨asks, rfl, rfl, -⟩ := fails
    obtain ⟨g, fetched, -⟩ | ⟨-, unnamed, empty⟩ := x.fetched_cases
    · cases (asks.eq_of_known known).trans fetched
    · refine ⟨none, [], ⟨unnamed.symm, by simp [empty]⟩, fun f carries => ?_⟩
      simpa [acts, stage] using Flight.stands_of_carries carries (by simp)
  | opened g stage =>
    simp only [Fails, stage] at fails
    obtain ⟨named, rfl, rfl, all⟩ := fails
    refine ⟨some g, [], ⟨named, rfl, [], x.chunks, rfl, rfl, all⟩, fun f carries => ?_⟩
    simp only [acts, stage]
    exact Flight.stands_of_carries (Flight.carries_flush (Flight.carries_setHead carries g)) (by simp)
  | took g b rest stage next =>
    simp only [Fails, stage, next] at fails
    obtain ⟨named, rfl, done, left, split, rfl, all⟩ := fails
    cases left with
    | nil => exact absurd (List.cons.inj all).1.symm (x.fate_ne.2 b)
    | cons c left =>
      obtain ⟨same, later⟩ := List.cons.inj all
      obtain rfl : b = c := Fed.chunk.inj same
      refine ⟨some g, (done ++ [b]).flatten,
        ⟨named, rfl, done ++ [b], left, by simp [split], rfl, later⟩, fun f carries => ?_⟩
      simp only [acts, stage, next, List.flatten_concat]
      exact Flight.stands_of_carries (Flight.carries_flush (Flight.carries_append carries b)) (by simp)
  | broke g e rest stage next | panicked g rest stage next =>
    simp only [Fails, stage, next] at fails
    obtain ⟨named, rfl, done, left, split, rfl, all⟩ := fails
    cases left with
    | cons c left => cases (List.cons.inj all).1
    | nil =>
      rw [List.append_nil] at split
      refine ⟨some g, done.flatten, ⟨named.symm, by rw [split]⟩, fun f carries => ?_⟩
      simpa [acts, stage, next] using Flight.stands_of_carries carries (by simp)
  | ended g rest stage next =>
    simp only [Fails, stage, next] at fails
    obtain ⟨-, -, done, left, -, -, all⟩ := fails
    cases left with
    | cons c left => cases (List.cons.inj all).1
    | nil => exact absurd (List.cons.inj all).1.symm x.fate_ne.1
  | offered _ _ stage _ | reported _ stage _ | failed stage =>
    simp only [Fails, stage] at fails
    refine ⟨head, body, fails, fun f carries => ?_⟩
    simpa [acts, stage] using Flight.stands_of_carries carries (by simp)
  | abandoned stage | told _ stage =>
    simp only [Fails, stage] at fails
    refine ⟨head, body, fails, fun f carries => ?_⟩
    simp only [acts, stage]
    rw [Flight.Stands, if_pos rfl]
    exact Flight.crashed_abort carries
  | stored _ stage | landed stage | left stage => simp only [Fails, stage] at fails

end Relay
end CachingProxy
