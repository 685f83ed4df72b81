import Mathlib.Logic.Function.Iterate
import CachingProxy.Channel
import CachingProxy.RunLoop
import CachingProxy.Proofs.Follower.Client

namespace CachingProxy

/-- The line from a flight to the client of one follower: tasks are posted to the follower's loop, the
loop executes them, and the client takes what they hand over. -/
structure Line where
  loop : RunLoop Task := {}
  /-- What was handed over and not taken yet. -/
  inbox : List Delivery := []
  /-- Whether anybody is left who could hand something over. -/
  fed : Bool := true
  client : Client := {}

namespace Line

def handed (l : Line) : List Delivery := l.loop.executed.flatMap Task.deliveries

/-- Tasks that are posted once nobody is left to execute them are lost. -/
def post (l : Line) (ts : List Task) : Line :=
  if l.fed then { l with loop := ts.foldl RunLoop.post l.loop } else l

def execute (l : Line) : Line :=
  match l.loop.queued with
  | [] => l
  | t :: _ => { l with loop := l.loop.step, inbox := l.inbox ++ t.deliveries }

/-- The sender is lost, with the tasks that still wait. -/
def lose (l : Line) : Line := { l with loop := { l.loop with queued := [] }, fed := false }

def read (l : Line) : Line :=
  if l.client.ended then l
  else match Arrival.next l.inbox l.fed with
  | (.item d, inbox) => { l with inbox, client := l.client.take (some d) }
  | (.closed, _) => { l with client := l.client.take none }
  | (.pending, _) => l

theorem post_foldl {loop : RunLoop Task} (going : loop.dead = false) (ts : List Task) :
    ts.foldl RunLoop.post loop = { loop with queued := loop.queued ++ ts } := by
  induction ts generalizing loop with
  | nil => simp
  | cons t ts ih => simp [ih, RunLoop.post, going]

/-- The line keeps the order of what was posted, and its client has taken some initial part of it;
`cut` is what the client makes of the loss of the sender. -/
structure Faithful (l : Line) (ds : List Delivery) : Prop where
  going : l.loop.dead = false
  handed : l.handed <+: ds
  queued : l.fed = true → l.handed ++ l.loop.queued.flatMap Task.deliveries = ds
  lost : l.fed = false → l.loop.queued = []
  client : ∃ u : Transcript, l.handed = u.deliveries ++ l.inbox ∧
    (l.client = u.client ∨ l.fed = false ∧ l.inbox = [] ∧ l.client = u.cut.client)

variable {l : Line} {ds : List Delivery}

theorem faithful_new : Faithful {} [] :=
  ⟨rfl, List.nil_prefix, fun _ => rfl, nofun, .nothing, rfl, .inl rfl⟩

theorem faithful_post (f : l.Faithful ds) (ts : List Task) :
    (l.post ts).Faithful (ds ++ ts.flatMap Task.deliveries) := by
  cases fed : l.fed with
  | false =>
    have same : l.post ts = l := by simp [post, fed]
    rw [same]
    exact ⟨f.going, f.handed.trans (List.prefix_append _ _), by simp [fed], f.lost, f.client⟩
  | true =>
    have posted : l.post ts =
        { l with loop := { l.loop with queued := l.loop.queued ++ ts } } := by
      rw [post, if_pos fed, post_foldl f.going]
    rw [posted]
    refine ⟨f.going, f.handed.trans (List.prefix_append _ _), fun _ => ?_, by simp [fed], ?_⟩
    · rw [List.flatMap_append, ← List.append_assoc]
      exact congrArg (· ++ _) (f.queued fed)
    · exact f.client

theorem faithful_execute (f : l.Faithful ds) : l.execute.Faithful ds := by
  cases waiting : l.loop.queued with
  | nil => simpa [execute, waiting] using f
  | cons t r =>
    have fed : l.fed = true := by
      by_contra unfed
      simp [f.lost (by simpa using unfed)] at waiting
    have executed : l.execute =
        { l with
          loop := { l.loop with queued := r, executed := l.loop.executed ++ [t] }
          inbox := l.inbox ++ t.deliveries } := by
      simp [execute, waiting, RunLoop.step]
    have handed' : l.execute.handed = l.handed ++ t.deliveries := by
      simp [executed, handed]
    have queued : l.execute.handed ++ l.execute.loop.queued.flatMap Task.deliveries = ds := by
      rw [handed', executed, ← f.queued fed, waiting, List.flatMap_cons, List.append_assoc]
    obtain ⟨u, taken, told⟩ := f.client
    refine ⟨by simp [executed, f.going], ⟨_, queued⟩, fun _ => queued, by simp [executed, fed], u, ?_,
      ?_⟩
    · rw [handed', executed, taken, List.append_assoc]
    · simpa [executed, fed] using told

@[simp] theorem fed_post (ts : List Task) : (l.post ts).fed = l.fed := by
  unfold post
  split <;> rfl

@[simp] theorem fed_execute : l.execute.fed = l.fed := by
  unfold execute
  split <;> rfl

@[simp] theorem fed_read : l.read.fed = l.fed := by
  unfold read
  split
  · rfl
  · split <;> rfl

theorem faithful_lose (f : l.Faithful ds) : l.lose.Faithful ds := by
  obtain ⟨u, taken, told⟩ := f.client
  refine ⟨f.going, f.handed, nofun, fun _ => rfl, u, taken, ?_⟩
  rcases told with told | ⟨-, empty, told⟩
  · exact .inl told
  · exact .inr ⟨rfl, empty, told⟩

theorem exists_taken {t : Transcript} (faithful : l.Faithful t.deliveries) :
    ∃ u v x : Transcript, v.deliveries = l.handed ∧ u.deliveries <+: v.deliveries ∧
      l.client = x.client ∧ x.head? = u.head? ∧ x.bytes = u.bytes ∧
      x.isComplete = u.isComplete ∧
      (x.isReset = true → u.isReset = true ∨
        l.fed = false ∧ u.deliveries = v.deliveries) := by
  obtain ⟨u, taken, told⟩ := faithful.client
  obtain ⟨v, handed⟩ := Transcript.exists_of_prefix faithful.handed
  have part : u.deliveries <+: v.deliveries := ⟨_, (handed.trans taken).symm⟩
  rcases told with told | ⟨unfed, empty, told⟩
  · exact ⟨u, v, u, handed, part, told, rfl, rfl, rfl, .inl⟩
  · refine ⟨u, v, u.cut, handed, part, told, u.head?_cut, u.bytes_cut, u.isComplete_cut,
      fun _ => .inr ⟨unfed, ?_⟩⟩
    rw [handed, taken, empty, List.append_nil]

theorem read_of_ended (ended : l.client.ended = true) : l.read = l := by simp [read, ended]

theorem read_of_waiting {d : Delivery} {rest : List Delivery} (asks : l.client.ended = false)
    (waiting : l.inbox = d :: rest) :
    l.read = { l with inbox := rest, client := l.client.take (some d) } := by
  simp [read, asks, waiting, Arrival.next]

theorem faithful_read {t : Transcript} (f : l.Faithful t.deliveries) :
    l.read.Faithful t.deliveries := by
  obtain ⟨u, taken, told⟩ := f.client
  cases ended : l.client.ended with
  | true => simpa [read, ended] using f
  | false =>
    cases waiting : l.inbox with
    | cons d rest =>
      have told : l.client = u.client := told.resolve_right (by simp [waiting])
      rw [waiting] at taken
      have part : u.deliveries ++ [d] <+: t.deliveries := by
        apply List.IsPrefix.trans _ f.handed
        rw [taken]
        exact ⟨rest, by simp⟩
      obtain ⟨v, further⟩ := Transcript.exists_of_prefix part
      have told' : l.client.take (some d) = v.client := by
        rw [told, ← Transcript.takeAll_deliveries u, ← Transcript.takeAll_deliveries v, further,
          Client.takeAll_append]
        rfl
      rw [read_of_waiting ended waiting]
      refine ⟨f.going, f.handed, f.queued, f.lost, v, ?_, .inl told'⟩
      rw [further, List.append_assoc]
      exact taken
    | nil =>
      cases fed : l.fed with
      | true => simpa [read, ended, waiting, fed, Arrival.next] using f
      | false =>
        -- Nothing waits and nobody is left: the client learns that its transcript is cut.
        have result : l.read = { l with client := l.client.take none } := by
          simp [read, ended, waiting, fed, Arrival.next]
        rw [result]
        refine ⟨f.going, f.handed, f.queued, f.lost, u, taken, .inr ⟨fed, waiting, ?_⟩⟩
        rcases told with told | ⟨-, -, told⟩
        · exact (congrArg (Client.take · none) told).trans (Transcript.take_none u)
        · have stopped : u.cut.client.ended = true := by cases u <;> rfl
          simp [told, stopped] at ended

theorem iterate_read_ended {t : Transcript} (f : l.Faithful t.deliveries)
    (last : l.fed = false ∨ ∃ d ∈ l.handed, d.isTerminal = true) {n : Nat}
    (enough : l.inbox.length < n) : (read^[n] l).client.ended = true := by
  induction n generalizing l with
  | zero => omega
  | succ n ih =>
    cases asks : l.client.ended with
    | true =>
      have still : read^[n + 1] l = l := Function.iterate_fixed (read_of_ended asks) _
      rw [still, asks]
    | false =>
      rw [Function.iterate_succ_apply]
      cases waiting : l.inbox with
      | cons d rest =>
        rw [waiting, List.length_cons] at enough
        have result := read_of_waiting asks waiting
        apply ih (faithful_read f)
        · rw [result]; exact last
        · rw [result]; exact Nat.lt_of_succ_lt_succ enough
      | nil =>
        obtain ⟨u, taken, told⟩ := f.client
        rw [waiting, List.append_nil] at taken
        -- The client has taken all that was handed over and still asks, so none of it was terminal.
        have asking : l.client = u.client := by
          apply told.resolve_right
          rintro ⟨-, -, cut⟩
          rw [cut, Transcript.client_ended, Transcript.isOver_cut] at asks
          cases asks
        have unfed : l.fed = false := by
          apply last.resolve_right
          rintro ⟨d, mem, terminal⟩
          rw [asking, Transcript.client_ended] at asks
          have none_yet := Transcript.countP_isTerminal u
          rw [asks, ← taken] at none_yet
          exact absurd terminal (by simpa using List.countP_eq_zero.mp none_yet d mem)
        have result : l.read = { l with client := l.client.take none } := by
          simp [read, asks, waiting, unfed, Arrival.next]
        have stopped : l.read.client.ended = true := by
          rw [result]
          show (l.client.take none).ended = true
          rw [asking, Transcript.take_none, Transcript.client_ended, Transcript.isOver_cut]
        rw [Function.iterate_fixed (read_of_ended stopped), stopped]

theorem client_of_ended {t : Transcript} (f : l.Faithful t.deliveries) (fed : l.fed = true)
    (ended : l.client.ended = true) : l.client = t.client ∧ t.isOver = true := by
  obtain ⟨u, taken, told⟩ := f.client
  have told : l.client = u.client := told.resolve_right (by simp [fed])
  rw [told, Transcript.client_ended] at ended
  have part : u.deliveries <+: t.deliveries := List.IsPrefix.trans ⟨_, taken.symm⟩ f.handed
  have all := Transcript.eq_of_prefix part ended
  have same : u.client = t.client := by
    rw [← Transcript.takeAll_deliveries, ← Transcript.takeAll_deliveries, all]
  refine ⟨told.trans same, ?_⟩
  rw [← Transcript.client_ended, ← same, Transcript.client_ended, ended]

end Line
end CachingProxy
