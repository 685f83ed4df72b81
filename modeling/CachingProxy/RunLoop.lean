import CachingProxy.Assoc
import CachingProxy.Failure

namespace CachingProxy

/-- A queue of tasks and the thread that executes them one at a time, in the order of posting. -/
structure RunLoop (τ : Type) where
  queued : List τ := []
  executed : List τ := []
  /-- The thread has ended. What is posted then is dropped. -/
  dead : Bool := false

namespace RunLoop

variable {τ : Type}

def post (l : RunLoop τ) (t : τ) : RunLoop τ :=
  if l.dead then l else { l with queued := l.queued ++ [t] }

/-- Executes the task that has waited longest. A task that ends the thread takes with it whatever
waits behind it. -/
def step (l : RunLoop τ) (ends : τ → Bool := fun _ => false) : RunLoop τ :=
  match l.queued with
  | [] => l
  | t :: r =>
    if ends t then ⟨[], l.executed ++ [t], true⟩
    else { l with queued := r, executed := l.executed ++ [t] }

/-- The tasks up to the first that ends the thread, that one included. -/
def through (ends : τ → Bool) : List τ → List τ
  | [] => []
  | t :: ts => if ends t then [t] else t :: through ends ts

def drain (l : RunLoop τ) (ends : τ → Bool := fun _ => false) : RunLoop τ :=
  ⟨[], l.executed ++ through ends l.queued, l.dead || l.queued.any ends⟩

def threadName (id : Nat) : String := "ringcache-worker-" ++ toString id

variable {ends : τ → Bool} {ts us : List τ}

theorem through_eq_self (lasts : ts.any ends = false) : through ends ts = ts := by
  induction ts with
  | nil => rfl
  | cons t ts ih =>
    rw [List.any_cons, Bool.or_eq_false_iff] at lasts
    rw [through, if_neg (by simp [lasts.1]), ih lasts.2]

theorem through_append (lasts : ts.any ends = false) :
    through ends (ts ++ us) = ts ++ through ends us := by
  induction ts with
  | nil => rfl
  | cons t ts ih =>
    rw [List.any_cons, Bool.or_eq_false_iff] at lasts
    rw [List.cons_append, through, if_neg (by simp [lasts.1]), ih lasts.2, List.cons_append]

theorem through_append_of_any (ended : ts.any ends = true) :
    through ends (ts ++ us) = through ends ts := by
  induction ts with
  | nil => cases ended
  | cons t ts ih =>
    rw [List.cons_append, through, through]
    split
    · rfl
    · next going => rw [ih (by simpa [going] using ended)]

end RunLoop

structure Pool (τ : Type) where
  size : Nat
  positive : 0 < size
  loops : Assoc Nat (RunLoop τ)
  taken : Nat
  stopped : Bool

namespace Pool

variable {τ : Type}

def new (size : Nat) : Except Failure (Pool τ) :=
  if h : 0 < size then .ok ⟨size, h, .empty, 0, false⟩
  else .error ⟨.settings, "worker pool needs at least one run loop"⟩

def next (p : Pool τ) : Pool τ × Nat := ({ p with taken := p.taken + 1 }, p.taken % p.size)

def loop (p : Pool τ) (id : Nat) : RunLoop τ := (p.loops.get? id).getD {}

def post (p : Pool τ) (id : Nat) (t : τ) : Pool τ :=
  if p.stopped then p else { p with loops := p.loops.set id ((p.loop id).post t) }

/-- Lets one loop execute one task. -/
def step (p : Pool τ) (id : Nat) (ends : τ → Bool := fun _ => false) : Pool τ :=
  { p with loops := p.loops.set id ((p.loop id).step ends) }

def queued (p : Pool τ) : List (Nat × τ) :=
  p.loops.entries.flatMap fun l => l.2.queued.map fun t => (l.1, t)

def drain (p : Pool τ) (ends : τ → Bool := fun _ => false) : Pool τ :=
  { p with loops := p.loops.mapValues (RunLoop.drain · ends) }

/-- Executes what is queued and then takes no further task. -/
def shutdown (p : Pool τ) (ends : τ → Bool := fun _ => false) : Pool τ :=
  { p.drain ends with stopped := true }

variable {p : Pool τ} {size : Nat} {ends : τ → Bool}

theorem loop_new (new : Pool.new size = .ok p) (id : Nat) : p.loop id = {} := by
  unfold Pool.new at new
  split at new <;> cases new
  rfl

theorem stopped_new (new : Pool.new size = .ok p) : p.stopped = false := by
  unfold Pool.new at new
  split at new <;> cases new
  rfl

@[simp] theorem stopped_post (id : Nat) (t : τ) : (p.post id t).stopped = p.stopped := by
  unfold post
  split <;> rfl

@[simp] theorem stopped_step (id : Nat) : (p.step id ends).stopped = p.stopped := rfl

theorem loop_post (running : p.stopped = false) (id j : Nat) (t : τ) :
    (p.post id t).loop j = if id = j then (p.loop j).post t else p.loop j := by
  simp only [post, running, Bool.false_eq_true, if_false, loop, Assoc.get?_set]
  split
  · next here => rw [← here, Option.getD_some]
  · rfl

theorem loop_step (id j : Nat) :
    (p.step id ends).loop j = if id = j then (p.loop j).step ends else p.loop j := by
  simp only [step, loop, Assoc.get?_set]
  split
  · next here => rw [← here, Option.getD_some]
  · rfl

theorem loop_drain (id : Nat) : (p.drain ends).loop id = (p.loop id).drain ends := by
  simp only [drain, loop, Assoc.get?_mapValues]
  cases p.loops.get? id <;> rfl

end Pool
end CachingProxy
