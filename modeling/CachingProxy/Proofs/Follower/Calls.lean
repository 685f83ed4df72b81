import Mathlib.Data.List.Induction
import Mathlib.Data.List.Nodup
import CachingProxy.Proofs.Course
import CachingProxy.Proofs.Follower.Loop

namespace CachingProxy

namespace Pool

variable {τ : Type}

inductive Call (τ : Type)
  | next
  /-- A task for the loop that was the `k`-th to be taken, from zero. -/
  | post (k : Nat) (t : τ)
  | shutdown

namespace Call

def isNext : Call τ → Bool
  | next => true
  | post .. => false
  | shutdown => false

/-- The tasks that are posted to one of the loops before the pool is shut down, if the loops are taken in
turn and so many were taken before. -/
def assigned (size id : Nat) : Nat → List (Call τ) → List τ
  | _, [] => []
  | taken, next :: cs => assigned size id (taken + 1) cs
  | taken, post k t :: cs =>
    if k < taken ∧ k % size = id then t :: assigned size id taken cs else assigned size id taken cs
  | _, shutdown :: _ => []

variable {size id taken : Nat}

theorem assigned_append {cs : List (Call τ)} (running : shutdown ∉ cs) (ds : List (Call τ)) :
    assigned size id taken (cs ++ ds) =
      assigned size id taken cs ++ assigned size id (taken + cs.countP isNext) ds := by
  induction cs generalizing taken with
  | nil => rfl
  | cons c cs ih =>
    have rest : shutdown ∉ cs := fun later => running (List.mem_cons_of_mem c later)
    cases c with
    | next =>
      have counted : taken + 1 + cs.countP isNext = taken + (next :: cs).countP isNext := by
        rw [Nat.add_assoc, Nat.add_comm 1]
        exact congrArg (taken + ·) (List.countP_cons_of_pos rfl).symm
      simp only [List.cons_append, assigned, ih rest, counted]
    | post k t =>
      have counted : (post k t :: cs).countP isNext = cs.countP isNext :=
        List.countP_cons_of_neg Bool.false_ne_true
      simp only [List.cons_append, assigned, ih rest, counted]
      split <;> rfl
    | shutdown => exact absurd List.mem_cons_self running

theorem assigned_append_of_shutdown {cs : List (Call τ)} (closed : shutdown ∈ cs) (ds : List (Call τ)) :
    assigned size id taken (cs ++ ds) = assigned size id taken cs := by
  induction cs generalizing taken with
  | nil => cases closed
  | cons c cs ih =>
    cases c with
    | next => exact ih (by simpa using closed)
    | post k t => simp only [List.cons_append, assigned, ih (by simpa using closed)]
    | shutdown => rfl

theorem assigned_concat_idle {cs : List (Call τ)} {c : Call τ}
    (idle : assigned size id (taken + cs.countP isNext) [c] = []) :
    assigned size id taken (cs ++ [c]) = assigned size id taken cs := by
  by_cases closed : shutdown ∈ cs
  · exact assigned_append_of_shutdown closed _
  · rw [assigned_append closed, idle, List.append_nil]

theorem countP_concat_post (cs : List (Call τ)) (k : Nat) (t : τ) :
    (cs ++ [post k t]).countP isNext = cs.countP isNext := by
  rw [List.countP_append]
  rfl

theorem shutdown_mem_concat_post {cs : List (Call τ)} {k : Nat} {t : τ} :
    shutdown ∈ cs ++ [post k t] ↔ shutdown ∈ cs := by
  simp

theorem assigned_beyond (positive : 0 < size) (beyond : size ≤ id) (cs : List (Call τ)) :
    assigned size id taken cs = [] := by
  have other (k : Nat) : k % size ≠ id :=
    Nat.ne_of_lt (Nat.lt_of_lt_of_le (Nat.mod_lt k positive) beyond)
  induction cs generalizing taken with
  | nil => rfl
  | cons c cs ih => cases c <;> simp [assigned, ih, other]

end Call

variable {p : Pool τ}

@[simp] theorem size_post (id : Nat) (t : τ) : (p.post id t).size = p.size := by
  unfold post
  split <;> rfl

@[simp] theorem taken_post (id : Nat) (t : τ) : (p.post id t).taken = p.taken := by
  unfold post
  split <;> rfl

/-- A pool, and the loops that were taken from it, in order. -/
structure Use (τ : Type) where
  pool : Pool τ
  handles : List Nat := []

namespace Use

def next (u : Use τ) : Use τ :=
  let (pool, id) := u.pool.next
  ⟨pool, u.handles ++ [id]⟩

/-- Only a loop that was taken can be posted to. -/
def post (u : Use τ) (k : Nat) (t : τ) : Use τ :=
  match u.handles[k]? with
  | none => u
  | some id => { u with pool := u.pool.post id t }

def make (panics : τ → Bool) (u : Use τ) : Call τ → Use τ
  | .next => u.next
  | .post k t => u.post k t
  | .shutdown => { u with pool := u.pool.shutdown panics }

def after (panics : τ → Bool) (u : Use τ) (cs : List (Call τ)) : Use τ :=
  Course.after (make panics) u cs

structure InTurn (n k : Nat) (u : Use τ) : Prop where
  size : u.pool.size = n
  taken : u.pool.taken = k
  handles : u.handles = (List.range k).map (· % n)

variable {u : Use τ} {size taken : Nat}

theorem inTurn_start {pool : Pool τ} (new : Pool.new size = .ok pool) : InTurn size 0 { pool } := by
  unfold Pool.new at new
  split at new <;> cases new
  exact ⟨rfl, rfl, rfl⟩

theorem inTurn_next (turn : u.InTurn size taken) : u.next.InTurn size (taken + 1) := by
  obtain ⟨rfl, rfl, handles⟩ := turn
  refine ⟨rfl, rfl, ?_⟩
  simp [next, Pool.next, handles, List.range_succ]

theorem post_eq (turn : u.InTurn size taken) (k : Nat) (t : τ) :
    u.post k t = if k < taken then { u with pool := u.pool.post (k % size) t } else u := by
  simp only [post, turn.handles, List.getElem?_map]
  by_cases early : k < taken <;> simp [early]

theorem InTurn.of_pool (turn : u.InTurn size taken) {p : Pool τ} (size' : p.size = u.pool.size)
    (taken' : p.taken = u.pool.taken) : InTurn size taken { u with pool := p } :=
  ⟨size'.trans turn.size, taken'.trans turn.taken, turn.handles⟩

theorem InTurn.nodup (turn : u.InTurn size taken) (m : Nat) : ((u.handles.drop m).take size).Nodup := by
  rw [turn.handles, ← List.map_drop, ← List.map_take, List.range_eq_range', List.drop_range']
  refine List.Nodup.map_on ?_ (List.Nodup.sublist (List.take_sublist _ _) List.nodup_range')
  have among {k : Nat} (mem : k ∈ (List.range' (0 + m * 1) (taken - m)).take size) :
      m ≤ k ∧ k < m + size := by
    obtain ⟨i, here, rfl⟩ := List.getElem_of_mem mem
    rw [List.length_take] at here
    rw [List.getElem_take, List.getElem_range']
    omega
  have gap {i j : Nat} (same : i % size = j % size) (close : j < i + size) : j ≤ i := by
    by_contra more
    have whole : (j - i) % size = 0 := Nat.sub_mod_eq_zero_of_mod_eq same.symm
    rw [Nat.mod_eq_of_lt (by omega)] at whole
    omega
  intro i mem j mem' same
  obtain ⟨low, high⟩ := among mem
  obtain ⟨low', high'⟩ := among mem'
  exact Nat.le_antisymm (gap same.symm (by omega)) (gap same (by omega))

/-- These calls with a pool that does nothing before it is shut down, and then everything at once. -/
structure Done (panics : τ → Bool) (n : Nat) (cs : List (Call τ)) (u : Use τ) : Prop where
  inTurn : u.InTurn n (cs.countP Call.isNext)
  stopped : u.pool.stopped = true ↔ .shutdown ∈ cs
  waiting : .shutdown ∉ cs → ∀ id, u.pool.loop id = { queued := Call.assigned n id 0 cs }
  drained : .shutdown ∈ cs → ∀ id,
    u.pool.loop id = RunLoop.drain { queued := Call.assigned n id 0 cs } panics

variable {panics : τ → Bool} {cs : List (Call τ)} {n : Nat}

theorem done_start {pool : Pool τ} (new : Pool.new n = .ok pool) : Done panics n [] { pool } :=
  ⟨inTurn_start new, by simp [Pool.stopped_new new], fun _ => Pool.loop_new new, nofun⟩

theorem done_next (done : u.Done panics n cs) : u.next.Done panics n (cs ++ [.next]) := by
  have same (id : Nat) : Call.assigned n id 0 (cs ++ [.next]) = Call.assigned n id 0 cs :=
    Call.assigned_concat_idle rfl
  refine ⟨?_, done.stopped.trans (by simp), fun running id => ?_, fun closed id => ?_⟩
  · rw [List.countP_append]
    exact inTurn_next done.inTurn
  · rw [same]
    exact done.waiting (by simpa using running) id
  · rw [same]
    exact done.drained (by simpa using closed) id

theorem done_post (done : u.Done panics n cs) (k : Nat) (t : τ) :
    (u.post k t).Done panics n (cs ++ [.post k t]) := by
  obtain ⟨inTurn, stopped, waiting, drained⟩ := done
  have closed_iff : .shutdown ∈ cs ++ [Call.post k t] ↔ .shutdown ∈ cs :=
    Call.shutdown_mem_concat_post
  have counted := Call.countP_concat_post cs k t
  -- Nothing comes of it if the loop was not taken or the pool takes no tasks any more.
  by_cases takes : k < cs.countP Call.isNext ∧ .shutdown ∉ cs
  · obtain ⟨early, open'⟩ := takes
    have running : u.pool.stopped = false := by simpa using mt stopped.mp open'
    rw [post_eq inTurn, if_pos early]
    refine ⟨?_, ?_, fun _ id => ?_, fun closed => absurd (closed_iff.mp closed) open'⟩
    · rw [counted]
      exact inTurn.of_pool (Pool.size_post ..) (Pool.taken_post ..)
    · rw [Pool.stopped_post, stopped, closed_iff]
    · rw [Pool.loop_post running, waiting open', Call.assigned_append open', Nat.zero_add]
      split
      · next own => simp [RunLoop.post, Call.assigned, early, own]
      · next other => simp [Call.assigned, other]
  · have same : u.post k t = u := by
      rw [post_eq inTurn]
      split
      · next early =>
        have closed : .shutdown ∈ cs := by simpa [early] using takes
        rw [Pool.post, if_pos (stopped.mpr closed)]
      · rfl
    rw [same]
    refine ⟨counted ▸ inTurn, stopped.trans closed_iff.symm, fun running id => ?_, fun closed id => ?_⟩
    · have open' := mt closed_iff.mpr running
      have late : ¬k < cs.countP Call.isNext := fun early => takes ⟨early, open'⟩
      rw [waiting open', Call.assigned_append open']
      simp [Call.assigned, late]
    · rw [closed_iff] at closed
      rw [drained closed, Call.assigned_append_of_shutdown closed]

theorem done_shutdown (done : u.Done panics n cs) :
    Done panics n (cs ++ [.shutdown]) { u with pool := u.pool.shutdown panics } := by
  refine ⟨?_, by simp [Pool.shutdown], fun running => absurd (by simp) running, fun _ id => ?_⟩
  · rw [List.countP_append]
    exact done.inTurn.of_pool rfl rfl
  · have shut : (u.pool.shutdown panics).loop id = (u.pool.loop id).drain panics := Pool.loop_drain id
    rw [shut, Call.assigned_concat_idle rfl]
    by_cases closed : .shutdown ∈ cs
    · rw [done.drained closed, RunLoop.drain_drain]
    · rw [done.waiting closed]

theorem done_after {pool : Pool τ} (new : Pool.new n = .ok pool) (cs : List (Call τ)) :
    (after panics { pool } cs).Done panics n cs := by
  induction cs using List.reverseRecOn with
  | nil => exact done_start new
  | append_singleton cs c ih =>
    rw [after, Course.after_append]
    cases c with
    | next => exact done_next ih
    | post k t => exact done_post ih k t
    | shutdown => exact done_shutdown ih

end Use

end Pool

end CachingProxy
