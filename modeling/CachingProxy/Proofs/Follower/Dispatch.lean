import CachingProxy.Proofs.Flight.Orphans
import CachingProxy.Proofs.Follower.Loop
import CachingProxy.Proofs.Follower.Reading

namespace CachingProxy

variable {ω : Type} [DecidableEq ω]

namespace Flight

variable {f : Flight ω}

omit [DecidableEq ω] in
theorem join_idle (going : f.phase.isOver = false) (w : ω) : (f.join w).2 = [] := by
  unfold join
  split <;> simp_all [Phase.isOver]

omit [DecidableEq ω] in
theorem perform_over {m : Move ω} (past : f.phase.isOver = true) (leads : ∀ v, m ≠ .join v) :
    (f.perform m).2 = [] := by
  cases m with
  | setHead h => rfl
  | append b => rfl
  | flush last =>
    have idle : f.canFlush = false := by simp [canFlush, past]
    simp only [perform, flush_idle idle]
  | join v => exact absurd rfl (leads v)
  | abort => simp only [perform, abort_idle past]

end Flight

namespace Postings

variable {v w : ω} {t : Task} {ps qs : Postings ω}

@[simp] theorem tasksFor_nil : tasksFor w ([] : Postings ω) = [] := rfl

@[simp] theorem tasksFor_append : tasksFor w (ps ++ qs) = tasksFor w ps ++ tasksFor w qs := by
  simp [tasksFor]

theorem tasksFor_cons :
    tasksFor w ((v, t) :: ps) = if v = w then t :: tasksFor w ps else tasksFor w ps := by
  by_cases own : v = w <;> simp [tasksFor, own]

theorem tasksFor_singleton : tasksFor w [(v, t)] = if v = w then [t] else [] := tasksFor_cons

theorem tasksFor_eq_nil_iff : tasksFor w ps = [] ↔ deliveriesFor w ps = [] := by
  have some_delivery (t : Task) : t.deliveries ≠ [] := by
    obtain ⟨_ | h, _ | b, last⟩ | _ := t <;> simp [Task.deliveries]
  rw [← flatMap_tasksFor, List.flatMap_eq_nil_iff, List.eq_nil_iff_forall_not_mem]
  exact forall_congr' fun t => ⟨fun none mem => absurd mem none, fun all mem => some_delivery t (all mem)⟩

end Postings

/-- A flight whose tasks are executed by the loops of a pool. -/
structure Dispatch (ω : Type) where
  flight : Flight ω
  pool : Pool (ω × Task)
  /-- What the leader has still to post of its last operation. -/
  outgoing : Postings ω := []
  /-- What each newcomer has still to post for itself. -/
  arriving : ω → List Task := fun _ => []
  /-- What was posted so far, in order. -/
  posted : Postings ω := []

namespace Dispatch

inductive Event (ω : Type)
  /-- An operation of the leader, or the joining of a newcomer. -/
  | act (m : Flight.Move ω)
  | post
  | arrive (w : ω)
  | execute (id : Nat)

/-- The leader makes no move before it has posted all that came of the last one. -/
def canMake (s : Dispatch ω) : Flight.Move ω → Bool
  | .join _ => true
  | _ => s.outgoing.isEmpty

def make (s : Dispatch ω) (m : Flight.Move ω) : Dispatch ω :=
  let (flight, ps) := s.flight.perform m
  match m with
  | .join _ => { s with flight, arriving := fun v => s.arriving v ++ ps.tasksFor v }
  | _ => { s with flight, outgoing := ps }

variable (home : ω → Nat)

def postTo (s : Dispatch ω) (w : ω) (t : Task) : Dispatch ω :=
  { s with pool := s.pool.post (home w) (w, t), posted := s.posted ++ [(w, t)] }

def step (s : Dispatch ω) : Event ω → Dispatch ω
  | .act m => if s.canMake m then s.make m else s
  | .post =>
    match s.outgoing with
    | [] => s
    | (w, t) :: ps => { s.postTo home w t with outgoing := ps }
  | .arrive w =>
    match s.arriving w with
    | [] => s
    | t :: ts =>
      { s.postTo home w t with arriving := fun v => if v = w then ts else s.arriving v }
  | .execute id => { s with pool := s.pool.step id }

def after (s : Dispatch ω) (es : List (Event ω)) : Dispatch ω := Course.after (step home) s es

def making (s : Dispatch ω) : Event ω → List (Flight.Move ω)
  | .act m => if s.canMake m then [m] else []
  | _ => []

def moves (s : Dispatch ω) (es : List (Event ω)) : List (Flight.Move ω) :=
  Course.noted (step home) making s es

def start (key : String) (pool : Pool (ω × Task)) : Dispatch ω := { flight := { key }, pool }

def received (s : Dispatch ω) (w : ω) : List Delivery :=
  Postings.deliveriesFor w (s.pool.loop (home w)).executed

/-- Nothing is on the way to a follower any more. -/
structure Settled (s : Dispatch ω) (w : ω) : Prop where
  outgoing : s.outgoing.tasksFor w = []
  arriving : s.arriving w = []
  queued : (s.pool.loop (home w)).queued = []

variable {home} {s : Dispatch ω} {w : ω}

/-- Each loop has, executed or waiting, what was posted for the followers that are pinned to it. -/
structure Pinned (home : ω → Nat) (s : Dispatch ω) : Prop where
  running : s.pool.stopped = false
  loops : ∀ id, (s.pool.loop id).Took (fun _ => false) (s.posted.filter fun p => home p.1 = id)

omit [DecidableEq ω] in
theorem pinned_postTo (pinned : s.Pinned home) (v : ω) (t : Task) :
    (s.postTo home v t).Pinned home := by
  refine ⟨by simpa [postTo] using pinned.running, fun id => ?_⟩
  have took := Pool.took_post pinned.running (pinned.loops id) (home v) (v, t)
  by_cases here : home v = id <;> simpa [postTo, here] using took

omit [DecidableEq ω] in
theorem pinned_execute (pinned : s.Pinned home) (id : Nat) :
    Pinned home { s with pool := s.pool.step id } :=
  ⟨pinned.running, fun j => Pool.took_step (pinned.loops j) id⟩

theorem pinned_step (pinned : s.Pinned home) (e : Event ω) : (s.step home e).Pinned home := by
  cases e with
  | act m =>
    simp only [step]
    split
    · cases m <;> exact ⟨pinned.running, pinned.loops⟩
    · exact pinned
  | post =>
    simp only [step]
    split
    · exact pinned
    · next w t ps _ => exact ⟨(pinned_postTo pinned w t).running, (pinned_postTo pinned w t).loops⟩
  | arrive v =>
    simp only [step]
    split
    · exact pinned
    · next t ts _ => exact ⟨(pinned_postTo pinned v t).running, (pinned_postTo pinned v t).loops⟩
  | execute id => exact pinned_execute pinned id

omit [DecidableEq ω] in
theorem pinned_start {size : Nat} {pool : Pool (ω × Task)} (new : Pool.new size = .ok pool)
    (key : String) : (start key pool).Pinned home :=
  ⟨Pool.stopped_new new, fun id => by simpa [start, Pool.loop_new new] using RunLoop.took_new⟩

theorem Pinned.deliveries (pinned : s.Pinned home) (w : ω) :
    s.received home w ++ Postings.deliveriesFor w (s.pool.loop (home w)).queued =
      Postings.deliveriesFor w s.posted := by
  rw [received, ← Postings.deliveriesFor_append, (pinned.loops _).whole, Postings.deliveriesFor,
    List.filter_filter, Postings.deliveriesFor]
  congr 1
  apply List.filter_congr
  intro p _
  by_cases own : p.1 = w <;> simp [own]

/-- What the moves so far hand to a follower was posted, or is still to be posted: by the follower
itself if it came after the end, and otherwise by the leader. -/
structure Underway (key : String) (ms : List (Flight.Move ω)) (w : ω) (s : Dispatch ω) : Prop where
  flight : s.flight = Flight.after { key } ms
  tasks : s.posted.tasksFor w ++ s.arriving w ++ s.outgoing.tasksFor w =
    Postings.tasksFor w (Flight.posted { key } ms)
  late : s.arriving w = [] ∨ s.outgoing.tasksFor w = [] ∧ s.flight.phase.isOver = true

variable {key : String} {ms : List (Flight.Move ω)} {m : Flight.Move ω}

theorem underway_join (under : s.Underway key ms w) {v : ω}
    (once : (Flight.joiners (ms ++ [.join v])).count w ≤ 1) :
    (s.make (.join v)).Underway key (ms ++ [.join v]) w := by
  obtain ⟨flight, tasks, late⟩ := under
  have grows : Postings.tasksFor w (Flight.posted { key } (ms ++ [.join v])) =
      Postings.tasksFor w (Flight.posted { key } ms) ++
        Postings.tasksFor w (s.flight.perform (.join v)).2 := by
    rw [Flight.posted_append, Postings.tasksFor_append, ← flight]
    simp
  have flight' : (s.flight.perform (.join v)).1 = Flight.after { key } (ms ++ [.join v]) := by
    rw [Flight.after_append, ← flight]
    rfl
  have over_still (past : s.flight.phase.isOver = true) :
      (s.flight.perform (.join v)).1.phase.isOver = true := Flight.isOver_step _ past
  by_cases own : v = w
  · subst own
    have absent : v ∉ Flight.joiners ms := by
      rw [Flight.joiners_append, List.count_append] at once
      exact List.count_eq_zero.mp (by simpa [Flight.joiners] using once)
    have nothing : Postings.tasksFor v (Flight.posted { key } ms) = [] :=
      Postings.tasksFor_eq_nil_iff.mpr (Flight.absent_after (f := { key }) rfl absent).2
    obtain ⟨unposted, unarrived, unsent⟩ : s.posted.tasksFor v = [] ∧ s.arriving v = [] ∧
        s.outgoing.tasksFor v = [] := by
      simpa [nothing] using tasks
    refine ⟨flight', ?_, ?_⟩
    · rw [grows, nothing]
      simp [make, unposted, unarrived, unsent]
    · cases past : s.flight.phase.isOver with
      | true => exact .inr ⟨unsent, over_still past⟩
      | false => exact .inl (by simp [make, unarrived, Flight.perform, Flight.join_idle past])
  · have nothing : Postings.tasksFor w (s.flight.perform (.join v)).2 = [] :=
      Postings.tasksFor_eq_nil_iff.mpr (Flight.deliveriesFor_join_ne own)
    refine ⟨flight', ?_, ?_⟩
    · rw [grows, nothing, List.append_nil, ← tasks]
      simp [make, nothing]
    · simp only [make, nothing, List.append_nil]
      exact late.imp_right (And.imp_right over_still)

theorem underway_lead (under : s.Underway key ms w) (leads : ∀ v, m ≠ .join v)
    (ready : s.outgoing = []) : (s.make m).Underway key (ms ++ [m]) w := by
  obtain ⟨flight, tasks, late⟩ := under
  have made : s.make m =
      { s with flight := (s.flight.perform m).1, outgoing := (s.flight.perform m).2 } := by
    cases m with
    | join v => exact absurd rfl (leads v)
    | setHead _ | append _ | flush _ | abort => rfl
  rw [made]
  refine ⟨?_, ?_, ?_⟩
  · rw [Flight.after_append, ← flight]
    rfl
  · rw [Flight.posted_append, Postings.tasksFor_append, ← tasks, ready, ← flight]
    simp
  · apply late.imp_right
    rintro ⟨-, past⟩
    refine ⟨?_, Flight.isOver_step m past⟩
    rw [Flight.perform_over past leads, Postings.tasksFor_nil]

theorem underway_post (under : s.Underway key ms w) :
    (s.step home .post).Underway key ms w := by
  obtain ⟨flight, tasks, late⟩ := under
  simp only [step]
  split
  · exact ⟨flight, tasks, late⟩
  · next v t ps next_up =>
    rw [next_up, Postings.tasksFor_cons] at tasks late
    refine ⟨flight, ?_, ?_⟩
    · by_cases own : v = w
      · have unarrived : s.arriving w = [] := by simpa [own] using late
        simpa [postTo, own, unarrived, Postings.tasksFor_singleton] using tasks
      · simpa [postTo, own, Postings.tasksFor_singleton] using tasks
    · apply late.imp_right
      rintro ⟨unsent, past⟩
      refine ⟨?_, past⟩
      split at unsent
      · cases unsent
      · exact unsent

theorem underway_arrive (under : s.Underway key ms w) (v : ω) :
    (s.step home (.arrive v)).Underway key ms w := by
  obtain ⟨flight, tasks, late⟩ := under
  simp only [step]
  split
  · exact ⟨flight, tasks, late⟩
  · next t ts next_up =>
    refine ⟨flight, ?_, ?_⟩
    · by_cases own : v = w
      · subst own
        rw [next_up] at tasks
        simpa [postTo, Postings.tasksFor_singleton] using tasks
      · simpa [postTo, own, Ne.symm own, Postings.tasksFor_singleton] using tasks
    · by_cases own : v = w
      · subst own
        exact .inr (late.resolve_left (by simp [next_up]))
      · simpa [postTo, Ne.symm own] using late

theorem underway_start (key : String) (pool : Pool (ω × Task)) (w : ω) :
    (start key pool).Underway key [] w :=
  ⟨rfl, rfl, .inl rfl⟩

theorem underway_step (under : s.Underway key ms w) (e : Event ω)
    (once : (Flight.joiners (ms ++ s.making e)).count w ≤ 1) :
    (s.step home e).Underway key (ms ++ s.making e) w := by
  cases e with
  | act m =>
    simp only [step, making] at once ⊢
    cases can : s.canMake m with
    | false => simpa using under
    | true =>
      simp only [can, if_true] at once ⊢
      cases m with
      | join v => exact underway_join under once
      | setHead _ | append _ | flush _ | abort =>
        exact underway_lead under nofun (List.isEmpty_iff.mp can)
  | post => simpa [making] using underway_post under
  | arrive v => simpa [making] using underway_arrive under v
  | execute id => simpa [making] using ⟨under.flight, under.tasks, under.late⟩

theorem underway_after (home : ω → Nat) (key : String) (pool : Pool (ω × Task))
    {es : List (Event ω)} (once : (Flight.joiners (moves home (start key pool) es)).count w ≤ 1) :
    (after home (start key pool) es).Underway key (moves home (start key pool) es) w := by
  induction es using List.reverseRecOn with
  | nil => exact underway_start key pool w
  | append_singleton es e ih =>
    have last : after home (start key pool) (es ++ [e]) =
        (after home (start key pool) es).step home e := Course.after_append (step home) _ es [e]
    have grows : moves home (start key pool) (es ++ [e]) =
        moves home (start key pool) es ++ (after home (start key pool) es).making e :=
      Course.noted_concat (step home) making (start key pool) es e
    rw [grows] at once ⊢
    rw [last]
    have before : (Flight.joiners (moves home (start key pool) es)).count w ≤ 1 := by
      rw [Flight.joiners_append, List.count_append] at once
      omega
    exact underway_step (ih before) e once

theorem Underway.posted_begins (under : s.Underway key ms w) :
    Postings.deliveriesFor w s.posted <+: Postings.deliveriesFor w (Flight.posted { key } ms) := by
  rw [← Postings.flatMap_tasksFor, ← Postings.flatMap_tasksFor, ← under.tasks, List.append_assoc,
    List.flatMap_append]
  exact List.prefix_append _ _

theorem Underway.posted_eq (under : s.Underway key ms w) (unsent : s.outgoing.tasksFor w = [])
    (unarrived : s.arriving w = []) :
    Postings.deliveriesFor w s.posted = Postings.deliveriesFor w (Flight.posted { key } ms) := by
  rw [← Postings.flatMap_tasksFor, ← Postings.flatMap_tasksFor, ← under.tasks, unsent, unarrived,
    List.append_nil, List.append_nil]

/-- What was delivered to a follower so far, compared with what was posted for it. -/
structure InOrder (home : ω → Nat) (w : ω) (s : Dispatch ω) : Prop where
  /-- No loop but its own delivers anything to a follower. -/
  own : ∀ id, id ≠ home w → Postings.deliveriesFor w (s.pool.loop id).executed = []
  part : s.received home w <+: Postings.deliveriesFor w s.posted
  whole : (s.pool.loop (home w)).queued = [] →
    s.received home w = Postings.deliveriesFor w s.posted
  /-- Once the loops have executed all that waits, it has everything. -/
  drained : { s with pool := s.pool.drain }.received home w = Postings.deliveriesFor w s.posted

theorem Pinned.inOrder (pinned : s.Pinned home) (w : ω) : s.InOrder home w := by
  have all := pinned.deliveries w
  refine ⟨fun id foreign => ?_, ⟨_, all⟩, fun empty => ?_, ?_⟩
  · apply Postings.deliveriesFor_eq_nil
    rintro p mem rfl
    have posted : p ∈ s.posted.filter fun p => home p.1 = id :=
      (pinned.loops id).whole ▸ List.mem_append_left _ mem
    have here : home p.1 = id := by simpa using (List.mem_filter.mp posted).2
    exact foreign here.symm
  · rwa [empty, Postings.deliveriesFor_nil, List.append_nil] at all
  · rw [← all]
    have queued : RunLoop.through (fun _ => false) (s.pool.loop (home w)).queued =
        (s.pool.loop (home w)).queued := RunLoop.through_eq_self (by simp)
    simp only [received, Pool.loop_drain, RunLoop.drain, queued, Postings.deliveriesFor_append]

/-- For every pool, every way to pin followers to its loops and every schedule: what a follower was
handed so far begins what was posted for it, all of that by its own loop and in the order of posting,
and nothing is missing once the loop has no task left. For a follower that joins at most once, what
was posted for it begins what the flight would have handed over at once, and once nothing is on the
way any more it has been handed just that. So it is handed the same under any two schedules in which
the same moves are made. -/
theorem received_in_order (key : String) {size : Nat} {pool : Pool (ω × Task)}
    (new : Pool.new size = .ok pool) (home : ω → Nat) (es : List (Event ω)) (w : ω) :
    (after home (start key pool) es).InOrder home w ∧
    ((Flight.joiners (moves home (start key pool) es)).count w ≤ 1 →
      Postings.deliveriesFor w (after home (start key pool) es).posted <+:
        Postings.deliveriesFor w (Flight.posted { key } (moves home (start key pool) es)) ∧
      ((after home (start key pool) es).Settled home w →
        (after home (start key pool) es).received home w =
          Postings.deliveriesFor w (Flight.posted { key } (moves home (start key pool) es)) ∧
        ∀ size' pool', Pool.new size' = .ok pool' → ∀ (home' : ω → Nat) (es' : List (Event ω)),
          moves home' (start key pool') es' = moves home (start key pool) es →
          (after home' (start key pool') es').Settled home' w →
          (after home' (start key pool') es').received home' w =
            (after home (start key pool) es).received home w)) := by
  have pinned {size pool} (new : Pool.new size = .ok pool) (home : ω → Nat) (es : List (Event ω)) :
      (after home (start key pool) es).Pinned home :=
    Course.after_keeps (P := Pinned home) (fun _ e h => pinned_step h e) (pinned_start new key) es
  -- A follower on whose way nothing is left has what the moves alone determine.
  have inline {size pool} (new : Pool.new size = .ok pool) (home : ω → Nat) (es : List (Event ω))
      (once : (Flight.joiners (moves home (start key pool) es)).count w ≤ 1)
      (settled : (after home (start key pool) es).Settled home w) :
      (after home (start key pool) es).received home w =
        Postings.deliveriesFor w (Flight.posted { key } (moves home (start key pool) es)) := by
    rw [((pinned new home es).inOrder w).whole settled.queued]
    exact (underway_after home key pool once).posted_eq settled.outgoing settled.arriving
  refine ⟨(pinned new home es).inOrder w, fun once => ⟨?_, fun settled => ⟨?_, ?_⟩⟩⟩
  · exact (underway_after home key pool once).posted_begins
  · exact inline new home es once settled
  · intro size' pool' new' home' es' same settled'
    rw [inline new home es once settled, inline new' home' es' (same ▸ once) settled', same]

/-- Two followers at the same loop. The second joins while a task for the first is still to be
posted, and the leader's last flush finds it in time; at two loops, with the tasks executed earlier,
both are handed the same. -/
theorem received_in_order_while_posting :
    ∃ pool, Pool.new 2 = .ok pool ∧
      (after (fun _ : Nat => 0) (start "k" pool) [.act (.join 0), .act (.setHead ⟨.ok, []⟩),
        .act (.append [1]), .act (.flush false), .act (.join 1), .act (.append [2]), .post, .arrive 1,
        .act (.append [2]), .act (.flush true), .post, .execute 0, .post, .execute 0,
        .execute 0]).received (fun _ => 0) 1 = [.head ⟨.ok, []⟩ false, .chunk [1, 2] true] ∧
      (after id (start "k" pool) [.act (.join 0), .act (.setHead ⟨.ok, []⟩), .act (.append [1]),
        .act (.flush false), .post, .execute 0, .act (.join 1), .act (.append [2]),
        .act (.flush true), .post, .post, .execute 1, .execute 0]).received id 1 =
        [.head ⟨.ok, []⟩ false, .chunk [1, 2] true] := by
  have new : Pool.new 2 = .ok (⟨2, by decide, .empty, 0, false⟩ : Pool (Nat × Task)) := rfl
  have handed : (after (fun _ : Nat => 0) (start "k" ⟨2, by decide, .empty, 0, false⟩)
      [.act (.join 0), .act (.setHead ⟨.ok, []⟩), .act (.append [1]), .act (.flush false),
        .act (.join 1), .act (.append [2]), .post, .arrive 1, .act (.append [2]), .act (.flush true),
        .post, .execute 0, .post, .execute 0, .execute 0]).received (fun _ => 0) 1 =
      [.head ⟨.ok, []⟩ false, .chunk [1, 2] true] := by decide
  refine ⟨_, new, handed, ?_⟩
  obtain ⟨-, independent⟩ := received_in_order "k" new (fun _ : Nat => 0) [.act (.join 0),
    .act (.setHead ⟨.ok, []⟩), .act (.append [1]), .act (.flush false), .act (.join 1),
    .act (.append [2]), .post, .arrive 1, .act (.append [2]), .act (.flush true), .post, .execute 0,
    .post, .execute 0, .execute 0] 1
  obtain ⟨-, settled⟩ := independent (by decide)
  obtain ⟨-, same⟩ := settled ⟨rfl, rfl, rfl⟩
  rw [← handed]
  exact same 2 _ new id _ (by decide) ⟨rfl, rfl, rfl⟩

end Dispatch
end CachingProxy
