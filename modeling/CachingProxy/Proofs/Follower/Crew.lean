import CachingProxy.Proofs.Follower.Calls

namespace CachingProxy

open Pool (Call Use)

inductive Message (τ : Type)
  | run (t : τ)
  | stop

namespace Message

variable {τ : Type} {panics : τ → Bool} {ms ns : List (Message τ)}

/-- Whether a loop's thread ends when it takes up this message. -/
def ends (panics : τ → Bool) : Message τ → Bool
  | run t => panics t
  | stop => true

def tasks : List (Message τ) → List τ
  | [] => []
  | run t :: ms => t :: tasks ms
  | stop :: _ => []

theorem tasks_append (running : stop ∉ ms) : tasks (ms ++ ns) = tasks ms ++ tasks ns := by
  induction ms with
  | nil => rfl
  | cons m ms ih =>
    cases m with
    | run t =>
      exact congrArg (t :: ·) (ih fun later => running (List.mem_cons_of_mem _ later))
    | stop => exact absurd List.mem_cons_self running

theorem tasks_append_of_stop (stopped : stop ∈ ms) : tasks (ms ++ ns) = tasks ms := by
  induction ms with
  | nil => cases stopped
  | cons m ms ih =>
    cases m with
    | run t => exact congrArg (t :: ·) (ih (by simpa using stopped))
    | stop => rfl

theorem tasks_prefix (part : ms <+: ns) : tasks ms <+: tasks ns := by
  obtain ⟨rest, rfl⟩ := part
  by_cases stopped : stop ∈ ms
  · exact tasks_append_of_stop stopped ▸ List.prefix_rfl
  · exact tasks_append stopped ▸ List.prefix_append _ _

theorem tasks_through : tasks (RunLoop.through (ends panics) ms) =
    RunLoop.through panics (tasks ms) := by
  induction ms with
  | nil => rfl
  | cons m ms ih =>
    cases m with
    | stop => rfl
    | run t => cases ending : panics t <;> simp [RunLoop.through, ends, tasks, ending, ih]

theorem not_mem_of_returned (returned : ms.any (ends panics) = false) : stop ∉ ms :=
  fun mem => by simpa [ends] using List.any_eq_false.mp returned stop mem

end Message

/-- A pool whose loops are told to stop by messages in their queues. -/
structure Crew (τ : Type) extends Use (Message τ) where
  /-- The loops that the shutdown in progress has still to tell. -/
  untold : List Nat := []
  /-- The tasks that were executed, each with the name of the thread that did it. -/
  log : List (String × τ) := []

namespace Crew

inductive Event (τ : Type)
  | call (c : Call τ)
  /-- The next loop is told to stop. -/
  | tell
  /-- A loop takes up the message that has waited longest there. -/
  | turn (id : Nat)

variable {τ : Type}

def Event.isTurn (id : Nat) : Event τ → Bool
  | turn i => i = id
  | _ => false

def hasEnded (s : Crew τ) (id : Nat) : Bool := (s.pool.loop id).dead

/-- All threads have ended, which is what a shutdown waits for. -/
def Ended (s : Crew τ) : Prop := ∀ id < s.pool.size, s.hasEnded id = true

instance (s : Crew τ) : Decidable s.Ended := inferInstanceAs (Decidable (∀ id < s.pool.size, _))

def make (s : Crew τ) : Call τ → Crew τ
  | .next => { s with toUse := s.toUse.next }
  | .post k t => { s with toUse := s.toUse.post k (.run t) }
  | .shutdown => { s with untold := List.range s.pool.size }

def tell (s : Crew τ) : Crew τ :=
  match s.untold with
  | [] => s
  | id :: ids => { s with pool := s.pool.post id .stop, untold := ids }

variable (panics : τ → Bool)

def turn (s : Crew τ) (id : Nat) : Crew τ :=
  { s with
    pool := s.pool.step id (Message.ends panics)
    log := s.log ++ (Message.tasks ((s.pool.loop id).queued.take 1)).map (RunLoop.threadName id, ·) }

/-- Whoever shuts the pool down asks nothing else of it before all loops are told. -/
def step (s : Crew τ) : Event τ → Crew τ
  | .call c => if s.untold = [] then s.make c else s
  | .tell => s.tell
  | .turn id => s.turn panics id

def after (s : Crew τ) (es : List (Event τ)) : Crew τ := Course.after (step panics) s es

def calling (s : Crew τ) : Event τ → List (Call τ)
  | .call c => if s.untold = [] then [c] else []
  | .tell => []
  | .turn _ => []

def calls (s : Crew τ) (es : List (Event τ)) : List (Call τ) := Course.noted (step panics) calling s es

/-- What was sent to a loop: the tasks that were assigned to it, and the word to stop once it was told. -/
structure Sent (size : Nat) (cs : List (Call τ)) (untold : List Nat) (id : Nat)
    (ms : List (Message τ)) : Prop where
  tasks : Message.tasks ms = Call.assigned size id 0 cs
  told : .shutdown ∈ cs → id < size → id ∈ untold ∨ .stop ∈ ms
  before : .shutdown ∉ cs → .stop ∉ ms

structure Sound (size : Nat) (cs : List (Call τ)) (s : Crew τ) : Prop where
  inTurn : s.InTurn size (cs.countP Call.isNext)
  running : s.pool.stopped = false
  free : .shutdown ∉ cs → s.untold = []
  loops : ∀ id, ∃ ms, Sent size cs s.untold id ms ∧ (s.pool.loop id).Took (Message.ends panics) ms
  log : ∀ id, s.log.filter (·.1 = RunLoop.threadName id) =
    (Message.tasks (s.pool.loop id).executed).map (RunLoop.threadName id, ·)
  threads : ∀ p ∈ s.log, ∃ id, p.1 = RunLoop.threadName id

variable {panics} {size : Nat} {cs : List (Call τ)} {s : Crew τ} {id : Nat} {untold : List Nat}
  {ms : List (Message τ)}

theorem sound_start {pool : Pool (Message τ)} (new : Pool.new size = .ok pool) :
    Sound panics size [] { pool : Crew τ } := by
  have fresh (id : Nat) : pool.loop id = {} := Pool.loop_new new id
  refine ⟨Use.inTurn_start new, Pool.stopped_new new, fun _ => rfl, fun id => ⟨[], ?_, ?_⟩, ?_, nofun⟩
  · exact ⟨rfl, nofun, fun _ => List.not_mem_nil⟩
  · exact fresh id ▸ RunLoop.took_new
  · simp [fresh, Message.tasks]

theorem sent_next (sent : Sent size cs untold id ms) : Sent size (cs ++ [.next]) untold id ms :=
  ⟨sent.tasks.trans (Call.assigned_concat_idle rfl).symm, fun closed => sent.told (by simpa using closed),
    fun running => sent.before (by simpa using running)⟩

theorem sound_next (sound : s.Sound panics size cs) :
    (s.make .next).Sound panics size (cs ++ [.next]) := by
  refine ⟨?_, sound.running, fun running => sound.free (by simpa using running), fun id => ?_, sound.log,
    sound.threads⟩
  · rw [List.countP_append]
    exact Use.inTurn_next sound.inTurn
  · obtain ⟨ms, sent, took⟩ := sound.loops id
    exact ⟨ms, sent_next sent, took⟩

theorem sent_post (positive : 0 < size) {k : Nat} (early : k < cs.countP Call.isNext) (t : τ)
    (sent : Sent size cs [] id ms) : Sent size (cs ++ [.post k t]) [] id
      (if k % size = id then ms ++ [.run t] else ms) := by
  have closed_iff : .shutdown ∈ cs ++ [Call.post k t] ↔ .shutdown ∈ cs :=
    Call.shutdown_mem_concat_post
  refine ⟨?_, fun closed among => ?_, fun running => ?_⟩
  · by_cases closed : .shutdown ∈ cs
    · rw [Call.assigned_append_of_shutdown closed, ← sent.tasks]
      split
      · next own =>
        have stopped := (sent.told closed (own ▸ Nat.mod_lt k positive)).resolve_left List.not_mem_nil
        exact Message.tasks_append_of_stop stopped
      · rfl
    · rw [Call.assigned_append closed, ← sent.tasks, Nat.zero_add]
      split
      · next own =>
        rw [Message.tasks_append (sent.before closed)]
        simp [Call.assigned, Message.tasks, early, own]
      · next other => simp [Call.assigned, other]
  · have stopped := (sent.told (closed_iff.mp closed) among).resolve_left List.not_mem_nil
    right
    split
    · exact List.mem_append_left _ stopped
    · exact stopped
  · have silent := sent.before (mt closed_iff.mpr running)
    split
    · simpa using silent
    · exact silent

theorem sound_post (positive : 0 < size) (sound : s.Sound panics size cs) (free : s.untold = [])
    (k : Nat) (t : τ) : (s.make (.post k t)).Sound panics size (cs ++ [.post k t]) := by
  have counted := Call.countP_concat_post cs k t
  rw [make, Use.post_eq sound.inTurn]
  by_cases early : k < cs.countP Call.isNext
  · rw [if_pos early]
    refine ⟨?_, (Pool.stopped_post ..).trans sound.running, fun _ => free, fun id => ?_, fun id => ?_,
      sound.threads⟩
    · rw [counted]
      exact sound.inTurn.of_pool (Pool.size_post ..) (Pool.taken_post ..)
    · obtain ⟨ms, sent, took⟩ := sound.loops id
      rw [free] at sent ⊢
      exact ⟨_, sent_post positive early t sent, Pool.took_post sound.running took ..⟩
    · exact (sound.log id).trans (by rw [Pool.executed_post sound.running])
  · -- Nobody has the handle.
    rw [if_neg early]
    have same (id : Nat) : Call.assigned size id 0 (cs ++ [.post k t]) = Call.assigned size id 0 cs :=
      Call.assigned_concat_idle (by simp [Call.assigned, early])
    have closed_iff : .shutdown ∈ cs ++ [Call.post k t] ↔ .shutdown ∈ cs :=
      Call.shutdown_mem_concat_post
    refine ⟨counted ▸ sound.inTurn, sound.running, fun _ => free, fun id => ?_, sound.log,
      sound.threads⟩
    obtain ⟨ms, sent, took⟩ := sound.loops id
    refine ⟨ms, ⟨sent.tasks.trans (same id).symm, ?_, ?_⟩, took⟩
    · exact fun closed => sent.told (closed_iff.mp closed)
    · exact fun running => sent.before (mt closed_iff.mpr running)

theorem sound_shutdown (sound : s.Sound panics size cs) :
    (s.make .shutdown).Sound panics size (cs ++ [.shutdown]) := by
  have closed : .shutdown ∈ cs ++ [Call.shutdown] := List.mem_append_right cs List.mem_cons_self
  refine ⟨?_, sound.running, fun running => absurd closed running, fun id => ?_, sound.log,
    sound.threads⟩
  · rw [List.countP_append]
    exact sound.inTurn
  · obtain ⟨ms, sent, took⟩ := sound.loops id
    refine ⟨ms, ⟨sent.tasks.trans (Call.assigned_concat_idle rfl).symm, fun _ among => ?_, ?_⟩, took⟩
    · exact .inl (List.mem_range.mpr (sound.inTurn.size ▸ among))
    · exact fun running => absurd closed running

theorem sent_tell {next : Nat} {ids : List Nat} (closed : .shutdown ∈ cs)
    (sent : Sent size cs (next :: ids) id ms) :
    Sent size cs ids id (if next = id then ms ++ [.stop] else ms) := by
  refine ⟨?_, fun _ among => ?_, absurd closed⟩
  · rw [← sent.tasks]
    split
    · by_cases stopped : .stop ∈ ms
      · exact Message.tasks_append_of_stop stopped
      · rw [Message.tasks_append stopped]
        exact List.append_nil _
    · rfl
  · obtain waiting | stopped := sent.told closed among
    · obtain rfl | later := List.mem_cons.mp waiting
      · simp
      · exact .inl later
    · right
      split
      · exact List.mem_append_left _ stopped
      · exact stopped

theorem sound_tell (sound : s.Sound panics size cs) : s.tell.Sound panics size cs := by
  unfold tell
  cases untold : s.untold with
  | nil => exact sound
  | cons next ids =>
    have closed : .shutdown ∈ cs := by
      by_contra running
      simp [sound.free running] at untold
    refine ⟨sound.inTurn.of_pool (Pool.size_post ..) (Pool.taken_post ..),
      (Pool.stopped_post ..).trans sound.running, absurd closed, fun id => ?_, fun id => ?_,
      sound.threads⟩
    · obtain ⟨ms, sent, took⟩ := sound.loops id
      rw [untold] at sent
      exact ⟨_, sent_tell closed sent, Pool.took_post sound.running took ..⟩
    · exact (sound.log id).trans (by rw [Pool.executed_post sound.running])

theorem stop_not_mem (sound : s.Sound panics size cs) (going : s.hasEnded id = false) :
    .stop ∉ (s.pool.loop id).executed := by
  obtain ⟨ms, -, took⟩ := sound.loops id
  exact Message.not_mem_of_returned (took.returned going)

theorem sound_turn (sound : s.Sound panics size cs) (i : Nat) :
    (s.turn panics i).Sound panics size cs := by
  refine ⟨sound.inTurn.of_pool rfl rfl, sound.running, sound.free, fun id => ?_, fun id => ?_, ?_⟩
  · obtain ⟨ms, sent, took⟩ := sound.loops id
    exact ⟨ms, sent, Pool.took_step took i⟩
  · rw [turn, List.filter_append, sound.log, Pool.loop_step]
    by_cases own : i = id
    · subst own
      rw [if_pos rfl, RunLoop.executed_step]
      cases ended : s.hasEnded i with
      | false =>
        rw [Message.tasks_append (stop_not_mem sound ended), List.map_append]
        simp
      | true =>
        obtain ⟨ms, -, took⟩ := sound.loops i
        simp [took.lost ended, Message.tasks]
    · rw [if_neg own]
      simp [RunLoop.threadName_inj, own]
  · intro p mem
    rw [turn, List.mem_append] at mem
    obtain earlier | new := mem
    · exact sound.threads p earlier
    · obtain ⟨t, -, rfl⟩ := List.mem_map.mp new
      exact ⟨i, rfl⟩

theorem sound_step (positive : 0 < size) (sound : s.Sound panics size cs) (e : Event τ) :
    (s.step panics e).Sound panics size (cs ++ s.calling e) := by
  cases e with
  | call c =>
    by_cases free : s.untold = []
    · simp only [step, calling, if_pos free]
      cases c with
      | next => exact sound_next sound
      | post k t => exact sound_post positive sound free k t
      | shutdown => exact sound_shutdown sound
    · simpa only [step, calling, if_neg free, List.append_nil] using sound
  | tell => exact (List.append_nil cs).symm ▸ sound_tell sound
  | turn id => exact (List.append_nil cs).symm ▸ sound_turn sound id

theorem sound_after (positive : 0 < size) (sound : s.Sound panics size cs) (es : List (Event τ)) :
    (s.after panics es).Sound panics size (cs ++ s.calls panics es) := by
  induction es generalizing s cs with
  | nil => exact (List.append_nil cs).symm ▸ sound
  | cons e es ih => simpa [after, calls] using ih (sound_step positive sound e)

theorem loop_step (sound : s.Sound panics size cs) (e : Event τ) (id : Nat) :
    (e.isTurn id = false ∧ ∃ ms, (s.step panics e).pool.loop id =
      { s.pool.loop id with queued := (s.pool.loop id).queued ++ ms }) ∨
    (e.isTurn id = true ∧
      (s.step panics e).pool.loop id = (s.pool.loop id).step (Message.ends panics)) := by
  have posted (i : Nat) (m : Message τ) : ∃ ms, (s.pool.post i m).loop id =
      { s.pool.loop id with queued := (s.pool.loop id).queued ++ ms } := by
    rw [Pool.loop_post sound.running, RunLoop.post]
    split
    · split
      · exact ⟨[], by simp⟩
      · exact ⟨[m], rfl⟩
    · exact ⟨[], by simp⟩
  cases e with
  | call c =>
    refine .inl ⟨rfl, ?_⟩
    simp only [step]
    split
    · cases c with
      | next => exact ⟨[], by simp [make, Use.next, Pool.next, Pool.loop]⟩
      | post k t =>
        rw [make, Use.post_eq sound.inTurn]
        split
        · exact posted _ _
        · exact ⟨[], by simp⟩
      | shutdown => exact ⟨[], by simp [make]⟩
    · exact ⟨[], by simp⟩
  | tell =>
    refine .inl ⟨rfl, ?_⟩
    simp only [step, tell]
    split
    · exact ⟨[], by simp⟩
    · exact posted _ _
  | turn i =>
    by_cases own : i = id
    · exact .inr ⟨decide_eq_true own, by rw [step, turn, Pool.loop_step, if_pos own]⟩
    · exact .inl ⟨decide_eq_false own, [], by simp [step, turn, Pool.loop_step, own]⟩

theorem hasEnded_step (sound : s.Sound panics size cs) (ended : s.hasEnded id = true) (e : Event τ) :
    (s.step panics e).hasEnded id = true := by
  obtain ⟨ms, -, took⟩ := sound.loops id
  obtain ⟨-, ns, same⟩ | ⟨-, stepped⟩ := loop_step sound e id
  · rw [hasEnded, same]
    exact ended
  · rw [hasEnded, stepped]
    exact RunLoop.dead_step took ended

theorem hasEnded_after (positive : 0 < size) (sound : s.Sound panics size cs)
    (ended : s.hasEnded id = true) (es : List (Event τ)) : (s.after panics es).hasEnded id = true := by
  induction es generalizing s cs with
  | nil => exact ended
  | cons e es ih => exact ih (sound_step positive sound e) (hasEnded_step sound ended e)

theorem hasEnded_in_time (positive : 0 < size) (sound : s.Sound panics size cs) {n : Nat}
    (waiting : ((s.pool.loop id).queued.take n).any (Message.ends panics) = true) {es : List (Event τ)}
    (enough : n ≤ es.countP (Event.isTurn id)) : (s.after panics es).hasEnded id = true := by
  induction es generalizing s cs n with
  | nil =>
    obtain rfl : n = 0 := Nat.le_zero.mp enough
    cases waiting
  | cons e es ih =>
    have next := sound_step positive sound e
    obtain ⟨other, ms, longer⟩ | ⟨own, stepped⟩ := loop_step sound e id
    · rw [List.countP_cons_of_neg (by simp [other])] at enough
      refine ih next ?_ enough
      rw [longer, List.take_append, List.any_append, waiting, Bool.true_or]
    · rw [List.countP_cons_of_pos own] at enough
      obtain ⟨n, rfl⟩ : ∃ m, n = m + 1 :=
        Nat.exists_eq_succ_of_ne_zero fun none => by simp [none] at waiting
      cases queued : (s.pool.loop id).queued with
      | nil => simp [queued] at waiting
      | cons m ms =>
        rw [queued, List.take_succ_cons, List.any_cons] at waiting
        cases ending : m.ends panics with
        | true =>
          rw [RunLoop.step_of_ends queued ending] at stepped
          exact hasEnded_after positive next (congrArg RunLoop.dead stepped) es
        | false =>
          rw [RunLoop.step_of_returns queued ending] at stepped
          refine ih next ?_ (Nat.le_of_succ_le_succ enough)
          rw [stepped]
          simpa [ending] using waiting

def ran (s : Crew τ) (id : Nat) : List τ :=
  (s.log.filter (·.1 = RunLoop.threadName id)).map (·.2)

theorem ran_eq (sound : s.Sound panics size cs) (id : Nat) :
    s.ran id = Message.tasks (s.pool.loop id).executed := by
  simp [ran, sound.log, Function.comp_def]

theorem ran_in_order (sound : s.Sound panics size cs) (id : Nat) :
    s.ran id <+: RunLoop.through panics (Call.assigned size id 0 cs) := by
  obtain ⟨ms, sent, took⟩ := sound.loops id
  rw [ran_eq sound, ← sent.tasks, ← Message.tasks_through]
  exact Message.tasks_prefix took.part

theorem ran_whole (sound : s.Sound panics size cs) (ended : s.hasEnded id = true) :
    s.ran id = RunLoop.through panics (Call.assigned size id 0 cs) := by
  obtain ⟨ms, sent, took⟩ := sound.loops id
  rw [ran_eq sound, ← sent.tasks, ← Message.tasks_through, took.executed ended]

theorem ran_beyond (positive : 0 < size) (sound : s.Sound panics size cs) (beyond : size ≤ id) :
    s.ran id = [] := by
  have nothing := ran_in_order sound id
  rwa [Call.assigned_beyond positive beyond, RunLoop.through, List.prefix_nil] at nothing

theorem log_step (positive : 0 < size) (sound : s.Sound panics size cs) (ended : s.Ended)
    (e : Event τ) : (s.step panics e).log = s.log := by
  cases e with
  | call c =>
    simp only [step]
    split
    · cases c <;> rfl
    · rfl
  | tell =>
    simp only [step, tell]
    split <;> rfl
  | turn i =>
    by_cases among : i < size
    · obtain ⟨ms, -, took⟩ := sound.loops i
      have dead : (s.pool.loop i).dead = true := ended i (sound.inTurn.size ▸ among)
      simp [step, turn, took.lost dead, Message.tasks]
    · have nothing := ran_beyond positive (sound_turn sound i) (Nat.le_of_not_lt among)
      rw [ran, turn, List.filter_append, List.map_append, List.append_eq_nil_iff] at nothing
      have idle : Message.tasks ((s.pool.loop i).queued.take 1) = [] :=
        List.eq_nil_iff_forall_not_mem.mpr (by simpa using nothing.2)
      simp [step, turn, idle]

theorem ended_step (positive : 0 < size) (sound : s.Sound panics size cs) (ended : s.Ended)
    (e : Event τ) : (s.step panics e).Ended := by
  intro id among
  rw [(sound_step positive sound e).inTurn.size, ← sound.inTurn.size] at among
  exact hasEnded_step sound (ended id among) e

theorem ended_after (positive : 0 < size) (sound : s.Sound panics size cs) (ended : s.Ended)
    (es : List (Event τ)) : (s.after panics es).Ended ∧ (s.after panics es).log = s.log := by
  induction es generalizing s cs with
  | nil => exact ⟨ended, rfl⟩
  | cons e es ih =>
    obtain ⟨still, same⟩ := ih (sound_step positive sound e) (ended_step positive sound ended e)
    exact ⟨still, same.trans (log_step positive sound ended e)⟩

theorem ends_in_time (positive : 0 < size) (sound : s.Sound panics size cs) (closed : .shutdown ∈ cs)
    (all : s.untold = []) {es : List (Event τ)}
    (enough : ∀ id < size, (s.pool.loop id).queued.length ≤ es.countP (Event.isTurn id)) :
    (s.after panics es).Ended := by
  intro id among
  rw [(sound_after positive sound es).inTurn.size] at among
  cases ended : s.hasEnded id with
  | true => exact hasEnded_after positive sound ended es
  | false =>
    obtain ⟨ms, sent, took⟩ := sound.loops id
    have told : .stop ∈ ms := (sent.told closed among).resolve_left (by simp [all])
    rw [← took.waiting ended, List.mem_append] at told
    have waiting := told.resolve_left (stop_not_mem sound ended)
    refine hasEnded_in_time positive sound ?_ (enough id among)
    rw [List.take_length]
    exact List.any_eq_true.mpr ⟨.stop, waiting, rfl⟩

theorem untold_after_tell (s : Crew τ) :
    (s.after panics (List.replicate s.untold.length .tell)).untold = [] := by
  generalize told : s.untold = ids
  induction ids generalizing s with
  | nil => exact told
  | cons id ids ih => exact ih s.tell (by simp [tell, told])

/-- What can be relied on after these calls, however the turns of the loops came in between. A task
that panics ends the thread of its loop, and what waits behind it is lost. -/
structure Dutiful (panics : τ → Bool) (size : Nat) (cs : List (Call τ)) (s : Crew τ) : Prop where
  handles : s.handles = (List.range (cs.countP Call.isNext)).map (· % size)
  distinct : ∀ m, ((s.handles.drop m).take size).Nodup
  threads : ∀ p ∈ s.log, ∃ id < size, p.1 = RunLoop.threadName id
  /-- A thread executes only what was posted to its loop before the first shutdown, in that order. -/
  inOrder : ∀ id, s.ran id <+: RunLoop.through panics (Call.assigned size id 0 cs)
  whole : ∀ id, s.hasEnded id = true →
    s.ran id = RunLoop.through panics (Call.assigned size id 0 cs)
  returning : ∀ id, s.hasEnded id = true → (∀ t ∈ Call.assigned size id 0 cs, panics t = false) →
    s.ran id = Call.assigned size id 0 cs
  /-- Once the threads have ended nothing more is executed, whatever is asked. -/
  final : s.Ended → ∀ es, (s.after panics es).Ended ∧ (s.after panics es).log = s.log
  /-- A shutdown tells all loops, and their threads end as soon as each has had enough turns. -/
  tells : (s.after panics (List.replicate s.untold.length .tell)).untold = []
  ends : .shutdown ∈ cs → s.untold = [] → ∀ es : List (Event τ),
    (∀ id < size, (s.pool.loop id).queued.length ≤ es.countP (Event.isTurn id)) →
    (s.after panics es).Ended

theorem Sound.dutiful (positive : 0 < size) (sound : s.Sound panics size cs) :
    s.Dutiful panics size cs := by
  refine ⟨sound.inTurn.handles, sound.inTurn.nodup, fun p mem => ?_, ran_in_order sound,
    fun id => ran_whole sound, fun id ended returning => ?_, ended_after positive sound,
    untold_after_tell s, fun closed all es => ends_in_time positive sound closed all⟩
  · obtain ⟨id, thread⟩ := sound.threads p mem
    refine ⟨id, ?_, thread⟩
    by_contra beyond
    have ran : p.2 ∈ s.ran id :=
      List.mem_map.mpr ⟨p, List.mem_filter.mpr ⟨mem, decide_eq_true thread⟩, rfl⟩
    rw [ran_beyond positive sound (Nat.le_of_not_lt beyond)] at ran
    cases ran
  · rw [ran_whole sound ended, RunLoop.through_eq_self (by simpa using returning)]

/-- A new pool serves every sequence of calls, whichever tasks panic, with loops that take their turns at
any time or with loops that wait for the shutdown. -/
theorem each_once_in_order (panics : τ → Bool) {size : Nat} (positive : 0 < size) :
    ∃ (pool : Pool (Message τ)) (plain : Pool τ),
      Pool.new size = .ok pool ∧ Pool.new size = .ok plain ∧
      (∀ es : List (Event τ),
        (after panics { pool } es).Dutiful panics size (calls panics { pool } es)) ∧
      ∀ cs : List (Call τ), (Use.after panics { pool := plain } cs).Done panics size cs := by
  have new (σ : Type) : Pool.new size = .ok (⟨size, positive, .empty, 0, false⟩ : Pool σ) :=
    dif_pos positive
  refine ⟨_, _, new _, new _, fun es => ?_, Use.done_after (new τ)⟩
  exact (sound_after positive (sound_start (new _)) es).dutiful positive

/-- Three handles on two loops. One loop ends by a task that panics, before another that was posted to it,
while the other takes up its second task only after that; what is posted after the shutdown is not
executed. -/
theorem each_once_in_order_interleaved :
    ∃ pool : Pool (Message Nat), Pool.new 2 = .ok pool ∧
      let s := after (· = 20) { pool } [.call .next, .call .next, .call .next, .call (.post 0 10),
        .call (.post 1 20), .turn 0, .call (.post 1 25), .turn 1, .call (.post 2 30),
        .call (.post 1 35), .call .shutdown, .tell, .turn 1, .tell, .call (.post 0 40), .turn 0, .turn 0,
        .turn 0]
      s.handles = [0, 1, 0] ∧ s.Ended ∧ s.ran 0 = [10, 30] ∧ s.ran 1 = [20] ∧
        (s.after (· = 20) [.call .shutdown, .tell, .tell, .call (.post 1 50), .turn 0, .turn 1]).log =
          s.log := by
  obtain ⟨pool, -, new, -, run, -⟩ := each_once_in_order (· = 20) (by decide : 0 < 2)
  obtain rfl : _ = pool := by simpa [Pool.new] using new
  refine ⟨_, new, ?_⟩
  have dutiful := run [.call .next, .call .next, .call .next, .call (.post 0 10),
    .call (.post 1 20), .turn 0, .call (.post 1 25), .turn 1, .call (.post 2 30),
    .call (.post 1 35), .call .shutdown, .tell, .turn 1, .tell, .call (.post 0 40), .turn 0, .turn 0,
    .turn 0]
  refine ⟨dutiful.handles, ?ended, dutiful.returning 0 rfl (by decide), dutiful.whole 1 rfl,
    (dutiful.final ?ended _).2⟩
  decide

/-- The second of two tasks is not executed, though it was posted before the shutdown, which comes to its
end as if it had been. -/
theorem lost_behind_panic :
    ∃ pool : Pool (Message Nat), Pool.new 1 = .ok pool ∧
      let es : List (Event Nat) := [.call .next, .call (.post 0 1), .call (.post 0 2), .call .shutdown,
        .tell, .turn 0]
      let s := after (· = 1) { pool } es
      Call.assigned 1 0 0 (calls (· = 1) { pool } es) = [1, 2] ∧ s.untold = [] ∧ s.Ended ∧
        s.ran 0 = [1] :=
  ⟨⟨1, by decide, .empty, 0, false⟩, rfl, by decide⟩

end Crew
end CachingProxy
