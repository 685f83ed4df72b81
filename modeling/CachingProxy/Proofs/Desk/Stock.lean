import CachingProxy.Proofs.Desk.Quiet

namespace CachingProxy

namespace Store

variable {asked : String → String → Prop} {s : Store} {os : List Op}

/-- Only answers to what was asked for were ever stored. -/
def Stocked (asked : String → String → Prop) (s : Store) : Prop :=
  ∃ (capacity : Nat) (fresh : Store) (os : List Op), Store.new capacity = .ok fresh ∧
    s = fresh.after os ∧ ∀ host path a, .store host path a ∈ os → asked host path

theorem stocked_after (stocked : s.Stocked asked)
    (more : ∀ host path a, .store host path a ∈ os → asked host path) : (s.after os).Stocked asked := by
  obtain ⟨capacity, fresh, ps, made, rfl, before⟩ := stocked
  refine ⟨capacity, fresh, ps ++ os, made, (Course.after_append ..).symm, fun host path a mem => ?_⟩
  obtain earlier | later := List.mem_append.mp mem
  · exact before host path a earlier
  · exact more host path a later

theorem hits_after_stores (s : Store) (all : ∀ o ∈ os, ∃ host path a, o = .store host path a) :
    (s.after os).hits = s.hits := by
  induction os generalizing s with
  | nil => rfl
  | cons o os ih =>
    obtain ⟨host, path, a, rfl⟩ := all o List.mem_cons_self
    have stored : (s.store host path a).hits = s.hits := by
      unfold Store.store Store.countOutcome
      dsimp only
      split <;> rfl
    exact (ih _ fun o mem => all o (List.mem_cons_of_mem _ mem)).trans stored

end Store

theorem Relay.eq_store_of_mem_ops {ω : Type} {c : Cache ω} {r : Relay} {o : Store.Op}
    (mem : o ∈ r.ops c) : ∃ a, o = .store r.host r.path a := by
  unfold ops at mem
  split at mem
  · split at mem
    · next a _ =>
      split at mem
      · exact ⟨a, List.mem_singleton.mp mem⟩
      · cases mem
    · cases mem
  · cases mem

theorem Relay.exists_ops_run {ω : Type} (c : Cache ω) (r : Relay) (n : Nat) :
    ∃ os, (r.run c n).1.store = c.store.after os ∧ (∀ o ∈ os, ∃ a, o = .store r.host r.path a) ∧
      (r.run c n).2.1.host = r.host ∧ (r.run c n).2.1.path = r.path := by
  induction n generalizing c r with
  | zero => exact ⟨[], rfl, nofun, rfl, rfl⟩
  | succ n ih =>
    rw [run]
    split
    · exact ⟨[], rfl, nofun, rfl, rfl⟩
    · next c' r' ps stepped =>
      obtain ⟨host, path⟩ := name_step stepped
      obtain ⟨os, store, all, host', path'⟩ := ih c' r'
      rw [host, path] at all
      refine ⟨r.ops c ++ os, ?_, fun o mem => ?_, host'.trans host, path'.trans path⟩
      · rw [Store.after, Course.after_append]
        exact store.trans (congrArg (Course.after Store.step · os) (step_done stepped).2.2)
      · obtain now | later := List.mem_append.mp mem
        · exact eq_store_of_mem_ops now
        · exact all o later

namespace Desk

variable {asked : String → String → Prop} {d e : Desk}

def hits (d : Desk) : Nat := d.cache.store.hits

/-- Nothing is done to the store meanwhile but to store answers to what was asked for. -/
structure Served (asked : String → String → Prop) (d e : Desk) : Prop where
  store : ∃ os : List Store.Op, e.cache.store = d.cache.store.after os ∧
    ∀ o ∈ os, ∃ host path a, o = .store host path a ∧ asked host path
  asked : e.Asked asked

theorem Aside.served (aside : Aside asked d e) : Served asked d e :=
  ⟨⟨[], aside.store, nofun⟩, aside.asked⟩

theorem Served.trans {f : Desk} (first : Served asked d e) (second : Served asked e f) :
    Served asked d f := by
  obtain ⟨os, store, all⟩ := first.store
  obtain ⟨os', store', all'⟩ := second.store
  refine ⟨⟨os ++ os', ?_, fun o mem => ?_⟩, second.asked⟩
  · rw [store', store, Store.after, Store.after, Store.after, Course.after_append]
  · obtain earlier | later := List.mem_append.mp mem
    · exact all o earlier
    · exact all' o later

theorem Served.hits (served : Served asked d e) : e.hits = d.hits := by
  obtain ⟨os, store, all⟩ := served.store
  rw [Desk.hits, store]
  refine Store.hits_after_stores _ fun o mem => ?_
  obtain ⟨host, path, a, same, -⟩ := all o mem
  exact ⟨host, path, a, same⟩

def runRelay (d : Desk) (id : RelayId) (n : Nat) : Desk :=
  match d.relays.get? id with
  | some r =>
    let (cache, r, ps) := r.run d.cache n
    { d with cache, relays := d.relays.set id r }.postAll ps
  | none => d

theorem served_runRelay (asks : d.Asked asked) (id : RelayId) (n : Nat) :
    Served asked d (d.runRelay id n) := by
  unfold runRelay
  split
  · next r there =>
    have own := asks id r there
    obtain ⟨os, store, all, host, path⟩ := r.exists_ops_run d.cache n
    have ran : Served asked d { d with
        cache := (r.run d.cache n).1
        relays := d.relays.set id (r.run d.cache n).2.1 } := by
      refine ⟨⟨os, store, fun o mem => ?_⟩, asked_set asks rfl ?_⟩
      · obtain ⟨a, rfl⟩ := all o mem
        exact ⟨_, _, a, rfl, own⟩
      · rw [host, path]
        exact own
    have posted := postAll_eq { d with
      cache := (r.run d.cache n).1
      relays := d.relays.set id (r.run d.cache n).2.1 } (r.run d.cache n).2.2
    exact ran.trans (aside_of_eq ran.asked (congrArg Cache.store posted.1) posted.2).served
  · exact (Aside.refl asks).served

theorem advanceRelay_eq (d : Desk) (id : RelayId) : ∃ n, d.advanceRelay id = d.runRelay id n := by
  unfold advanceRelay runRelay
  cases d.relays.get? id with
  | none => exact ⟨0, rfl⟩
  | some r => exact ⟨r.patience, rfl⟩

def executeTask (d : Desk) (loop : Nat) : Desk :=
  match (d.pool.loop loop).queued with
  | [] => d
  | t :: _ => { d with pool := d.pool.step loop }.hand t.1 t.2.deliveries

theorem aside_hand (asks : d.Asked asked) (w : WaiterId) (ds : List Delivery) :
    Aside asked d (d.hand w ds) :=
  aside_of_eq asks (congrArg Cache.store (hand_eq d w ds).1) (hand_eq d w ds).2

theorem aside_executeTask (asks : d.Asked asked) (loop : Nat) : Aside asked d (d.executeTask loop) := by
  unfold executeTask
  split
  · exact .refl asks
  · have same : Aside asked d { d with pool := d.pool.step loop } := ⟨rfl, asks⟩
    exact same.trans (aside_hand same.asked _ _)

theorem served_settle (asks : d.Asked asked) : Served asked d d.settle := by
  have advanced (ids : List RelayId) : Served asked d (ids.foldl advanceRelay d) := by
    induction ids generalizing d with
    | nil => exact (Aside.refl asks).served
    | cons id ids ih =>
      obtain ⟨n, same⟩ := d.advanceRelay_eq id
      have first := served_runRelay asks id n
      rw [List.foldl_cons, same]
      exact first.trans (ih first.asked)
  have executed (ts : List (Nat × WaiterId × Task)) {d : Desk} (asks : d.Asked asked) :
      Aside asked d (ts.foldl (fun d q => d.hand q.2.1 q.2.2.deliveries) d) := by
    induction ts generalizing d with
    | nil => exact .refl asks
    | cons t ts ih =>
      have first := aside_hand asks t.2.1 t.2.2.deliveries
      exact first.trans (ih first.asked)
  have first := advanced d.relays.keys
  rw [settle, runLoops]
  generalize d.relays.keys.foldl advanceRelay d = e at first
  have drained : Aside asked e { e with pool := e.pool.drain } := ⟨rfl, first.asked⟩
  exact first.trans (drained.trans (executed _ drained.asked)).served

def hitsOf : Verdict → Nat
  | .hit _ => 1
  | _ => 0

theorem hits_judged (c : Cache WaiterId) (merging : Bool) (q : Inquiry) (w : WaiterId) :
    (c.judge merging q w).1.store.hits = c.store.hits + hitsOf (c.judge merging q w).2.2 := by
  by_cases passes : q.passesBy = true
  · simp [Cache.judge, Cache.consult, passes, hitsOf]
  · cases found : c.store.peek q.host q.path with
    | some a => simp [Cache.judge, Cache.consult, passes, Store.get, found, hitsOf]
    | none =>
      cases merging with
      | false => simp [Cache.judge, Cache.consult, passes, Store.get, found, hitsOf]
      | true =>
        simp only [Cache.judge, Cache.consult, passes, Store.get, found, Cache.elect,
          Bool.false_eq_true, if_false, if_true]
        split <;> rfl

theorem store_judged (c : Cache WaiterId) (merging : Bool) (q : Inquiry) (w : WaiterId) :
    (c.judge merging q w).1.store = c.store ∨
      (c.judge merging q w).1.store = c.store.after [.get q.host q.path] := by
  by_cases passes : q.passesBy = true
  · simp [Cache.judge, Cache.consult, passes]
  · right
    show _ = (c.store.get q.host q.path).1
    cases found : c.store.peek q.host q.path <;> cases merging <;>
      simp [Cache.judge, Cache.consult, passes, Store.get, found, Cache.elect]

/-- A decision is made by the cache at once; what comes after it leaves the store alone. -/
theorem aside_judge (asks : d.Asked asked) (name : String) (merging : Bool) (q : Inquiry) :
    ∃ w, (StateT.run (judge name merging q) d).1 = (d.cache.judge merging q w).2.2 ∧
      (StateT.run (judge name merging q) d).2.cache.store = (d.cache.judge merging q w).1.store ∧
      (StateT.run (judge name merging q) d).2.Asked asked := by
  refine ⟨d.nextWaiter, ?_⟩
  simp only [judge, newWaiter, nextLoop, StateT.run_bind, StateT.run_get, StateT.run_set,
    StateT.run_pure, pure_bind]
  generalize d.cache.judge merging q d.nextWaiter = x
  obtain ⟨c, ps, v⟩ := x
  dsimp only
  generalize posted : Desk.postAll _ ps = e
  have store : e.cache.store = c.store := by rw [← posted, (postAll_eq _ _).1]
  have asks' : e.Asked asked := by
    rw [← posted]
    intro id r there
    rw [(postAll_eq _ _).2] at there
    exact asks id r there
  have kept {a : Run PUnit} (quiet : Quiet asked a) :
      (StateT.run a e).2.cache.store = c.store ∧ (StateT.run a e).2.Asked asked :=
    ⟨(quiet e asks').store.trans store, (quiet e asks').asked⟩
  refine ⟨?_, ?_⟩
  · cases v <;> rfl
  · cases v with
    | lead id => exact kept (quiet_addLead name id)
    | wait id => exact kept (quiet_addReader name _)
    | bypass | hit a | fetch => exact ⟨store, asks'⟩

theorem hits_judge (d : Desk) (name : String) (merging : Bool) (q : Inquiry) :
    (StateT.run (judge name merging q) d).2.hits =
      d.hits + hitsOf (StateT.run (judge name merging q) d).1 := by
  have unasked : d.Asked fun _ _ => True := fun _ _ _ => trivial
  obtain ⟨w, verdict, store, -⟩ := aside_judge unasked name merging q
  rw [hits, store, verdict]
  exact hits_judged d.cache merging q w

end Desk
end CachingProxy
