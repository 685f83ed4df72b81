import CachingProxy.Service.Basic

namespace CachingProxy

variable {ω : Type} {q : Inquiry} {a : Response} {name : String} {nanos : Nat}

theorem Cache.judge_hit {c : Cache ω} (asks : q.passesBy = false)
    (there : c.store.peek q.host q.path = some a) (merging : Bool) (w : ω) :
    ∃ d, c.judge merging q w = (d, [], .hit a) := by
  simp [judge, consult, asks, Store.get, there]

theorem Desk.judge_hit {d : Desk} (asks : q.passesBy = false)
    (there : d.cache.store.peek q.host q.path = some a) (merging : Bool) (name : String) :
    ∃ e, StateT.run (judge name merging q) d = (.hit a, e) := by
  obtain ⟨c, judged⟩ := Cache.judge_hit asks there merging d.nextWaiter
  simp only [judge, newWaiter, nextLoop, StateT.run_bind, StateT.run_get, StateT.run_set,
    StateT.run_pure, pure_bind, judged]
  exact ⟨_, rfl⟩

theorem Service.accept_hit {v : Service} (asks : q.passesBy = false)
    (there : v.desk.cache.store.peek q.host q.path = some a) :
    (v.accept name q nanos).2 = .answered ⟨a.head.marked .hit, a.body⟩ := by
  obtain ⟨d, judged⟩ := Desk.judge_hit asks there v.merging name
  simp [accept, run, judged]

end CachingProxy
