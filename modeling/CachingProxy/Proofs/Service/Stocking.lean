import CachingProxy.Proofs.Service.Reception
import CachingProxy.Proofs.Store.Calls

namespace CachingProxy

namespace Desk

variable {α : Type} {asked : String → String → Prop} {d e : Desk}

/-- Only answers to what was asked for were ever stored, and the relays fetch no others. -/
structure Stocked (asked : String → String → Prop) (d : Desk) : Prop where
  store : d.cache.store.Stocked asked
  relays : d.Asked asked

theorem Stocked.served (stocked : d.Stocked asked) (served : d.Asked asked → Served asked d e) :
    e.Stocked asked := by
  obtain ⟨⟨os, store, all⟩, asks⟩ := served stocked.relays
  refine ⟨store ▸ Store.stocked_after stocked.store fun host path a mem => ?_, asks⟩
  obtain ⟨_, _, _, same, own⟩ := all _ mem
  cases same
  exact own

theorem Stocked.run {a : Run α} (stocked : d.Stocked asked) (quiet : Quiet asked a) :
    (StateT.run a d).2.Stocked asked :=
  stocked.served fun asks => (quiet d asks).served

theorem Stocked.judge (stocked : d.Stocked asked) (name : String) (merging : Bool) (q : Inquiry) :
    (StateT.run (judge name merging q) d).2.Stocked asked := by
  obtain ⟨w, -, store, asks⟩ := aside_judge stocked.relays name merging q
  refine ⟨store ▸ ?_, asks⟩
  obtain same | looked := store_judged d.cache merging q w
  · exact same ▸ stocked.store
  · exact looked ▸ Store.stocked_after stocked.store (by simp)

end Desk

namespace Service

/-- Some request is for this. -/
def AskedFor (host path : String) : Prop := ∃ r q, inquiry? r = .ok q ∧ q.host = host ∧ q.path = path

/-- Only answers to what requests asked for were ever stored. -/
def Stocked (s : Service) : Prop := s.desk.cache.store.Stocked AskedFor

variable {v : Service}

def Supplied (s : Service) : Prop := s.desk.Stocked AskedFor

theorem supplied_run {α : Type} {a : Desk.Run α} (supplied : v.Supplied) (quiet : Desk.Quiet AskedFor a) :
    (v.run a).1.Supplied := Desk.Stocked.run supplied quiet

theorem supplied_act {α : Type} {a : Desk.Act α} (supplied : v.Supplied)
    (quiet : Desk.QuietAct AskedFor a) : (v.act a).1.Supplied := Desk.Stocked.run supplied quiet

theorem supplied_of_served {d : Desk} (supplied : v.Supplied)
    (served : v.desk.Asked AskedFor → Desk.Served AskedFor v.desk d) :
    { v with desk := d }.Supplied := Desk.Stocked.served supplied served

theorem supplied_accept (supplied : v.Supplied) (name : String) {q : Inquiry}
    (asks : AskedFor q.host q.path) (nanos : Nat) : (v.accept name q nanos).1.Supplied := by
  have judged := Desk.Stocked.judge supplied name v.merging q
  have same : v.run (Desk.judge name v.merging q) =
      ({ v with desk := (StateT.run (Desk.judge name v.merging q) v.desk).2 },
        (StateT.run (Desk.judge name v.merging q) v.desk).1) := rfl
  rw [accept, same]
  generalize StateT.run (Desk.judge name v.merging q) v.desk = x at judged
  obtain ⟨verdict, d⟩ := x
  have decided : Supplied { v with desk := d } := judged
  cases verdict with
  | bypass | hit a | wait id => exact decided
  | lead id => exact supplied_act decided (Desk.quiet_addRelay asks name (some name))
  | fetch => exact supplied_act decided (Desk.quiet_addRelay asks name none)

theorem supplied_pollRelay (supplied : v.Supplied) (name host : String) (nanos : Nat) :
    (v.pollRelay name host nanos).1.Supplied := by
  have looked := supplied_act supplied (Desk.quiet_takeHead name)
  unfold pollRelay
  generalize v.act (Desk.takeHead name) = x at looked
  obtain ⟨w, r⟩ := x
  split <;> next taken => cases taken; exact looked

theorem supplied_pollFlight (supplied : v.Supplied) (name host : String) (nanos : Nat) :
    (v.pollFlight name host nanos).1.Supplied := by
  have looked := supplied_act supplied (Desk.quiet_respond name)
  unfold pollFlight
  generalize v.act (Desk.respond name) = x at looked
  obtain ⟨w, r⟩ := x
  split <;> next taken => cases taken; exact looked

theorem supplied_dismiss (supplied : v.Supplied) (name : String) :
    (v.run (Desk.dismiss name)).1.Supplied := supplied_run supplied (Desk.quiet_dismiss name)

theorem supplied_purge (supplied : v.Supplied) {f : Store → Store × Nat} (o : Store.Op)
    (op : ∀ s : Store, (f s).1 = s.step o) (forgets : ∀ host path a, o ≠ .store host path a) :
    (v.purge f).1.Supplied := by
  refine ⟨?_, supplied.relays⟩
  show (f v.desk.cache.store).1.Stocked AskedFor
  rw [op]
  have forgotten : (v.desk.cache.store.after [o]).Stocked AskedFor :=
    Store.stocked_after supplied.store fun host path a mem =>
      absurd (List.mem_singleton.mp mem).symm (forgets host path a)
  exact forgotten

theorem supplied_work (supplied : v.Supplied) (w : Work) : (v.work w).Supplied := by
  cases w with
  | reply name f => exact supplied_act supplied (Desk.quiet_completeFetch name f)
  | send name fs => exact supplied_act supplied (Desk.quiet_feed name fs)
  | sendEnd name => exact supplied_act supplied (Desk.quiet_feedEnd name)
  | relay id steps => exact supplied_of_served supplied fun asks => Desk.served_runRelay asks id steps
  | execute loop => exact supplied_of_served supplied fun asks => (Desk.aside_executeTask asks loop).served
  | settle => exact supplied_of_served supplied Desk.served_settle
  | read name => exact supplied_act supplied (Desk.quiet_takePiece name)
  | obey o =>
    simp only [work, obey]
    split
    · exact supplied_purge supplied .purgeAll (fun _ => rfl) (by simp)
    · split
      · next h _ => exact supplied_purge supplied (.purge (Text.lowerString h)) (fun _ => rfl) (by simp)
      · exact supplied

end Service

namespace Reception

open Service (AskedFor Supplied)

theorem supplied_step {x : Reception} (supplied : x.service.Supplied) (e : Event) :
    (x.step e).service.Supplied := by
  show (x.perform e).1.Supplied
  cases e with
  | arrive name r nanos =>
    simp only [perform]
    split
    · exact supplied
    · split
      · exact supplied
      · next q asked => exact Service.supplied_accept supplied name ⟨r, q, asked, rfl, rfl⟩ nanos
  | bypassed name outcome nanos =>
    simp only [perform]
    split
    · cases outcome <;> exact supplied
    · exact supplied
  | look name nanos =>
    simp only [perform]
    split
    · exact Service.supplied_pollRelay supplied name _ nanos
    · exact Service.supplied_pollFlight supplied name _ nanos
    · exact supplied
  | expire name =>
    simp only [perform]
    split
    · exact Service.supplied_dismiss supplied name
    · exact supplied
  | leave name =>
    simp only [perform]
    split
    · exact Service.supplied_dismiss supplied name
    · exact supplied
  | beside w => exact Service.supplied_work supplied w

theorem supplied_new {settings : Settings} {processors : Nat} {v : Service}
    (made : Service.new settings processors = .ok v) : v.Supplied := by
  obtain ⟨store, pool, stored, rfl⟩ := eq_of_new made
  have empty : store.Stocked AskedFor :=
    ⟨settings.cache.capacity, store, [], stored, rfl, fun _ _ _ mem => nomatch mem⟩
  refine ⟨empty, fun id r there => ?_⟩
  cases there

/-- A service that was started new has stored only answers to what was asked for, whatever happened since. -/
theorem stocked_after {settings : Settings} {processors : Nat} {v : Service}
    (made : Service.new settings processors = .ok v) (es : List Event) :
    (Reception.after { service := v } es).service.Stocked := by
  have supplied : (Reception.after { service := v } es).service.Supplied :=
    Course.after_keeps (P := fun x : Reception => x.service.Supplied)
      (fun _ e supplied => supplied_step supplied e) (supplied_new made) es
  exact supplied.store

end Reception
end CachingProxy
