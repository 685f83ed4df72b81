import Mathlib.Data.List.Basic
import CachingProxy.Proofs.Assoc
import CachingProxy.Settings

namespace CachingProxy

namespace Settings

variable {s : Settings}

theorem forIn_eq_ok {ε α : Type} {f : α → Except ε Unit} {l : List α} :
    (forIn l PUnit.unit fun a _ => do f a; return ForInStep.yield PUnit.unit :
      Except ε PUnit) = .ok ⟨⟩ ↔ ∀ a ∈ l, f a = .ok () := by
  induction l with
  | nil => simp [pure, Except.pure]
  | cons a l ih =>
    rw [List.forIn_cons, List.forall_mem_cons, ← ih]
    cases f a <;> simp [bind, Except.bind, pure, Except.pure]

theorem check_iff : s.check = .ok () ↔ s.cache.check = .ok () ∧ s.server.loops ≠ some 0 ∧
    ∀ e ∈ s.origins.entries, checkOrigin e.1 e.2 = .ok () := by
  rw [← forIn_eq_ok, check]
  cases s.cache.check with
  | error f => simp [bind, Except.bind]
  | ok u =>
    by_cases idle : s.server.loops = some 0
    · simp [idle, bind, Except.bind, throw, throwThe, MonadExceptOf.throw]
    · simp only [idle, if_false, bind, Except.bind, pure, Except.pure]
      split <;> simp_all

/-- Every origin of checked settings has an address that is a URL of the web. -/
theorem checked_origin (checked : s.check = .ok ()) {name : String} {o : Origin}
    (named : s.origins.get? name = some o) :
    ∃ u, Url.parse o.url = .ok u ∧ (u.scheme = "http" ∨ u.scheme = "https") := by
  have passed : checkOrigin name o = .ok () :=
    (check_iff.mp checked).2.2 (name, o) (Assoc.mem_entries named)
  cases parsed : Url.parse o.url with
  | error e => simp [checkOrigin, parsed] at passed
  | ok u =>
    refine ⟨u, rfl, ?_⟩
    by_contra other
    simp [checkOrigin, parsed, other] at passed

end Settings
end CachingProxy
