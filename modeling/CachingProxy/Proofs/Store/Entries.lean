import CachingProxy.Store
import CachingProxy.Proofs.Course
import CachingProxy.Proofs.Store.Queue

namespace CachingProxy.Store

inductive Op
  | get (host path : String)
  | store (host path : String) (a : Response)
  | purge (host : String)
  | purgeAll
  deriving DecidableEq

def step (s : Store) : Op → Store
  | .get host path => (s.get host path).1
  | .store host path a => s.store host path a
  | .purge host => (s.purge host).1
  | .purgeAll => s.purgeAll.1

def after (s : Store) (os : List Op) : Store := Course.after step s os

@[simp] theorem after_nil (s : Store) : s.after [] = s := rfl

@[simp] theorem after_cons (s : Store) (o : Op) (os : List Op) :
    s.after (o :: os) = (s.step o).after os := rfl

/-- Whether an operation takes the answer for a path away or puts another in its place. -/
def loses (s : Store) (host path : String) : Op → Bool
  | .get _ _ => false
  | .store h p a => h = host && (p = path || ((s.ring h).put p a).2 = .evicted path)
  | .purge h => h = host
  | .purgeAll => true

def Sound (s : Store) : Prop := ∀ host r, s.rings.get? host = some r → ∃ q, r.Holds q

variable {s : Store} {host path : String} {o : Op}

theorem exists_holds (sound : s.Sound) (host : String) : ∃ q, (s.ring host).Holds q := by
  cases there : s.rings.get? host with
  | none => exact ⟨[], by simpa [ring, there] using Ring.holds_empty s.positive⟩
  | some r =>
    obtain ⟨q, holds⟩ := sound host r there
    exact ⟨q, by simpa [ring, there] using holds⟩

theorem rings_store (a : Response) :
    (s.store host path a).rings = s.rings.set host ((s.ring host).put path a).1 := by
  simp only [store, countOutcome]
  split <;> rfl

theorem rings_get : (s.get host path).1.rings = s.rings := by
  unfold get
  split <;> rfl

theorem sound_new {capacity : Nat} (made : Store.new capacity = .ok s) : s.Sound := by
  unfold Store.new at made
  split at made
  · cases made; exact nofun
  · cases made

theorem sound_step (sound : s.Sound) (o : Op) : (s.step o).Sound := by
  intro host r there
  cases o with
  | get h p =>
    rw [step, rings_get] at there
    exact sound host r there
  | store h p a =>
    rw [step, rings_store, Assoc.get?_set] at there
    split at there
    · cases there
      obtain ⟨q, holds⟩ := exists_holds sound h
      exact ⟨_, (Ring.holds_put holds p a).1⟩
    · exact sound host r there
  | purge h =>
    simp only [step, purge, Assoc.get?_erase] at there
    split at there
    · cases there
    · exact sound host r there
  | purgeAll => cases there

theorem sound_after (sound : s.Sound) (os : List Op) : (s.after os).Sound :=
  Course.after_keeps (P := Sound) (fun _ o h => sound_step h o) sound os

theorem peek_store_self (sound : s.Sound) (a : Response) :
    (s.store host path a).peek host path = some a := by
  obtain ⟨q, holds⟩ := exists_holds sound host
  rw [peek, rings_store, Assoc.get?_set, if_pos rfl]
  exact Ring.get?_put_self holds path a

theorem peek_step (sound : s.Sound) (kept : s.loses host path o = false) :
    (s.step o).peek host path = s.peek host path := by
  cases o with
  | get h p => rw [peek, step, rings_get, peek]
  | store h p a =>
    rw [peek, step, rings_store, Assoc.get?_set]
    by_cases here : h = host
    · subst here
      obtain ⟨other, kept⟩ : p ≠ path ∧ ((s.ring h).put p a).2 ≠ .evicted path := by
        simpa [loses] using kept
      obtain ⟨q, holds⟩ := exists_holds sound h
      rw [if_pos rfl]
      refine (Ring.get?_put_ne holds other kept).trans ?_
      rw [peek, ring]
      cases s.rings.get? h <;> rfl
    · rw [if_neg here]
      rfl
  | purge h =>
    have other : h ≠ host := by simpa [loses] using kept
    simp only [peek, step, purge, Assoc.get?_erase, if_neg other]
  | purgeAll => cases kept

end CachingProxy.Store
