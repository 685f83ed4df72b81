import CachingProxy.RunLoop

namespace CachingProxy

namespace RunLoop

theorem threadName_inj {i j : Nat} : threadName i = threadName j ↔ i = j := by
  refine ⟨fun same => ?_, congrArg threadName⟩
  have digits : Nat.toDigits 10 i = Nat.toDigits 10 j := by
    rw [← Nat.toList_repr, ← Nat.toList_repr]
    exact congrArg String.toList ((String.append_right_inj "ringcache-worker-").mp same)
  have value := congrArg (Nat.ofDigitChars 10 · 0) digits
  simpa only [Nat.ofDigitChars_toDigits (by decide : 1 < 10) (Nat.le_refl 10)] using value

variable {τ : Type} {ends : τ → Bool} {ts : List τ} {l : RunLoop τ}

theorem step_of_ends {t : τ} {r : List τ} (queued : l.queued = t :: r) (ending : ends t = true) :
    l.step ends = ⟨[], l.executed ++ [t], true⟩ := by
  simp [step, queued, ending]

theorem step_of_returns {t : τ} {r : List τ} (queued : l.queued = t :: r) (returns : ends t = false) :
    l.step ends = { l with queued := r, executed := l.executed ++ [t] } := by
  simp [step, queued, returns]

theorem executed_step : (l.step ends).executed = l.executed ++ l.queued.take 1 := by
  unfold step
  split
  · simp [*]
  · split <;> simp [*]

theorem executed_post (t : τ) : (l.post t).executed = l.executed := by
  unfold post
  split <;> rfl

@[simp] theorem drain_drain : (l.drain ends).drain ends = l.drain ends := by
  simp [drain, through]

/-- What a loop has made of the tasks that were posted to it, lost ones included. -/
structure Took (ends : τ → Bool) (ts : List τ) (l : RunLoop τ) : Prop where
  waiting : l.dead = false → l.executed ++ l.queued = ts
  returned : l.dead = false → l.executed.any ends = false
  ended : l.dead = true → ts.any ends = true
  executed : l.dead = true → l.executed = through ends ts
  lost : l.dead = true → l.queued = []

theorem took_new : Took ends [] ({} : RunLoop τ) :=
  ⟨fun _ => rfl, fun _ => rfl, nofun, nofun, nofun⟩

theorem took_post (took : l.Took ends ts) (t : τ) : (l.post t).Took ends (ts ++ [t]) := by
  unfold post
  cases dead : l.dead with
  | false =>
    refine ⟨fun _ => ?_, fun _ => took.returned dead, ?_, ?_, ?_⟩
    · rw [← took.waiting dead, List.append_assoc]
      rfl
    all_goals simp
  | true =>
    have ended := took.ended dead
    rw [if_pos rfl]
    refine ⟨by simp [dead], by simp [dead], fun _ => ?_, fun _ => ?_, took.lost⟩
    · rw [List.any_append, ended, Bool.true_or]
    · rw [through_append_of_any ended, took.executed dead]

theorem took_step (took : l.Took ends ts) : (l.step ends).Took ends ts := by
  cases queued : l.queued with
  | nil => simpa [step, queued] using took
  | cons t r =>
    have going : l.dead = false :=
      eq_false_of_ne_true fun dead => by simp [took.lost dead] at queued
    have all := took.waiting going
    have returned := took.returned going
    rw [queued] at all
    cases ending : ends t with
    | true =>
      rw [step_of_ends queued ending, ← all]
      refine ⟨nofun, nofun, fun _ => by simp [ending], fun _ => ?_, fun _ => rfl⟩
      rw [through_append returned, through, if_pos ending]
    | false =>
      rw [step_of_returns queued ending]
      refine ⟨fun _ => ?_, fun _ => by simp [returned, ending], ?_, ?_, ?_⟩
      · rw [← all, List.append_assoc]
        rfl
      all_goals simp [going]

theorem Took.part (took : l.Took ends ts) : l.executed <+: through ends ts := by
  cases dead : l.dead with
  | true => exact took.executed dead ▸ List.prefix_rfl
  | false =>
    rw [← took.waiting dead, through_append (took.returned dead)]
    exact List.prefix_append _ _

theorem Took.whole (took : l.Took (fun _ => false) ts) : l.executed ++ l.queued = ts :=
  took.waiting (eq_false_of_ne_true fun dead => by simpa using took.ended dead)

theorem dead_step (took : l.Took ends ts) (dead : l.dead = true) : (l.step ends).dead = true := by
  simp [step, took.lost dead, dead]

end RunLoop

namespace Pool

variable {τ : Type} {ends : τ → Bool} {p : Pool τ} {ts : List τ} {id : Nat}

theorem executed_post (running : p.stopped = false) (i id : Nat) (t : τ) :
    ((p.post i t).loop id).executed = (p.loop id).executed := by
  rw [loop_post running]
  split
  · exact RunLoop.executed_post t
  · rfl

theorem took_post (running : p.stopped = false) (took : (p.loop id).Took ends ts) (i : Nat) (t : τ) :
    ((p.post i t).loop id).Took ends (if i = id then ts ++ [t] else ts) := by
  rw [loop_post running]
  split
  · exact RunLoop.took_post took t
  · exact took

theorem took_step (took : (p.loop id).Took ends ts) (i : Nat) :
    ((p.step i ends).loop id).Took ends ts := by
  rw [loop_step]
  split
  · exact RunLoop.took_step took
  · exact took

end Pool

end CachingProxy
