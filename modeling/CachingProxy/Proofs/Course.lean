import Mathlib.Data.List.Basic

namespace CachingProxy.Course

variable {σ μ α : Type}

def after (step : σ → μ → σ) (s : σ) (ms : List μ) : σ := ms.foldl step s

/-- What is noted at each of these moves, in order. The note is taken in the state before the move. -/
def noted (step : σ → μ → σ) (note : σ → μ → List α) (s : σ) : List μ → List α
  | [] => []
  | m :: ms => note s m ++ noted step note (step s m) ms

variable (step : σ → μ → σ) (note : σ → μ → List α) (s : σ)

@[simp] theorem after_nil : after step s [] = s := rfl

@[simp] theorem after_cons (m : μ) (ms : List μ) :
    after step s (m :: ms) = after step (step s m) ms := rfl

@[simp] theorem after_append (ms ns : List μ) :
    after step s (ms ++ ns) = after step (after step s ms) ns := List.foldl_append

@[simp] theorem noted_nil : noted step note s [] = [] := rfl

@[simp] theorem noted_cons (m : μ) (ms : List μ) :
    noted step note s (m :: ms) = note s m ++ noted step note (step s m) ms := rfl

@[simp] theorem noted_append (ms ns : List μ) :
    noted step note s (ms ++ ns) =
      noted step note s ms ++ noted step note (after step s ms) ns := by
  induction ms generalizing s with
  | nil => rfl
  | cons m ms ih => simp only [List.cons_append, noted_cons, after_cons, ih, List.append_assoc]

theorem noted_concat (ms : List μ) (m : μ) :
    noted step note s (ms ++ [m]) = noted step note s ms ++ note (after step s ms) m := by
  rw [noted_append, noted_cons, noted_nil, List.append_nil]

variable {step}

theorem after_keeps_of {P : σ → Prop} {s : σ} (h : P s) {ms : List μ}
    (keeps : ∀ s, ∀ m ∈ ms, P s → P (step s m)) : P (after step s ms) := by
  induction ms generalizing s with
  | nil => exact h
  | cons m ms ih =>
    refine ih (keeps s m List.mem_cons_self h) fun s n mem => ?_
    exact keeps s n (List.mem_cons_of_mem m mem)

theorem after_keeps {P : σ → Prop} (keeps : ∀ s m, P s → P (step s m)) {s : σ} (h : P s)
    (ms : List μ) : P (after step s ms) :=
  after_keeps_of h fun s m _ => keeps s m

/-- What is seen of a state moves along with it, if it does so in each move. -/
theorem after_image {τ ν : Type} {next : τ → ν → τ} {f : σ → τ} {moving : σ → μ → List ν}
    (image : ∀ s m, f (step s m) = after next (f s) (moving s m)) (s : σ) (ms : List μ) :
    f (after step s ms) = after next (f s) (noted step moving s ms) := by
  induction ms generalizing s with
  | nil => rfl
  | cons m ms ih => rw [after_cons, ih, noted_cons, after_append, image]

end CachingProxy.Course
