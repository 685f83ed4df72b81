import Mathlib.Data.List.Basic
import CachingProxy.Flight.Delivery

namespace CachingProxy

/-- A piece of a body; there are no empty ones. -/
structure Piece where
  bytes : Bytes
  nonempty : bytes ≠ []

/-- What a follower has been handed so far. -/
inductive Transcript
  | nothing
  /-- A reset instead of a head. -/
  | refused
  /-- A head that says that no body follows. -/
  | bare (h : Head)
  | begun (h : Head) (ps : List Piece)
  /-- The last chunk, which alone may be empty, says that it is the last. -/
  | ended (h : Head) (ps : List Piece) (b : Bytes)
  /-- A reset after the head. -/
  | broken (h : Head) (ps : List Piece)

namespace Transcript

def opening (h : Head) (ps : List Piece) : List Delivery :=
  .head h false :: ps.map fun p => .chunk p.bytes false

def deliveries : Transcript → List Delivery
  | nothing => []
  | refused => [.reset]
  | bare h => [.head h true]
  | begun h ps => opening h ps
  | ended h ps b => opening h ps ++ [.chunk b true]
  | broken h ps => opening h ps ++ [.reset]

def head? : Transcript → Option Head
  | nothing | refused => none
  | bare h | begun h _ | ended h _ _ | broken h _ => some h

def bytes : Transcript → Bytes
  | nothing | refused | bare _ => []
  | begun _ ps | broken _ ps => ps.flatMap Piece.bytes
  | ended _ ps b => ps.flatMap Piece.bytes ++ b

def isComplete : Transcript → Bool
  | bare _ | ended _ _ _ => true
  | _ => false

def isReset : Transcript → Bool
  | refused | broken _ _ => true
  | _ => false

def isOver (t : Transcript) : Bool := t.isComplete || t.isReset

theorem opening_concat (h : Head) (ps : List Piece) (p : Piece) :
    opening h (ps ++ [p]) = opening h ps ++ [.chunk p.bytes false] := by
  simp [opening]

def extended (h : Head) (ps : List Piece) (rest : Bytes) (last : Bool) : Transcript :=
  if last then ended h ps rest
  else if nonempty : rest ≠ [] then begun h (ps ++ [⟨rest, nonempty⟩])
  else begun h ps

section extended

variable (h : Head) (ps : List Piece) (rest : Bytes) (last : Bool)

@[simp] theorem head?_extended : (extended h ps rest last).head? = some h := by
  unfold extended; split
  · rfl
  · split <;> rfl

@[simp] theorem bytes_extended :
    (extended h ps rest last).bytes = ps.flatMap Piece.bytes ++ rest := by
  unfold extended; split
  · rfl
  · split <;> simp_all [bytes]

@[simp] theorem isComplete_extended : (extended h ps rest last).isComplete = last := by
  unfold extended; split
  · simp_all [isComplete]
  · split <;> simp_all [isComplete]

@[simp] theorem isReset_extended : (extended h ps rest last).isReset = false := by
  unfold extended; split
  · rfl
  · split <;> rfl

theorem deliveries_extended :
    (extended h ps rest last).deliveries =
      opening h ps ++ (if rest = [] ∧ last = false then [] else [.chunk rest last]) := by
  unfold extended; split
  · simp_all [deliveries]
  · split <;> simp_all [deliveries, opening]

end extended

@[simp] theorem deliveries_nothing : nothing.deliveries = [] := rfl

@[simp] theorem deliveries_begun (h : Head) (ps : List Piece) :
    (begun h ps).deliveries = opening h ps := rfl

@[simp] theorem bytes_nothing : nothing.bytes = [] := rfl

@[simp] theorem bytes_begun (h : Head) (ps : List Piece) :
    (begun h ps).bytes = ps.flatMap Piece.bytes := rfl

theorem bytes_deliveries (t : Transcript) : t.deliveries.flatMap Delivery.bytes = t.bytes := by
  have opened (h : Head) (ps : List Piece) :
      (opening h ps).flatMap Delivery.bytes = ps.flatMap Piece.bytes := by
    simp [opening, List.flatMap_map, Delivery.bytes]
  cases t <;> simp [deliveries, bytes, opened, List.flatMap_append, Delivery.bytes]

theorem countP_isTerminal (t : Transcript) :
    t.deliveries.countP Delivery.isTerminal = if t.isOver then 1 else 0 := by
  have opened (h : Head) (ps : List Piece) : (opening h ps).countP Delivery.isTerminal = 0 := by
    simp [opening, Delivery.isTerminal]
  cases t <;>
    simp [deliveries, isOver, isComplete, isReset, opened, List.countP_append, Delivery.isTerminal]

theorem isReset_iff (t : Transcript) : t.isReset = true ↔ .reset ∈ t.deliveries := by
  cases t <;> simp [isReset, deliveries, opening]

theorem isComplete_iff (t : Transcript) :
    t.isComplete = true ↔ ∃ d ∈ t.deliveries, d.isTerminal = true ∧ d ≠ .reset := by
  cases t <;> simp [isComplete, deliveries, opening, Delivery.isTerminal]

theorem isReset_eq_false_of_isComplete {t : Transcript} (complete : t.isComplete = true) :
    t.isReset = false := by
  cases t <;> simp_all [isComplete, isReset]

theorem head?_eq_some_iff (t : Transcript) (h : Head) :
    t.head? = some h ↔ ∃ last, .head h last ∈ t.deliveries := by
  cases t <;> simp [head?, deliveries, opening, eq_comm]

theorem not_isTerminal_of_mem_dropLast (t : Transcript) :
    ∀ d ∈ t.deliveries.dropLast, d.isTerminal = false := by
  have opened (h : Head) (ps : List Piece) : ∀ d ∈ opening h ps, d.isTerminal = false := by
    simp [opening, Delivery.isTerminal]
  cases t with
  | nothing | refused | bare _ => simp [deliveries]
  | begun h ps => exact fun d mem => opened h ps d (List.dropLast_subset _ mem)
  | ended h ps b | broken h ps => simpa [deliveries] using opened h ps

theorem bytes_congr {t u : Transcript} (same : t.deliveries = u.deliveries) : t.bytes = u.bytes := by
  rw [← bytes_deliveries, same, bytes_deliveries]

section initial

variable {t u : Transcript} (part : u.deliveries <+: t.deliveries)
include part

theorem bytes_of_prefix : u.bytes <+: t.bytes := by
  obtain ⟨rest, whole⟩ := part
  rw [← bytes_deliveries u, ← bytes_deliveries t, ← whole, List.flatMap_append]
  exact List.prefix_append _ _

theorem head_of_prefix {h : Head} (head : u.head? = some h) : t.head? = some h := by
  obtain ⟨last, mem⟩ := (head?_eq_some_iff u h).mp head
  exact (head?_eq_some_iff t h).mpr ⟨last, part.subset mem⟩

theorem isComplete_of_prefix (complete : u.isComplete = true) : t.isComplete = true := by
  obtain ⟨d, mem, terminal⟩ := (isComplete_iff u).mp complete
  exact (isComplete_iff t).mpr ⟨d, part.subset mem, terminal⟩

theorem isReset_of_prefix (reset : u.isReset = true) : t.isReset = true :=
  (isReset_iff t).mpr (part.subset ((isReset_iff u).mp reset))

theorem eq_of_prefix (past : u.isOver = true) : u.deliveries = t.deliveries := by
  obtain ⟨rest, whole⟩ := part
  rcases List.eq_nil_or_concat rest with rfl | ⟨es, e, rfl⟩
  · simpa using whole
  · -- Whatever stands before the last delivery of `t` is not terminal, and all of `u` does.
    have none_before : u.deliveries.countP Delivery.isTerminal = 0 := by
      rw [List.countP_eq_zero]
      intro d mem
      have dropped : t.deliveries.dropLast = u.deliveries ++ es := by
        rw [← whole, List.concat_eq_append, ← List.append_assoc, List.dropLast_concat]
      simp [not_isTerminal_of_mem_dropLast t d (by simp [dropped, mem])]
    simp [countP_isTerminal, past] at none_before

end initial

end Transcript
end CachingProxy
