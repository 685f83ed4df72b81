import CachingProxy.Flight.Basic
import CachingProxy.Proofs.Course

namespace CachingProxy

variable {ω : Type}

namespace Flight

inductive Move (ω : Type)
  | setHead (h : Head)
  | append (b : Bytes)
  | flush (last : Bool)
  | join (w : ω)
  | abort
  deriving DecidableEq

def perform (f : Flight ω) : Move ω → Flight ω × Postings ω
  | .setHead h => ((f.setHead h).1, [])
  | .append b => (f.append b, [])
  | .flush last => f.flush last
  | .join w => f.join w
  | .abort => f.abort

def step (f : Flight ω) (m : Move ω) : Flight ω := (f.perform m).1

def after (f : Flight ω) (ms : List (Move ω)) : Flight ω := Course.after step f ms

def posted (f : Flight ω) (ms : List (Move ω)) : Postings ω :=
  Course.noted step (fun f m => (f.perform m).2) f ms

def notedHeads (f : Flight ω) (ms : List (Move ω)) : List Head :=
  Course.noted step
    (fun f m => match m with
      | .setHead h => if (f.setHead h).2 then [h] else []
      | _ => []) f ms

/-- A flush has an effect once the head is there and until the flight is over. -/
def canFlush (f : Flight ω) : Bool := f.head.isSome && !f.phase.isOver

/-- The body as it stood at each flush that had an effect, in order. -/
def flushedBodies (f : Flight ω) (ms : List (Move ω)) : List Bytes :=
  Course.noted step
    (fun f m => match m with
      | .flush _ => if f.canFlush then [f.body] else []
      | _ => []) f ms

def joiners (ms : List (Move ω)) : List ω :=
  ms.filterMap fun
    | .join w => some w
    | _ => none

variable (f : Flight ω) (m : Move ω) (ms ns : List (Move ω))

@[simp] theorem after_nil : f.after [] = f := rfl

@[simp] theorem after_cons : f.after (m :: ms) = (f.step m).after ms := rfl

@[simp] theorem after_append : f.after (ms ++ ns) = (f.after ms).after ns :=
  Course.after_append step f ms ns

@[simp] theorem posted_nil : f.posted [] = [] := rfl

@[simp] theorem posted_cons : f.posted (m :: ms) = (f.perform m).2 ++ (f.step m).posted ms := rfl

@[simp] theorem posted_append : f.posted (ms ++ ns) = f.posted ms ++ (f.after ms).posted ns :=
  Course.noted_append step _ f ms ns

theorem notedHeads_append :
    f.notedHeads (ms ++ ns) = f.notedHeads ms ++ (f.after ms).notedHeads ns :=
  Course.noted_append step _ f ms ns

theorem flushedBodies_append :
    f.flushedBodies (ms ++ ns) = f.flushedBodies ms ++ (f.after ms).flushedBodies ns :=
  Course.noted_append step _ f ms ns

@[simp] theorem joiners_append : joiners (ms ++ ns) = joiners ms ++ joiners ns :=
  List.filterMap_append

variable {m ms} {w : ω}

theorem notMem_joiners_cons : w ∉ joiners (m :: ms) ↔ m ≠ .join w ∧ w ∉ joiners ms := by
  cases m <;> simp [joiners, eq_comm]

variable {f} {last : Bool}

theorem flush_idle (idle : f.canFlush = false) : f.flush last = (f, []) := by
  grind [flush, canFlush]

theorem abort_idle (past : f.phase.isOver = true) : f.abort = (f, []) := by
  grind [abort]

theorem flush_frame (f : Flight ω) :
    (f.flush false).1.head = f.head ∧ (f.flush false).1.body = f.body ∧
      (f.flush false).1.phase = f.phase := by
  unfold flush
  split
  · split <;> simp
  · simp

theorem join_frame (f : Flight ω) (w : ω) :
    (f.join w).1.head = f.head ∧ (f.join w).1.body = f.body ∧ (f.join w).1.phase = f.phase := by
  unfold join
  split <;> simp_all

end Flight

namespace Postings

variable [DecidableEq ω] (w : ω)

@[simp] theorem deliveriesFor_nil : deliveriesFor w ([] : Postings ω) = [] := rfl

@[simp] theorem deliveriesFor_append (ps qs : Postings ω) :
    deliveriesFor w (ps ++ qs) = deliveriesFor w ps ++ deliveriesFor w qs := by
  simp [deliveriesFor]

theorem deliveriesFor_eq_nil {ps : Postings ω} (h : ∀ p ∈ ps, p.1 ≠ w) :
    deliveriesFor w ps = [] := by
  have hf : ps.filter (fun p => p.1 = w) = [] :=
    List.filter_eq_nil_iff.mpr fun p hp => by simpa using h p hp
  rw [deliveriesFor, hf, List.flatMap_nil]

end Postings
end CachingProxy
