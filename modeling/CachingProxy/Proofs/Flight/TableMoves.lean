import CachingProxy.Flight.Table
import CachingProxy.Proofs.Flight.Moves

namespace CachingProxy.FlightTable

variable {ω : Type}

/-- A newcomer that finds a flight by its key and takes the seat only later does `seat`. -/
inductive Move (ω : Type)
  | create (key : String)
  | elect (key : String) (w : ω)
  | seat (id : FlightId) (w : ω)
  | setHead (id : FlightId) (h : Head)
  | append (id : FlightId) (b : Bytes)
  | flush (id : FlightId) (last : Bool)
  | abort (id : FlightId)
  | finish (id : FlightId)
  | abandon (id : FlightId)
  | remove (key : String)
  deriving DecidableEq

def perform (t : FlightTable ω) : Move ω → FlightTable ω × Postings ω
  | .create key => ((t.create key).1, [])
  | .elect key w => ((t.elect key w).1, (t.elect key w).2.1)
  | .seat id w => t.seat id w
  | .setHead id h => (t.setHead id h, [])
  | .append id b => (t.append id b, [])
  | .flush id last => t.flush id last
  | .abort id => t.abort id
  | .finish id => t.finish id
  | .abandon id => t.abandon id
  | .remove key => ((t.remove key).1, [])

def step (t : FlightTable ω) (m : Move ω) : FlightTable ω := (t.perform m).1

def after (t : FlightTable ω) (ms : List (Move ω)) : FlightTable ω := Course.after step t ms

def posted (t : FlightTable ω) (ms : List (Move ω)) : Postings ω :=
  Course.noted step (fun t m => (t.perform m).2) t ms

/-- Who is told to have a seat by a move, and in which flight. -/
def seating (t : FlightTable ω) : Move ω → List (FlightId × ω)
  | .elect key w =>
    match (t.elect key w).2.2 with
    | .joined id => [(id, w)]
    | .leader _ => []
  | .seat id w => if (t.flight? id).isSome then [(id, w)] else []
  | _ => []

def seatings (t : FlightTable ω) (ms : List (Move ω)) : List (FlightId × ω) :=
  Course.noted step seating t ms

/-- The flight whose lead is given away by a move. -/
def election (t : FlightTable ω) : Move ω → List FlightId
  | .elect key w =>
    match (t.elect key w).2.2 with
    | .leader id => [id]
    | .joined _ => []
  | _ => []

def elected (t : FlightTable ω) (ms : List (Move ω)) : List FlightId :=
  Course.noted step election t ms

def target? (t : FlightTable ω) : Move ω → Option FlightId
  | .create _ | .remove _ => none
  | .elect key _ => t.registered.get? key
  | .seat id _ | .setHead id _ | .append id _ | .flush id _ | .abort id | .finish id
  | .abandon id => some id

def Move.acts : Move ω → List (Flight.Move ω)
  | .create _ | .remove _ => []
  | .elect _ w | .seat _ w => [.join w]
  | .setHead _ h => [.setHead h]
  | .append _ b => [.append b]
  | .flush _ last => [.flush last]
  | .abort _ | .abandon _ => [.abort]
  | .finish _ => [.flush true, .abort]

variable (t : FlightTable ω) (m : Move ω) (ms ns : List (Move ω))

@[simp] theorem after_nil : t.after [] = t := rfl

@[simp] theorem posted_nil : t.posted [] = [] := rfl

@[simp] theorem after_cons : t.after (m :: ms) = (t.step m).after ms := rfl

@[simp] theorem posted_cons : t.posted (m :: ms) = (t.perform m).2 ++ (t.step m).posted ms := rfl

@[simp] theorem after_append : t.after (ms ++ ns) = (t.after ms).after ns :=
  Course.after_append step t ms ns

@[simp] theorem posted_append : t.posted (ms ++ ns) = t.posted ms ++ (t.after ms).posted ns :=
  Course.noted_append step _ t ms ns

@[simp] theorem seatings_append :
    t.seatings (ms ++ ns) = t.seatings ms ++ (t.after ms).seatings ns :=
  Course.noted_append step _ t ms ns

@[simp] theorem elected_append : t.elected (ms ++ ns) = t.elected ms ++ (t.after ms).elected ns :=
  Course.noted_append step _ t ms ns

theorem posted_singleton : t.posted [m] = (t.perform m).2 := List.append_nil _

@[simp] theorem seatings_singleton : t.seatings [m] = t.seating m := List.append_nil _

@[simp] theorem elected_singleton : t.elected [m] = t.election m := List.append_nil _

variable {t m} {id j : FlightId} {f : Flight ω}

theorem flight?_update (g : Flight ω → Flight ω × Postings ω) :
    (t.update id g).1.flight? j =
      (t.flight? j).map fun f => if id = j then (g f).1 else f := by
  cases there : t.flight? id with
  | none =>
    have same : t.update id g = (t, []) := by simp [update, there]
    rw [same]
    by_cases here : id = j
    · rw [← here, there]; rfl
    · simp [here]
  | some a =>
    have changed : t.update id g = ({ t with flights := t.flights.set id (g a).1 }, (g a).2) := by
      simp [update, there]
    rw [changed]
    refine (Assoc.get?_set _ _ _ _).trans ?_
    by_cases here : id = j
    · rw [if_pos here, ← here, there]; simp
    · simp [here, flight?]

theorem posted_update (g : Flight ω → Flight ω × Postings ω) :
    (t.update id g).2 = ((t.flight? id).map fun f => (g f).2).getD [] := by
  cases there : t.flight? id <;> simp [update, there]

@[simp] theorem flight?_release : (t.release id).flight? j = t.flight? j := rfl

@[simp] theorem flight?_strike : (t.strike id).flight? j = t.flight? j := by
  unfold strike
  split
  · split <;> rfl
  · rfl

theorem flight?_create (key : String) :
    (t.create key).1.flight? j = if t.next = j then some { key } else t.flight? j :=
  Assoc.get?_set _ _ _ _

theorem after_finish (closed : (f.flush true).1.phase = .closed) :
    f.after [.flush true, .abort] = (f.flush true).1 ∧
      f.posted [.flush true, .abort] = (f.flush true).2 := by
  have idle : (f.flush true).1.abort = ((f.flush true).1, []) :=
    Flight.abort_idle (by rw [closed]; rfl)
  simp [Flight.step, Flight.perform, idle]

theorem flight?_finish :
    (t.finish id).1.flight? j =
      (t.flight? j).map fun f => if id = j then f.after [.flush true, .abort] else f := by
  simp only [finish]
  -- The table asks whether its own flight is closed, and `after_finish` what that means for `f`.
  split
  · next closed =>
    simp only [flight?_release, flight?_strike, flush, flight?_update] at closed ⊢
    cases there : t.flight? j with
    | none => rfl
    | some f =>
      by_cases here : id = j
      · subst here
        simp only [there, Option.map_some, if_pos, Option.any_some, decide_eq_true_eq] at closed ⊢
        rw [(after_finish closed).1]
      · simp [here]
  · simp only [flight?_release, flight?_strike, abort, flush, flight?_update, Option.map_map]
    congr 1
    funext f
    by_cases here : id = j
    · subst here; simp [Flight.step, Flight.perform]
    · simp [here]

theorem posted_finish :
    (t.finish id).2 = ((t.flight? id).map fun f => f.posted [.flush true, .abort]).getD [] := by
  simp only [finish]
  split
  · next closed =>
    simp only [flush, flight?_update, posted_update] at closed ⊢
    cases there : t.flight? id with
    | none => simp
    | some f =>
      simp only [there, Option.map_some, if_pos, Option.any_some, decide_eq_true_eq] at closed
      simp only [Option.map_some, Option.getD_some, List.append_nil]
      rw [(after_finish closed).2]
  · simp only [abort, flush, posted_update, flight?_update, Option.map_map]
    cases t.flight? id <;> simp [Flight.step, Flight.perform]

/-- A move does to the flight it is about what its acts do, and nothing to any other. -/
theorem flight?_step (old : j ≠ t.next) :
    (t.step m).flight? j =
      (t.flight? j).map fun f => if t.target? m = some j then f.after m.acts else f := by
  have created (key : String) : (t.create key).1.flight? j = t.flight? j :=
    (flight?_create key).trans (if_neg old.symm)
  cases m with
  | create key => simpa [step, perform, target?] using created key
  | elect key w =>
    cases here : t.registered.get? key with
    | none =>
      simp only [step, perform, elect, here, target?]
      exact (created key).trans (by simp)
    | some id =>
      simp only [step, perform, elect, here, target?, Option.some.injEq]
      exact flight?_update _
  | finish id =>
    simp only [target?, Option.some.injEq]
    exact flight?_finish
  | abandon id =>
    simp only [target?, Option.some.injEq]
    exact flight?_strike.trans (flight?_update _)
  | remove key => simp [step, perform, remove, target?, flight?]
  | seat _ _ | setHead _ _ | append _ _ | flush _ _ | abort _ =>
    simp only [target?, Option.some.injEq]
    exact flight?_update _

theorem posted_step :
    (t.perform m).2 =
      match t.target? m with
      | some id => ((t.flight? id).map fun f => f.posted m.acts).getD []
      | none => [] := by
  cases m with
  | create key | remove key => rfl
  | elect key w =>
    cases here : t.registered.get? key with
    | none => simp [perform, elect, here, target?]
    | some id =>
      simp only [perform, elect, here, target?]
      simpa [Move.acts, Flight.perform, seat] using posted_update _
  | finish id => exact posted_finish
  | setHead id h | append id b =>
    simp only [perform, target?]
    cases t.flight? id <;> rfl
  | seat id w | flush id last | abort id | abandon id =>
    simpa [perform, abandon, seat, flush, abort, target?, Move.acts, Flight.perform]
      using posted_update _

end CachingProxy.FlightTable
