import CachingProxy.Relay
import CachingProxy.Proofs.Flight.Lead
import CachingProxy.Proofs.Store.Entries

namespace CachingProxy.Relay

variable {ω : Type}

/-- What the next step of the task does to the flights. -/
def moves (r : Relay) : List (FlightTable.Move ω) :=
  match r.lead with
  | none => []
  | some id =>
    match r.stage with
    | .opening h => [.setHead id h, .flush id false]
    | .pumping _ =>
      match r.feed with
      | .chunk b :: _ => [.append id b, .flush id false]
      | _ => []
    | .landing => [.finish id]
    | .abandoning | .refusing _ => [.abandon id]
    | _ => []

def acts (r : Relay) : List (Flight.Move ω) :=
  match r.stage with
  | .opening h => [.setHead h, .flush false]
  | .pumping _ =>
    match r.feed with
    | .chunk b :: _ => [.append b, .flush false]
    | _ => []
  | .landing => [.flush true, .abort]
  | .abandoning | .refusing _ => [.abort]
  | _ => []

def ops (r : Relay) (c : Cache ω) : List Store.Op :=
  match r.stage with
  | .storing h =>
    match r.gathered? c h with
    | some a => if h.isStorable then [.store r.host r.path a] else []
    | none => []
  | _ => []

variable {c c' : Cache ω} {r r' : Relay} {ps : Postings ω}

theorem leading_eq {f : FlightTable ω → FlightId → FlightTable ω × Postings ω}
    {ms : FlightId → List (FlightTable.Move ω)}
    (same : ∀ t id, f t id = (t.after (ms id), t.posted (ms id))) :
    r.leading c f =
      ({ c with flights := c.flights.after ((r.lead.map ms).getD []) },
        c.flights.posted ((r.lead.map ms).getD [])) := by
  cases lead : r.lead <;> simp [leading, lead, same]

theorem setHead_flush (t : FlightTable ω) (id : FlightId) (h : Head) :
    (t.setHead id h).flush id false =
      (t.after [.setHead id h, .flush id false], t.posted [.setHead id h, .flush id false]) := by
  simp [FlightTable.step, FlightTable.perform]

theorem append_flush (t : FlightTable ω) (id : FlightId) (b : Bytes) :
    (t.append id b).flush id false =
      (t.after [.append id b, .flush id false], t.posted [.append id b, .flush id false]) := by
  simp [FlightTable.step, FlightTable.perform]

theorem finish_eq (t : FlightTable ω) (id : FlightId) :
    t.finish id = (t.after [.finish id], t.posted [.finish id]) := by
  simp [FlightTable.step, FlightTable.perform]

theorem abandon_eq (t : FlightTable ω) (id : FlightId) :
    t.abandon id = (t.after [.abandon id], t.posted [.abandon id]) := by
  simp [FlightTable.step, FlightTable.perform]

def Done (c : Cache ω) (r : Relay) (c' : Cache ω) (ps : Postings ω) : Prop :=
  c'.flights = c.flights.after r.moves ∧ ps = c.flights.posted r.moves ∧
    c'.store = c.store.after (r.ops c)

theorem done_nothing (unmoved : (r.moves : List (FlightTable.Move ω)) = []) (unused : r.ops c = []) :
    Done c r c [] := by
  simp [Done, unmoved, unused]

/-- A step of the task does its moves to the flights and its operations to the store, and nothing
else to either. -/
theorem step_done (stepped : r.step c = some (c', r', ps)) : Done c r c' ps := by
  cases stage : r.stage with
  | fetching =>
    have done : Done c r c [] := by
      apply done_nothing
      · cases lead : r.lead <;> simp [moves, stage, lead]
      · simp [ops, stage]
    simp only [step, stage] at stepped
    split at stepped <;> cases stepped <;> exact done
  | opening h =>
    rw [step, stage] at stepped
    simp only [leading_eq fun t id => setHead_flush t id h] at stepped
    cases stepped
    cases lead : r.lead <;> simp [Done, moves, ops, stage, lead]
  | pumping h =>
    cases feed : r.feed with
    | nil => simp [step, stage, feed] at stepped
    | cons x feed' =>
      cases x with
      | chunk b =>
        rw [step, stage] at stepped
        simp only [feed, leading_eq fun t id => append_flush t id b] at stepped
        cases stepped
        cases lead : r.lead <;> simp [Done, moves, ops, stage, lead, feed]
      | failed _ | ended | panicked =>
        simp only [step, stage, feed] at stepped
        cases stepped
        apply done_nothing
        · cases lead : r.lead <;> simp [moves, stage, lead, feed]
        · simp [ops, stage]
  | offering _ _ | reporting _ =>
    have done : Done c r c [] := by
      apply done_nothing
      · cases lead : r.lead <;> simp [moves, stage, lead]
      · simp [ops, stage]
    simp only [step, stage] at stepped
    split at stepped
    · cases stepped
    · cases stepped
      exact done
  | storing h =>
    simp only [step, stage] at stepped
    cases stepped
    have unmoved : (r.moves : List (FlightTable.Move ω)) = [] := by
      cases lead : r.lead <;> simp [moves, stage, lead]
    refine ⟨by rw [unmoved]; rfl, by rw [unmoved]; rfl, ?_⟩
    cases gathered : r.gathered? c h with
    | none => simp [ops, stage, gathered]
    | some a => cases storable : h.isStorable <;> simp [ops, stage, gathered, storable, Store.step]
  | landing =>
    rw [step, stage] at stepped
    simp only [leading_eq fun t id => finish_eq t id] at stepped
    cases stepped
    cases lead : r.lead <;> simp [Done, moves, ops, stage, lead]
  | abandoning | refusing _ =>
    rw [step, stage] at stepped
    simp only [leading_eq fun t id => abandon_eq t id] at stepped
    cases stepped
    cases lead : r.lead <;> simp [Done, moves, ops, stage, lead]
  | leaving | failing =>
    simp only [step, stage] at stepped
    cases stepped
    apply done_nothing
    · cases lead : r.lead <;> simp [moves, stage, lead]
    · simp [ops, stage]
  | finished => simp [step, stage] at stepped

variable {t : FlightTable ω} {id : FlightId} {f : Flight ω}

theorem flight?_moves (sound : t.Sound) (lead : r.lead = some id) (there : t.flight? id = some f) :
    (t.after r.moves).flight? id = some (f.after r.acts) := by
  -- The first of two moves leaves the flight there for the second one.
  have both {m : FlightTable.Move ω} (about : t.target? m = some id) :
      (t.after [m, .flush id false]).flight? id = some (f.after (m.acts ++ [.flush false])) := by
    have driven := FlightTable.flight?_driven sound there about
    rw [Flight.after_append]
    exact FlightTable.flight?_driven (FlightTable.sound_step sound) driven rfl
  cases stage : r.stage with
  | opening h =>
    simp only [moves, acts, lead, stage]
    exact both (m := .setHead id h) rfl
  | pumping h =>
    simp only [moves, acts, lead, stage]
    obtain _ | ⟨b | _ | _ | _, feed⟩ := r.feed
    · exact there
    · exact both (m := .append id b) rfl
    all_goals exact there
  | landing =>
    simp only [moves, acts, lead, stage]
    exact FlightTable.flight?_driven (m := .finish id) sound there rfl
  | abandoning | refusing _ =>
    simp only [moves, acts, lead, stage]
    exact FlightTable.flight?_driven (m := .abandon id) sound there rfl
  | fetching | offering _ _ | reporting _ | storing _ | leaving | failing | finished =>
    simp only [moves, acts, lead, stage]
    exact there

end CachingProxy.Relay
