import CachingProxy.Proofs.Flight.History

namespace CachingProxy

theorem Flight.key_step {ω : Type} (f : Flight ω) (m : Flight.Move ω) : (f.step m).key = f.key := by
  cases m with
  | setHead h =>
    simp only [step, perform, setHead]
    split <;> rfl
  | append b =>
    simp only [step, perform, append]
    split <;> rfl
  | flush last =>
    simp only [step, perform, flush]
    split
    · split <;> rfl
    · rfl
  | join w =>
    simp only [step, perform, join]
    split <;> rfl
  | abort =>
    simp only [step, perform, abort]
    split <;> rfl

theorem Flight.key_after {ω : Type} (f : Flight ω) (ms : List (Flight.Move ω)) :
    (f.after ms).key = f.key :=
  Course.after_keeps (P := fun g : Flight ω => g.key = f.key)
    (fun g m same => (key_step g m).trans same) rfl ms

def Election.isJoined : Election → Bool
  | joined _ => true
  | leader _ => false

namespace FlightTable

variable {ω : Type} {t : FlightTable ω} {m : Move ω} {id j : FlightId} {key k : String} {w : ω}

def about? (t : FlightTable ω) : Move ω → Option String
  | .elect key _ | .remove key => some key
  | .finish id | .abandon id => (t.flight? id).map Flight.key
  | .create _ | .seat _ _ | .setHead _ _ | .append _ _ | .flush _ _ | .abort _ => none

def answering (t : FlightTable ω) : Move ω → List (String × Election)
  | .elect key w => [(key, (t.elect key w).2.2)]
  | _ => []

def answers (t : FlightTable ω) (ms : List (Move ω)) : List (String × Election) :=
  Course.noted step answering t ms

/-- What is told to those who come for one key. -/
def answersFor (key : String) (t : FlightTable ω) (ms : List (Move ω)) : List Election :=
  ((t.answers ms).filter fun e => e.1 = key).map Prod.snd

/-- The moves that may change the registration of a key. -/
def concerning (key : String) (t : FlightTable ω) (ms : List (Move ω)) : List (Move ω) :=
  Course.noted step (fun t m => if t.about? m = some key then [m] else []) t ms

def Move.isElect : Move ω → Bool
  | .elect _ _ => true
  | _ => false

theorem elect_of_none (free : t.registered.get? key = none) (w : ω) :
    (t.elect key w).2.2 = .leader t.next := by
  simp only [elect, free, create]

theorem elect_of_some (there : t.registered.get? key = some id) (w : ω) :
    (t.elect key w).2.2 = .joined id := by
  simp only [elect, there]

theorem get?_strike (t : FlightTable ω) (id : FlightId) (k : String) :
    (t.strike id).registered.get? k =
      if t.registered.get? k = some id ∧ (t.flight? id).map Flight.key = some k then none
      else t.registered.get? k := by
  unfold strike
  cases there : t.flight? id with
  | none => simp
  | some f =>
    simp only [Option.map_some, Option.some.injEq]
    split
    · next own =>
      rw [Assoc.get?_erase]
      by_cases here : f.key = k
      · subst here
        simp [own]
      · simp [here]
    · next other =>
      by_cases here : f.key = k
      · subst here
        simp [other]
      · simp [here]

theorem exists_consumed (gives_up : m = .finish id ∨ m = .abandon id) :
    ∃ u : FlightTable ω, t.step m = (u.strike id).release id ∧
      u.registered = t.registered ∧ u.led = t.led := by
  obtain rfl | rfl := gives_up
  · obtain ⟨u, done, -, registered, led⟩ := t.exists_finish id
    exact ⟨u, done, registered, led⟩
  · exact ⟨(t.abort id).1, rfl, by simp [abort], by simp [abort]⟩

/-- What every table has that was empty once. -/
structure Tidy (t : FlightTable ω) : Prop where
  sound : t.Sound
  keyed : ∀ key id, t.registered.get? key = some id → (t.flight? id).map Flight.key = some key
  held : ∀ key id, t.registered.get? key = some id → id ∈ t.led
  known : ∀ id ∈ t.led, (t.flight? id).isSome
  once : t.led.Nodup

theorem key_step (sound : t.Sound) (there : (t.flight? id).map Flight.key = some key) :
    ((t.step m).flight? id).map Flight.key = some key := by
  obtain ⟨f, known, rfl⟩ := Option.map_eq_some_iff.mp there
  rw [flight?_of_some sound known, Option.map_some, Flight.key_after]

/-- What a move does to the register: newcomers take a free key, and whoever gives a lead up strikes
what is still registered of the flight. -/
theorem get?_registered_step (tidy : t.Tidy) (m : Move ω) (k : String) :
    (t.step m).registered.get? k =
      match m with
      | .elect key _ => if key = k then some ((t.registered.get? k).getD t.next) else t.registered.get? k
      | .remove key => if key = k then none else t.registered.get? k
      | .finish id | .abandon id =>
        if t.registered.get? k = some id then none else t.registered.get? k
      | _ => t.registered.get? k := by
  -- The table looks under the key of the flight; by `keyed` no other key could have it registered.
  have consumed {id : FlightId} (gives_up : m = .finish id ∨ m = .abandon id) :
      (t.step m).registered.get? k =
        if t.registered.get? k = some id then none else t.registered.get? k := by
    obtain ⟨u, done, registered, -⟩ := exists_consumed (t := t) gives_up
    have flights : (t.step m).flight? id = u.flight? id := by
      rw [done, flight?_release, flight?_strike]
    have struck : (t.step m).registered.get? k = (u.strike id).registered.get? k := by
      rw [done]
      rfl
    rw [struck, get?_strike, registered, ← flights]
    by_cases own : t.registered.get? k = some id
    · simp [own, key_step tidy.sound (tidy.keyed k id own)]
    · simp [own]
  cases m with
  | elect key w =>
    cases here : t.registered.get? key with
    | none =>
      simp only [step, perform, elect, here, Assoc.get?_set]
      by_cases same : key = k
      · subst same
        simp [here, create]
      · simp [same, create]
    | some id =>
      simp only [step, perform, elect, here]
      by_cases same : key = k
      · subst same
        simp [seat, here]
      · simp [seat, same]
  | remove key => exact Assoc.get?_erase _ _ _
  | finish id => exact consumed (.inl rfl)
  | abandon id => exact consumed (.inr rfl)
  | create _ => rfl
  | seat _ _ | setHead _ _ | append _ _ | flush _ _ | abort _ =>
    exact congrArg (·.get? k) (registered_update _)

theorem led_step_eq (t : FlightTable ω) (m : Move ω) :
    (t.step m).led =
      match m with
      | .elect key _ => if t.registered.get? key = none then t.led ++ [t.next] else t.led
      | .finish id | .abandon id => t.led.filter fun j => decide (j ≠ id)
      | _ => t.led := by
  have consumed {id : FlightId} (gives_up : m = .finish id ∨ m = .abandon id) :
      (t.step m).led = t.led.filter fun j => decide (j ≠ id) := by
    obtain ⟨u, done, -, led⟩ := exists_consumed (t := t) gives_up
    rw [done, release, led_strike, led]
  cases m with
  | elect key w =>
    cases here : t.registered.get? key with
    | none => simp [step, perform, elect, here, create]
    | some id => simp [step, perform, elect, here, seat]
  | finish id => exact consumed (.inl rfl)
  | abandon id => exact consumed (.inr rfl)
  | create _ | remove _ => rfl
  | seat _ _ | setHead _ _ | append _ _ | flush _ _ | abort _ => exact led_update _

theorem tidy_empty : ({} : FlightTable ω).Tidy :=
  ⟨sound_empty, nofun, nofun, nofun, List.nodup_nil⟩

theorem flight?_elected (free : t.registered.get? key = none) (w : ω) :
    (t.step (.elect key w)).flight? t.next = some { key } := by
  simp only [step, perform, elect, free]
  exact (flight?_create key).trans (if_pos rfl)

theorem isSome_flight?_step (sound : t.Sound) (there : (t.flight? id).isSome) (m : Move ω) :
    ((t.step m).flight? id).isSome := by
  obtain ⟨f, known⟩ := Option.isSome_iff_exists.mp there
  rw [flight?_of_some sound known]
  rfl

theorem unregistered_step (sound : t.Sound) (known : (t.flight? id).isSome)
    (gone : ∀ key, t.registered.get? key ≠ some id) (m : Move ω) (key : String) :
    (t.step m).registered.get? key ≠ some id := by
  intro there
  obtain before | ⟨rfl, -⟩ := registered_step there
  · exact gone key before
  · rw [sound.numbered _ (Nat.le_refl _)] at known
    cases known

theorem Tidy.next_notMem (tidy : t.Tidy) : t.next ∉ t.led := by
  intro mem
  have known := tidy.known _ mem
  rw [tidy.sound.numbered _ (Nat.le_refl _)] at known
  cases known

theorem keyed_step (tidy : t.Tidy) (m : Move ω)
    (there : (t.step m).registered.get? key = some id) :
    ((t.step m).flight? id).map Flight.key = some key := by
  have still (before : t.registered.get? key = some id) :=
    key_step (m := m) tidy.sound (tidy.keyed _ _ before)
  rw [get?_registered_step tidy] at there
  cases m with
  | elect k w =>
    by_cases here : k = key
    · subst here
      cases before : t.registered.get? k with
      | none =>
        obtain rfl : t.next = id := by simpa [before] using there
        rw [flight?_elected before]
        rfl
      | some j =>
        obtain rfl : j = id := by simpa [before] using there
        exact still before
    · exact still (by simpa [here] using there)
  | remove k =>
    by_cases here : k = key
    · simp [here] at there
    · exact still (by simpa [here] using there)
  | finish j | abandon j =>
    by_cases own : t.registered.get? key = some j
    · simp [own] at there
    · exact still (by simpa [own] using there)
  | create _ | seat _ _ | setHead _ _ | append _ _ | flush _ _ | abort _ => exact still there

theorem held_step (tidy : t.Tidy) (m : Move ω)
    (there : (t.step m).registered.get? key = some id) : id ∈ (t.step m).led := by
  rw [get?_registered_step tidy] at there
  rw [led_step_eq]
  cases m with
  | elect k w =>
    dsimp only at there ⊢
    by_cases here : k = key
    · subst here
      cases before : t.registered.get? k with
      | none =>
        obtain rfl : t.next = id := by simpa [before] using there
        simp
      | some j =>
        obtain rfl : j = id := by simpa [before] using there
        simpa using tidy.held _ _ before
    · have led := tidy.held _ _ (by simpa [here] using there)
      split
      · exact List.mem_append_left _ led
      · exact led
  | remove k =>
    by_cases here : k = key
    · simp [here] at there
    · exact tidy.held _ _ (by simpa [here] using there)
  | finish j | abandon j =>
    by_cases own : t.registered.get? key = some j
    · simp [own] at there
    · have before : t.registered.get? key = some id := by simpa [own] using there
      have other : id ≠ j := by
        rintro rfl
        exact own before
      simp [tidy.held _ _ before, other]
  | create _ | seat _ _ | setHead _ _ | append _ _ | flush _ _ | abort _ => exact tidy.held _ _ there

theorem tidy_step (tidy : t.Tidy) (m : Move ω) : (t.step m).Tidy := by
  refine ⟨sound_step tidy.sound, fun _ _ => keyed_step tidy m, fun _ _ => held_step tidy m, ?_, ?_⟩
  · intro id mem
    rw [led_step_eq] at mem
    cases m with
    | elect key w =>
      dsimp only at mem
      split at mem
      · next free =>
        obtain old | new := List.mem_append.mp mem
        · exact isSome_flight?_step tidy.sound (tidy.known _ old) _
        · rw [List.mem_singleton.mp new, flight?_elected free]
          rfl
      · exact isSome_flight?_step tidy.sound (tidy.known _ mem) _
    | finish j | abandon j =>
      exact isSome_flight?_step tidy.sound (tidy.known _ (List.mem_of_mem_filter mem)) _
    | create _ | remove _ | seat _ _ | setHead _ _ | append _ _ | flush _ _ | abort _ =>
      exact isSome_flight?_step tidy.sound (tidy.known _ mem) _
  · rw [led_step_eq]
    cases m with
    | elect key w =>
      dsimp only
      split
      · exact List.nodup_append.mpr ⟨tidy.once, List.pairwise_singleton _ _, fun a old b new same =>
          tidy.next_notMem (List.mem_singleton.mp new ▸ same ▸ old)⟩
      · exact tidy.once
    | finish j | abandon j => exact tidy.once.filter _
    | create _ | remove _ | seat _ _ | setHead _ _ | append _ _ | flush _ _ | abort _ =>
      exact tidy.once

theorem Tidy.after (tidy : t.Tidy) (ms : List (Move ω)) : (t.after ms).Tidy :=
  Course.after_keeps (P := Tidy) (fun _ m tidy => tidy_step tidy m) tidy ms

theorem tidy_after (ms : List (Move ω)) : (after {} ms).Tidy := tidy_empty.after ms

end FlightTable
end CachingProxy
