import CachingProxy.Proofs.Flight.TableMoves

namespace CachingProxy.FlightTable

variable {ω : Type} {t : FlightTable ω} {m : Move ω} {id j : FlightId}

section fields

variable (g : Flight ω → Flight ω × Postings ω)

@[simp] theorem next_update : (t.update id g).1.next = t.next := by
  unfold update; split <;> rfl

@[simp] theorem registered_update : (t.update id g).1.registered = t.registered := by
  unfold update; split <;> rfl

@[simp] theorem led_update : (t.update id g).1.led = t.led := by
  unfold update; split <;> rfl

@[simp] theorem next_strike : (t.strike id).next = t.next := by
  unfold strike; split <;> [split <;> rfl; rfl]

@[simp] theorem led_strike : (t.strike id).led = t.led := by
  unfold strike; split <;> [split <;> rfl; rfl]

theorem registered_strike {key : String} (there : (t.strike id).registered.get? key = some j) :
    t.registered.get? key = some j := by
  unfold strike at there
  split at there
  · split at there
    · rw [Assoc.get?_erase] at there
      split at there <;> simp_all
    · exact there
  · exact there

end fields

theorem exists_finish (t : FlightTable ω) (id : FlightId) :
    ∃ u : FlightTable ω, (t.finish id).1 = (u.strike id).release id ∧ u.next = t.next ∧
      u.registered = t.registered ∧ u.led = t.led := by
  simp only [finish]
  split
  · exact ⟨(t.flush id true).1, rfl, by simp [flush]⟩
  · exact ⟨((t.flush id true).1.abort id).1, rfl, by simp [flush, abort]⟩

/-- What every table has that was empty once. -/
structure Sound (t : FlightTable ω) : Prop where
  numbered : ∀ j, t.next ≤ j → t.flight? j = none
  registered : ∀ key j, t.registered.get? key = some j → (t.flight? j).isSome

theorem created_step (free : t.flight? t.next = none) :
    (t.step m).next = t.next ∧ (t.step m).flight? t.next = none ∨
      (t.step m).next = t.next + 1 ∧ ∃ key, (t.step m).flight? t.next = some { key } := by
  have untouched (id : FlightId) (g : Flight ω → Flight ω × Postings ω) :
      (t.update id g).1.flight? t.next = none := by
    rw [flight?_update, free]; rfl
  cases m with
  | create key => exact .inr ⟨rfl, key, (flight?_create key).trans (if_pos rfl)⟩
  | elect key w =>
    cases here : t.registered.get? key with
    | none =>
      simp only [step, perform, elect, here]
      exact .inr ⟨rfl, key, (flight?_create key).trans (if_pos rfl)⟩
    | some id =>
      simp only [step, perform, elect, here]
      exact .inl ⟨next_update _, untouched id _⟩
  | finish id =>
    obtain ⟨u, done, next, -, -⟩ := t.exists_finish id
    refine .inl ⟨?_, flight?_finish.trans (by rw [free]; rfl)⟩
    simp only [step, perform, done]
    exact next_strike.trans next
  | abandon id => exact .inl ⟨next_strike.trans (next_update _), flight?_strike.trans (untouched id _)⟩
  | remove key => exact .inl ⟨rfl, free⟩
  | seat id w | setHead id h | append id b | flush id last | abort id =>
    exact .inl ⟨next_update _, untouched id _⟩

theorem registered_step {key : String} (there : (t.step m).registered.get? key = some j) :
    t.registered.get? key = some j ∨ j = t.next ∧ (t.step m).next = t.next + 1 := by
  cases m with
  | create k => exact .inl there
  | elect k w =>
    cases here : t.registered.get? k with
    | none =>
      simp only [step, perform, elect, here, Assoc.get?_set] at there ⊢
      split at there
      · exact .inr ⟨(Option.some.inj there).symm, rfl⟩
      · exact .inl there
    | some id =>
      simp only [step, perform, elect, here] at there
      exact .inl (registered_update _ ▸ there)
  | finish id =>
    obtain ⟨u, done, -, registered, -⟩ := t.exists_finish id
    simp only [step, perform, done] at there
    exact .inl (registered ▸ registered_strike there)
  | abandon id => exact .inl (registered_update _ ▸ registered_strike there)
  | remove k =>
    simp only [step, perform, remove, Assoc.get?_erase] at there
    split at there
    · cases there
    · exact .inl there
  | seat id w | setHead id h | append id b | flush id last | abort id =>
    exact .inl (registered_update _ ▸ there)

theorem sound_step (sound : t.Sound) : (t.step m).Sound := by
  have free : t.flight? t.next = none := sound.numbered _ (Nat.le_refl _)
  have created := created_step (m := m) free
  constructor
  · -- Only the next number can be taken, and then the number after it is the next one.
    intro j late
    by_cases here : j = t.next
    · subst here
      rcases created with ⟨-, none_yet⟩ | ⟨next, -⟩
      · exact none_yet
      · exact absurd (next ▸ late) (Nat.not_succ_le_self _)
    · have older : t.next ≤ j := by
        rcases created with ⟨next, -⟩ | ⟨next, -⟩
        · exact next ▸ late
        · rw [next] at late
          exact Nat.le_of_succ_le late
      rw [flight?_step here, sound.numbered j older]; rfl
  · intro key j there
    rcases registered_step there with before | ⟨rfl, next⟩
    · have known := sound.registered key j before
      have here : j ≠ t.next := by
        rintro rfl
        simp [free] at known
      rw [flight?_step here, Option.isSome_map]
      exact known
    · rcases created with ⟨same, -⟩ | ⟨-, key, made⟩
      · exact absurd (same.symm.trans next) (Nat.ne_of_lt (Nat.lt_succ_self _))
      · simp [made]

theorem sound_empty : ({} : FlightTable ω).Sound := ⟨fun _ _ => rfl, nofun⟩

theorem seating_eq (sound : t.Sound) :
    t.seating m =
      match t.target? m with
      | some id => if (t.flight? id).isSome then (Flight.joiners m.acts).map (id, ·) else []
      | none => [] := by
  cases m with
  | elect key w =>
    cases here : t.registered.get? key with
    | none => simp [seating, elect, here, target?]
    | some id =>
      simp [seating, elect, here, target?, Move.acts, Flight.joiners, sound.registered key id here]
  | seat id w => rfl
  | create _ | remove _ => rfl
  | setHead _ _ | append _ _ | flush _ _ | abort _ | finish _ | abandon _ =>
    simp [seating, target?, Move.acts, Flight.joiners]

theorem led_step (held : id ∈ t.led) : id ∈ (t.step m).led ∨ m = .finish id ∨ m = .abandon id := by
  cases m with
  | create _ | remove _ => exact .inl held
  | elect key w =>
    cases here : t.registered.get? key with
    | none =>
      simp only [step, perform, elect, here]
      exact .inl (List.mem_append_left _ held)
    | some j =>
      simp only [step, perform, elect, here]
      exact .inl ((led_update _).symm ▸ held)
  | finish j =>
    obtain ⟨u, done, -, -, led⟩ := t.exists_finish j
    simp only [step, perform, done]
    by_cases own : id = j
    · exact .inr (.inl (own ▸ rfl))
    · exact .inl (by simp [release, led, held, own])
  | abandon j =>
    by_cases own : id = j
    · exact .inr (.inr (own ▸ rfl))
    · exact .inl (by simp [step, perform, abandon, release, abort, held, own])
  | seat _ _ | setHead _ _ | append _ _ | flush _ _ | abort _ =>
    exact .inl ((led_update _).symm ▸ held)

theorem led_of_election (chosen : id ∈ t.election m) : id ∈ (t.step m).led := by
  cases m with
  | elect key w =>
    cases here : t.registered.get? key with
    | none =>
      simp only [election, elect, here, List.mem_singleton] at chosen
      simp [step, perform, elect, here, chosen]
    | some j => simp [election, elect, here] at chosen
  | _ => cases chosen

end CachingProxy.FlightTable
