import CachingProxy.Proofs.Flight.Lead
import CachingProxy.Proofs.Flight.Register

namespace CachingProxy

namespace Flight

variable {ω : Type} {f : Flight ω}

def Move.ends : Move ω → Bool
  | .flush true | .abort => true
  | .flush false | .setHead _ | .append _ | .join _ => false

theorem going_step {m : Move ω} (going : f.phase.isOver = false) (goes_on : m.ends = false) :
    (f.step m).phase.isOver = false := by
  cases m with
  | setHead h => grind [step, perform, setHead, Phase.isOver]
  | append b => grind [step, perform, append, Phase.isOver]
  | flush last =>
    cases last with
    | true => cases goes_on
    | false => exact (congrArg Phase.isOver f.flush_frame.2.2).trans going
  | join w => exact (congrArg Phase.isOver (f.join_frame w).2.2).trans going
  | abort => cases goes_on

theorem going_after {ms : List (Move ω)} (going : f.phase.isOver = false)
    (go_on : ∀ m ∈ ms, m.ends = false) : (f.after ms).phase.isOver = false := by
  induction ms generalizing f with
  | nil => exact going
  | cons m ms ih =>
    have first := going_step going (go_on m List.mem_cons_self)
    exact ih first fun m mem => go_on m (List.mem_cons_of_mem _ mem)

theorem seats_join (going : f.phase.isOver = false) (w : ω) :
    (f.join w).1.seats = f.seats ++ [{ follower := w }] := by
  unfold join
  split
  · next closed => simp [closed, Phase.isOver] at going
  · next aborted => simp [aborted, Phase.isOver] at going
  · rfl

end Flight

namespace FlightTable

variable {ω : Type} {t : FlightTable ω} {m : Move ω} {ms : List (Move ω)} {id : FlightId}
  {key k : String} {f : Flight ω}

/-- Whether a move ends a flight past whoever leads it. -/
def Move.cuts : Move ω → Bool
  | .flush _ true | .abort _ => true
  | _ => false

theorem ends_acting (uncut : m.cuts = false) (kept : m ≠ .finish id ∧ m ≠ .abandon id) :
    ∀ a ∈ acting id t m, a.ends = false := by
  intro a mem
  rw [acting] at mem
  split at mem
  · next about =>
    cases m with
    | create _ | remove _ => cases mem
    | elect _ _ | seat _ _ | setHead _ _ | append _ _ =>
      rw [List.mem_singleton.mp mem]
      rfl
    | flush j last =>
      cases last with
      | true => cases uncut
      | false =>
        rw [List.mem_singleton.mp mem]
        rfl
    | abort j => cases uncut
    | finish j => exact absurd (Option.some.inj about.1 ▸ rfl) kept.1
    | abandon j => exact absurd (Option.some.inj about.1 ▸ rfl) kept.2
  · cases mem

theorem going_registered_step (tidy : t.Tidy) (uncut : m.cuts = false)
    (going : ∀ f, t.registered.get? key = some id → t.flight? id = some f → f.phase.isOver = false)
    (there : (t.step m).registered.get? key = some id) (known : (t.step m).flight? id = some f) :
    f.phase.isOver = false := by
  -- A flight that was registered before still has its leader; a new one is empty.
  obtain before | ⟨rfl, -⟩ := registered_step there
  · have kept : m ≠ .finish id ∧ m ≠ .abandon id := by
      constructor <;> rintro rfl <;> simp [get?_registered_step tidy, before] at there
    obtain ⟨g, old⟩ := Option.isSome_iff_exists.mp (tidy.sound.registered key id before)
    rw [flight?_of_some tidy.sound old] at known
    cases known
    exact Flight.going_after (going g before old) (ends_acting uncut kept)
  · have free := tidy.sound.numbered _ (Nat.le_refl _)
    obtain still | ⟨k, made⟩ := flight?_of_none (m := m) free
    · rw [still] at known
      cases known
    · rw [made] at known
      cases known
      rfl

theorem going_registered (uncut : ∀ m ∈ ms, m.cuts = false)
    (there : (after {} ms).registered.get? key = some id)
    (known : (after {} ms).flight? id = some f) : f.phase.isOver = false := by
  induction ms using List.reverseRecOn generalizing f with
  | nil => cases known
  | append_singleton ms m ih =>
    rw [after_concat] at there known
    apply going_registered_step (tidy_after ms) (uncut m (by simp)) _ there known
    exact fun f there known => ih (fun m mem => uncut m (List.mem_append_left _ mem)) there known

theorem registered_frame (tidy : t.Tidy) (elsewhere : t.about? m ≠ some k) :
    (t.step m).registered.get? k = t.registered.get? k := by
  rw [get?_registered_step tidy]
  cases m with
  | elect key w =>
    have other : key ≠ k := fun same => elsewhere (congrArg some same)
    exact if_neg other
  | remove key =>
    have other : key ≠ k := fun same => elsewhere (congrArg some same)
    exact if_neg other
  | finish id | abandon id => exact if_neg fun own => elsewhere (tidy.keyed k id own)
  | create _ | seat _ _ | setHead _ _ | append _ _ | flush _ _ | abort _ => rfl

theorem registered_of_led (unstruck : ∀ key, .remove key ∉ ms) (led : id ∈ (after {} ms).led) :
    ∃ key, (after {} ms).registered.get? key = some id := by
  induction ms using List.reverseRecOn with
  | nil => cases led
  | append_singleton ms m ih =>
    have tidy := tidy_after ms
    have before := ih fun key mem => unstruck key (List.mem_append_left _ mem)
    rw [after_concat] at led ⊢
    simp only [get?_registered_step tidy]
    rw [led_step_eq] at led
    cases m with
    | elect k w =>
      dsimp only at led ⊢
      -- A newcomer changes no registration that is there.
      have old (led : id ∈ (after {} ms).led) : ∃ key, (if k = key then
          some (((after {} ms).registered.get? key).getD (after {} ms).next)
          else (after {} ms).registered.get? key) = some id := by
        obtain ⟨key, there⟩ := before led
        exact ⟨key, by simp [there]⟩
      split at led
      · next free =>
        obtain led | new := List.mem_append.mp led
        · exact old led
        · exact ⟨k, by simp [free, List.mem_singleton.mp new]⟩
      · exact old led
    | remove k => exact absurd (by simp) (unstruck k)
    | finish j | abandon j =>
      obtain ⟨led, other⟩ := List.mem_filter.mp led
      obtain ⟨key, there⟩ := before led
      have apart : id ≠ j := by simpa using other
      exact ⟨key, by simp [there, apart]⟩
    | create _ | seat _ _ | setHead _ _ | append _ _ | flush _ _ | abort _ => exact before led

theorem unregistered_of_unseen (unseen : ∀ w, .elect key w ∉ ms) :
    (after {} ms).registered.get? key = none := by
  induction ms using List.reverseRecOn with
  | nil => rfl
  | append_singleton ms m ih =>
    have before := ih fun w mem => unseen w (List.mem_append_left _ mem)
    rw [after_concat, get?_registered_step (tidy_after ms)]
    cases m with
    | elect k w =>
      have other : k ≠ key := by
        rintro rfl
        exact unseen w (by simp)
      simpa [other] using before
    | remove _ | finish _ | abandon _ => simp [before]
    | create _ | seat _ _ | setHead _ _ | append _ _ | flush _ _ | abort _ => exact before

theorem answersFor_cons (key : String) (t : FlightTable ω) (m : Move ω) (ms : List (Move ω)) :
    answersFor key t (m :: ms) =
      ((t.answering m).filter fun e => e.1 = key).map Prod.snd ++ answersFor key (t.step m) ms := by
  simp only [answersFor, answers, Course.noted_cons, List.filter_append, List.map_append]

theorem concerning_cons (key : String) (t : FlightTable ω) (m : Move ω) (ms : List (Move ω)) :
    concerning key t (m :: ms) =
      (if t.about? m = some key then [m] else []) ++ concerning key (t.step m) ms := rfl

theorem mem_concerning_cons {n : Move ω} (mem : n ∈ concerning key (t.step m) ms) :
    n ∈ concerning key t (m :: ms) := by
  rw [concerning_cons]
  exact List.mem_append_right _ mem

theorem elects_or_idle (tidy : t.Tidy) (only : ∀ n ∈ concerning key t (m :: ms), n.isElect = true) :
    (∃ w, m = .elect key w) ∨
      answersFor key t (m :: ms) = answersFor key (t.step m) ms ∧
        (t.step m).registered.get? key = t.registered.get? key := by
  by_cases about : t.about? m = some key
  · have elects := only m (by simp [concerning_cons, about])
    cases m with
    | elect k w => exact .inl ⟨w, by rw [Option.some.inj about]⟩
    | _ => cases elects
  · refine .inr ⟨?_, registered_frame tidy about⟩
    rw [answersFor_cons]
    cases m with
    | elect k w =>
      have other : k ≠ key := fun same => about (congrArg some same)
      simp [answering, other]
    | _ => rfl

theorem answersFor_registered (tidy : t.Tidy) (there : t.registered.get? key = some id)
    (only : ∀ m ∈ concerning key t ms, m.isElect = true) :
    ∃ n, answersFor key t ms = List.replicate n (.joined id) := by
  induction ms generalizing t with
  | nil => exact ⟨0, rfl⟩
  | cons m ms ih =>
    have later : ∀ n ∈ concerning key (t.step m) ms, n.isElect = true := fun n mem =>
      only n (mem_concerning_cons mem)
    obtain ⟨w, rfl⟩ | ⟨told, still⟩ := elects_or_idle tidy only
    · have kept : (t.step (.elect key w)).registered.get? key = some id := by
        simp [get?_registered_step tidy, there]
      obtain ⟨n, rest⟩ := ih (tidy_step tidy _) kept later
      refine ⟨n + 1, ?_⟩
      rw [answersFor_cons, rest]
      simp [answering, elect_of_some there, List.replicate_succ]
    · obtain ⟨n, rest⟩ := ih (tidy_step tidy _) (still.trans there) later
      exact ⟨n, told.trans rest⟩

theorem answersFor_free (tidy : t.Tidy) (free : t.registered.get? key = none)
    (only : ∀ m ∈ concerning key t ms, m.isElect = true) :
    answersFor key t ms = [] ∨
      ∃ id n, answersFor key t ms = .leader id :: List.replicate n (.joined id) := by
  induction ms generalizing t with
  | nil => exact .inl rfl
  | cons m ms ih =>
    have later : ∀ n ∈ concerning key (t.step m) ms, n.isElect = true := fun n mem =>
      only n (mem_concerning_cons mem)
    obtain ⟨w, rfl⟩ | ⟨told, still⟩ := elects_or_idle tidy only
    · have taken : (t.step (.elect key w)).registered.get? key = some t.next := by
        simp [get?_registered_step tidy, free]
      obtain ⟨n, rest⟩ := answersFor_registered (tidy_step tidy _) taken later
      refine .inr ⟨t.next, n, ?_⟩
      rw [answersFor_cons, rest]
      simp [answering, elect_of_none free]
    · rw [told]
      exact ih (tidy_step tidy _) (still.trans free) later

@[simp] theorem coalesced_update (g : Flight ω → Flight ω × Postings ω) :
    (t.update id g).1.coalesced = t.coalesced := by
  unfold update
  split <;> rfl

@[simp] theorem coalesced_strike : (t.strike id).coalesced = t.coalesced := by
  unfold strike
  split
  · split <;> rfl
  · rfl

theorem coalesced_step (t : FlightTable ω) (m : Move ω) :
    (t.step m).coalesced = t.coalesced + (t.answering m).countP fun e => e.2.isJoined := by
  cases m with
  | elect key w =>
    cases here : t.registered.get? key with
    | none => simp [step, perform, answering, elect, here, create, Election.isJoined]
    | some id => simp [step, perform, answering, elect, here, seat, Election.isJoined]
  | finish id =>
    have resets : ((t.flush id true).1.abort id).1.coalesced = t.coalesced := by simp [abort, flush]
    simp only [step, perform, finish, answering, release, coalesced_strike]
    split
    · simp [flush]
    · simpa using resets
  | abandon id => simp [step, perform, abandon, answering, release, abort]
  | create _ | remove _ => rfl
  | seat _ _ | setHead _ _ | append _ _ | flush _ _ | abort _ => exact coalesced_update _

theorem coalesced_after (ms : List (Move ω)) :
    (after {} ms).coalesced = (answers {} ms).countP fun e => e.2.isJoined := by
  induction ms using List.reverseRecOn with
  | nil => rfl
  | append_singleton ms m ih =>
    have told : answers {} (ms ++ [m]) = answers {} ms ++ (after {} ms).answering m :=
      Course.noted_concat step answering {} ms m
    rw [after_concat, coalesced_step, ih, told, List.countP_append]

/-- Somebody was told to lead the flight and has not given the lead up since. -/
def LeadKept (ms : List (Move ω)) (id : FlightId) : Prop :=
  ∃ before m later, ms = before ++ m :: later ∧ id ∈ (after {} before).election m ∧
    .finish id ∉ later ∧ .abandon id ∉ later

theorem election_eq (t : FlightTable ω) (key : String) (w : ω) :
    t.election (.elect key w) = if t.registered.get? key = none then [t.next] else [] := by
  cases here : t.registered.get? key with
  | none => simp [election, elect, here, create]
  | some id => simp [election, elect, here]

theorem LeadKept.concat (kept : LeadKept ms id) (other : m ≠ .finish id ∧ m ≠ .abandon id) :
    LeadKept (ms ++ [m]) id := by
  obtain ⟨before, n, later, rfl, chosen, unfinished, unabandoned⟩ := kept
  refine ⟨before, n, later ++ [m], by simp, chosen, ?_, ?_⟩
  · simp [unfinished, other.1.symm]
  · simp [unabandoned, other.2.symm]

theorem leadKept_of_led (led : id ∈ (after {} ms).led) : LeadKept ms id := by
  induction ms using List.reverseRecOn with
  | nil => cases led
  | append_singleton ms m ih =>
    rw [after_concat, led_step_eq] at led
    cases m with
    | elect key w =>
      dsimp only at led
      split at led
      · next free =>
        obtain old | new := List.mem_append.mp led
        · exact (ih old).concat (by simp)
        · refine ⟨ms, .elect key w, [], rfl, ?_, List.not_mem_nil, List.not_mem_nil⟩
          rwa [election_eq, if_pos free]
      · exact (ih led).concat (by simp)
    | finish j | abandon j =>
      obtain ⟨old, other⟩ := List.mem_filter.mp led
      have apart : id ≠ j := by simpa using other
      exact (ih old).concat ⟨by simp [apart.symm], by simp [apart.symm]⟩
    | create _ | remove _ | seat _ _ | setHead _ _ | append _ _ | flush _ _ | abort _ =>
      exact (ih led).concat (by simp)

theorem led_of_leadKept (kept : LeadKept ms id) : id ∈ (after {} ms).led := by
  obtain ⟨before, m, later, rfl, chosen, unfinished, unabandoned⟩ := kept
  rw [after_append, after_cons]
  have led := led_of_election chosen
  -- By induction on what came later, in whatever table the lead was given away.
  generalize (after {} before).step m = t at led
  induction later generalizing t with
  | nil => exact led
  | cons n later ih =>
    rw [List.mem_cons, not_or] at unfinished unabandoned
    apply ih unfinished.2 unabandoned.2
    apply (led_step led).resolve_right
    rintro (rfl | rfl)
    · exact unfinished.1 rfl
    · exact unabandoned.1 rfl

/-- Who leads, who joins and who is registered after these moves. -/
structure LedAlone (ms : List (Move ω)) (t : FlightTable ω) : Prop where
  /-- The leads are those that were given and not given up. -/
  leads : ∀ id, id ∈ t.led ↔ LeadKept ms id
  /-- A newcomer leads if and only if its key is free. -/
  leader : ∀ key w, (∃ id, (t.elect key w).2.2 = .leader id) ↔ t.registered.get? key = none
  /-- Otherwise it gets a seat in the flight that is registered, which is not over unless somebody ended
  it past its leader. -/
  joined : ∀ key w id, t.registered.get? key = some id →
    (t.elect key w).2.2 = .joined id ∧
    ∃ f, t.flight? id = some f ∧ (t.step (.elect key w)).flight? id = some (f.join w).1 ∧
      ((∀ m ∈ ms, m.cuts = false) → (f.join w).1.seats = f.seats ++ [{ follower := w }])
  held : ∀ key id, t.registered.get? key = some id →
    id ∈ t.led ∧ ∃ f, t.flight? id = some f ∧ f.key = key
  /-- Giving a lead up strikes the flight's own registration and no other one, also when the key was
  struck before and led again. -/
  strikes : ∀ id ∈ t.led, ∃ f, t.flight? id = some f ∧ ∀ m, m = .finish id ∨ m = .abandon id →
    id ∉ (t.step m).led ∧
    (t.registered.get? f.key = some id → (t.step m).registered.get? f.key = none) ∧
    (t.registered.get? f.key ≠ some id →
      ∀ key, (t.step m).registered.get? key = t.registered.get? key)
  frame : ∀ m key, t.about? m ≠ some key →
    (t.step m).registered.get? key = t.registered.get? key
  /-- As long as nobody strikes a key, every lead that is held has one key. -/
  once : (∀ key, .remove key ∉ ms) →
    t.led.Nodup ∧ ∀ id ∈ t.led, ∃! key, t.registered.get? key = some id
  unseen : ∀ key, (∀ w, .elect key w ∉ ms) → t.registered.get? key = none
  /-- Of all who come for a free key the first one leads and the others join, whatever is done about other
  keys in between. -/
  first : ∀ key later, t.registered.get? key = none →
    (∀ m ∈ concerning key t later, m.isElect = true) →
    answersFor key t later = [] ∨
      ∃ id n, answersFor key t later = .leader id :: List.replicate n (.joined id)
  inFlight : ∃ keys : List String, keys.Nodup ∧
    (∀ key, key ∈ keys ↔ (t.registered.get? key).isSome) ∧ t.stats.inFlight = keys.length
  coalesced : t.stats.coalesced = (answers {} ms).countP fun e => e.2.isJoined

/-- Whatever is done to the flights of a table, and in whatever order. -/
theorem leads_alone (ms : List (Move ω)) : (after {} ms).LedAlone ms := by
  let t := after {} ms
  have tidy : t.Tidy := tidy_after ms
  have keyed (key : String) (id : FlightId) (there : t.registered.get? key = some id) :
      ∃ f, t.flight? id = some f ∧ f.key = key :=
    Option.map_eq_some_iff.mp (tidy.keyed key id there)
  refine ⟨fun id => ⟨leadKept_of_led, led_of_leadKept⟩, fun key w => ?_, fun key w id there => ?_, ?_,
    ?_, fun m key => registered_frame tidy, ?_, fun key => unregistered_of_unseen,
    fun key later => answersFor_free tidy, ?_, coalesced_after ms⟩
  · constructor
    · rintro ⟨id, leads⟩
      cases here : t.registered.get? key with
      | none => rfl
      | some j =>
        rw [elect_of_some here] at leads
        cases leads
    · exact fun free => ⟨_, elect_of_none free w⟩
  · obtain ⟨f, known, -⟩ := keyed key id there
    refine ⟨elect_of_some there w, f, known, ?_, fun uncut => ?_⟩
    · exact flight?_driven tidy.sound known there
    · exact Flight.seats_join (going_registered uncut there known) w
  · exact fun key id there => ⟨tidy.held key id there, keyed key id there⟩
  · intro id led
    obtain ⟨f, known⟩ := Option.isSome_iff_exists.mp (tidy.known id led)
    refine ⟨f, known, fun m gives_up => ?_⟩
    have struck (key : String) : (t.step m).registered.get? key =
        if t.registered.get? key = some id then none else t.registered.get? key := by
      rw [get?_registered_step tidy]
      obtain rfl | rfl := gives_up <;> rfl
    refine ⟨?_, fun own => (struck f.key).trans (if_pos own), fun stale key => ?_⟩
    · rw [led_step_eq]
      obtain rfl | rfl := gives_up <;> simp
    · refine (struck key).trans (if_neg fun there => stale ?_)
      obtain ⟨g, known', rfl⟩ := keyed key id there
      obtain rfl : f = g := Option.some.inj (known.symm.trans known')
      exact there
  · intro unstruck
    refine ⟨tidy.once, fun id led => ?_⟩
    obtain ⟨key, there⟩ := registered_of_led unstruck led
    refine ⟨key, there, fun k also => ?_⟩
    exact Option.some.inj ((tidy.keyed k id also).symm.trans (tidy.keyed key id there))
  · refine ⟨t.registered.keys, t.registered.distinct, fun key => t.registered.mem_keys_iff key, ?_⟩
    exact (List.length_map _).symm

/-- Two flights for one key that was struck in between: finishing the first one leaves the second one
where later newcomers find it. -/
theorem leads_alone_twice :
    let ms : List (Move Nat) := [.elect "k" 0, .elect "k" 1, .remove "k", .elect "k" 2]
    let t := after {} ms
    0 ∈ t.led ∧ t.registered.get? "k" = some 1 ∧
    (t.step (.finish 0)).registered.get? "k" = some 1 ∧
    (after {} (ms ++ [.finish 0])).stats.inFlight = 1 ∧
    answersFor "k" (after {} (ms ++ [.finish 0, .abandon 1])) [.elect "k" 3, .finish 0, .elect "k" 4] =
      [.leader 2, .joined 2] := by
  intro ms t
  have led : 0 ∈ t.led := by decide
  have registered : t.registered.get? "k" = some 1 := by decide
  obtain ⟨f, known, consumed⟩ := (leads_alone ms).strikes 0 led
  obtain ⟨-, -, stale⟩ := consumed (.finish 0) (.inl rfl)
  have key : f.key = "k" :=
    Option.some.inj ((congrArg (Option.map Flight.key) known).symm.trans (by decide))
  refine ⟨led, registered, ?_, by decide, by decide⟩
  rw [stale (by rw [key, registered]; decide), registered]

end FlightTable
end CachingProxy
