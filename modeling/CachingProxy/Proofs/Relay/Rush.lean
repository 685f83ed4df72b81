import Mathlib.Data.List.Nodup
import CachingProxy.Proofs.Relay.Trip

namespace CachingProxy

/-- What is asked for by many, and what its origin gives to each fetch. -/
structure Demand (ω : Type) where
  host : String
  path : String
  fields : ω → Headers
  served : ∀ w, (fields w).forbidStored = false
  head : FlightId → Head
  storable : ∀ id, (head id).isStorable = true
  chunks : FlightId → List Bytes

namespace Demand

variable {ω : Type} (d : Demand ω)

def inquiry (w : ω) : Inquiry := ⟨.get, d.host, d.path, d.fields w⟩

def key : String := Store.key d.host d.path

def trip (id : FlightId) : Trip := .begin id d.host d.path (d.head id) (d.chunks id)

def MetBy (c : Cache ω) (t : Trip) : Prop := t.Goes d.host d.path d.key (d.head t.id) (d.chunks t.id) c

def isStored (c : Cache ω) : Bool := (c.store.peek d.host d.path).isSome

theorem consult_eq (c : Cache ω) (w : ω) :
    c.consult true (d.inquiry w) =
      ({ c with store := c.store.step (.get d.host d.path) },
        (c.store.peek d.host d.path).map .hit) := by
  have served : (d.inquiry w).passesBy = false := by simp [Inquiry.passesBy, inquiry, d.served]
  rw [Cache.consult, if_neg (by simp [served])]
  simp only [inquiry, Store.step, Store.get]
  cases c.store.peek d.host d.path <;> rfl

theorem elect_eq (c : Cache ω) (w : ω) :
    (c.elect (d.inquiry w) w).1 = { c with flights := c.flights.step (.elect d.key w) } := rfl

theorem verdict_of_free {c : Cache ω} (free : c.flights.registered.get? d.key = none) (w : ω) :
    (c.elect (d.inquiry w) w).2.2 = .lead c.flights.next := by
  have elected := FlightTable.elect_of_none free w
  rw [key] at elected
  simp only [Cache.elect, Inquiry.key, inquiry, elected]

theorem verdict_of_taken {c : Cache ω} {id : FlightId}
    (taken : c.flights.registered.get? d.key = some id) (w : ω) :
    (c.elect (d.inquiry w) w).2.2 = .wait id := by
  have elected := FlightTable.elect_of_some taken w
  rw [key] at elected
  simp only [Cache.elect, Inquiry.key, inquiry, elected]

end Demand

/-- Many requests for one answer. Each looks for it and, if that is in vain, comes for the key later. -/
structure Rush (ω : Type) where
  cache : Cache ω
  /-- Who has looked for the answer in vain and has not come for the key since. -/
  missed : ω → Bool := fun _ => false
  /-- The fetches that leaders have begun. -/
  trips : List Trip := []

namespace Rush

variable {ω : Type}

inductive Event (ω : Type)
  | consult (w : ω)
  | elect (w : ω)
  | trip (i : Nat) (e : Trip.Event)
  /-- Somebody else does something to the flights. -/
  | flights (m : FlightTable.Move ω)
  /-- Somebody else does something to the store. -/
  | store (o : Store.Op)

variable [DecidableEq ω]

def step (d : Demand ω) (s : Rush ω) : Event ω → Rush ω
  | .consult w =>
    let (cache, verdict) := s.cache.consult true (d.inquiry w)
    { s with cache, missed := Function.update s.missed w verdict.isNone }
  | .elect w =>
    if s.missed w then
      let (cache, _, verdict) := s.cache.elect (d.inquiry w) w
      { cache
        missed := Function.update s.missed w false
        trips := match verdict with
          | .lead id => s.trips ++ [d.trip id]
          | _ => s.trips }
    else s
  | .trip i e =>
    match s.trips[i]? with
    | none => s
    | some t =>
      let (cache, t) := t.step s.cache e
      { s with cache, trips := s.trips.set i t }
  | .flights m => { s with cache := { s.cache with flights := s.cache.flights.step m } }
  | .store o => { s with cache := { s.cache with store := s.cache.store.step o } }

def after (d : Demand ω) (s : Rush ω) (es : List (Event ω)) : Rush ω := Course.after (step d) s es

/-- Whether somebody else drives the flight of a fetch, has anything to do with the key, or takes the
answer out of the store or puts another there. -/
def meddles (d : Demand ω) (s : Rush ω) : Event ω → Bool
  | .flights (.elect k _) | .flights (.remove k) => k = d.key
  | .flights m => s.trips.any fun t => m.drives t.id
  | .store o => s.cache.store.loses d.host d.path o
  | .consult _ | .elect _ | .trip _ _ => false

def meddlings (d : Demand ω) (s : Rush ω) (es : List (Event ω)) : List (Event ω) :=
  Course.noted (step d) (fun s e => if meddles d s e then [e] else []) s es

/-- Who is made to lead although the answer is stored. -/
def again (d : Demand ω) (s : Rush ω) : Event ω → List ω
  | .elect w =>
    match (s.cache.elect (d.inquiry w) w).2.2 with
    | .lead _ => if s.missed w ∧ d.isStored s.cache then [w] else []
    | _ => []
  | _ => []

def repeats (d : Demand ω) (s : Rush ω) (es : List (Event ω)) : List ω :=
  Course.noted (step d) (again d) s es

variable {d : Demand ω} {s : Rush ω} {t : Trip} {w : ω} {i : Nat} {id : FlightId}

theorem step_consult : step d s (.consult w) =
    { s with
      cache := { s.cache with store := s.cache.store.step (.get d.host d.path) }
      missed := Function.update s.missed w (s.cache.store.peek d.host d.path).isNone } := by
  simp only [step, d.consult_eq, Option.isNone_map]

theorem step_lead (missed : s.missed w = true)
    (free : s.cache.flights.registered.get? d.key = none) : step d s (.elect w) =
      { cache := { s.cache with flights := s.cache.flights.step (.elect d.key w) }
        missed := Function.update s.missed w false
        trips := s.trips ++ [d.trip s.cache.flights.next] } := by
  simp only [step, missed, if_true, d.elect_eq, d.verdict_of_free free]

theorem step_join (missed : s.missed w = true)
    (taken : s.cache.flights.registered.get? d.key = some id) : step d s (.elect w) =
      { s with
        cache := { s.cache with flights := s.cache.flights.step (.elect d.key w) }
        missed := Function.update s.missed w false } := by
  simp only [step, missed, if_true, d.elect_eq, d.verdict_of_taken taken]

/-- What holds all along if nobody meddles. Before the first fetch only those have missed the answer
who came when it was not there, and it still is not. -/
structure Sane (d : Demand ω) (s : Rush ω) : Prop where
  tidy : s.cache.flights.Tidy
  sound : s.cache.store.Sound
  met : ∀ t ∈ s.trips, d.MetBy s.cache t
  apart : (s.trips.map Trip.id).Nodup
  fresh : s.trips = [] → ∀ w, s.missed w = true → d.isStored s.cache = false

omit [DecidableEq ω] in
theorem sane_store (sane : Sane d s) {o : Store.Op}
    (kept : s.cache.store.loses d.host d.path o = false) :
    Sane d { s with cache := { s.cache with store := s.cache.store.step o } } := by
  obtain ⟨tidy, sound, met, apart, fresh⟩ := sane
  have same : d.isStored { s.cache with store := s.cache.store.step o } = d.isStored s.cache :=
    congrArg Option.isSome (Store.peek_step sound kept)
  refine ⟨tidy, Store.sound_step sound o, fun t mem => ?_, apart, fun none_yet w missed => ?_⟩
  · exact Trip.goes_others [] (met t mem) tidy rfl nofun (same.trans ·)
  · exact same.trans (fresh none_yet w missed)

theorem sane_consult (sane : Sane d s) (w : ω) : Sane d (step d s (.consult w)) := by
  have same : (s.cache.store.step (.get d.host d.path)).peek d.host d.path =
      s.cache.store.peek d.host d.path := Store.peek_step sane.sound rfl
  obtain ⟨tidy, sound, met, apart, fresh⟩ := sane_store sane (o := .get d.host d.path) rfl
  rw [step_consult]
  refine ⟨tidy, sound, met, apart, fun none_yet v missed => ?_⟩
  by_cases own : v = w
  · subst own
    simpa [Demand.isStored, same] using missed
  · exact fresh none_yet v (by simpa [own] using missed)

theorem sane_elect (sane : Sane d s) (w : ω) : Sane d (step d s (.elect w)) := by
  have whole := sane
  obtain ⟨tidy, sound, met, apart, fresh⟩ := sane
  have kept {t : Trip} (mem : t ∈ s.trips) :
      d.MetBy { s.cache with flights := s.cache.flights.step (.elect d.key w) } t := by
    refine Trip.goes_others [.elect d.key w] (met t mem) tidy rfl ?_ fun there => there
    simp [FlightTable.Move.drives]
  cases missed : s.missed w with
  | false => simpa [step, missed] using whole
  | true =>
    cases free : s.cache.flights.registered.get? d.key with
    | some id =>
      rw [step_join missed free]
      refine ⟨FlightTable.tidy_step tidy _, sound, fun t mem => kept mem, apart, ?_⟩
      intro none_yet v missed'
      exact fresh none_yet w missed
    | none =>
      rw [step_lead missed free]
      refine ⟨FlightTable.tidy_step tidy _, sound, fun t mem => ?_, ?_, by simp⟩
      · obtain old | new := List.mem_append.mp mem
        · exact kept old
        · rw [List.mem_singleton.mp new]
          refine Trip.goes_begin (d.storable _) (FlightTable.flight?_elected free w) ?_
          simp [FlightTable.get?_registered_step tidy, free]
      · -- The flights of the fetches are there, so none of them has the next number.
        have unseen : s.cache.flights.next ∉ s.trips.map Trip.id := by
          intro mem
          obtain ⟨t, mem, same⟩ := List.mem_map.mp mem
          obtain ⟨taken, bound⟩ := (met t mem).bound
          obtain ⟨f, there, -⟩ := bound.shows t.id rfl
          rw [same, tidy.sound.numbered _ (Nat.le_refl _)] at there
          cases there
        rw [List.map_append]
        refine List.nodup_append.mpr ⟨apart, List.pairwise_singleton _ _, ?_⟩
        rintro a old b new rfl
        rw [List.mem_singleton.mp new] at old
        exact unseen old

omit [DecidableEq ω] in
theorem mem_set_apart {ts : List Trip} {t' u : Trip} (apart : (ts.map Trip.id).Nodup)
    (there : ts[i]? = some t) (mem : u ∈ ts.set i t') : u = t' ∨ u ∈ ts ∧ t.id ≠ u.id := by
  obtain own | ⟨j, other, place⟩ := exists_of_mem_set mem
  · exact .inl own
  · refine .inr ⟨List.mem_of_getElem? place, fun same => other ?_⟩
    obtain ⟨within, -⟩ := List.getElem?_eq_some_iff.mp there
    exact (List.getElem?_inj (by simpa using within) apart).mp (by simp [there, place, same])

theorem sane_trip (sane : Sane d s) (i : Nat) (e : Trip.Event) : Sane d (step d s (.trip i e)) := by
  have whole := sane
  obtain ⟨tidy, sound, met, apart, fresh⟩ := sane
  cases there : s.trips[i]? with
  | none => simpa only [step, there] using whole
  | some t =>
    have mem := List.mem_of_getElem? there
    have named : (t.step s.cache e).2.id = t.id := rfl
    simp only [step, there]
    refine ⟨?_, (Trip.store_step (met t mem) sound e).1, fun u mem' => ?_, ?_, fun none_left => ?_⟩
    · rw [Trip.flights_step]
      exact tidy.after _
    · obtain rfl | ⟨old, other⟩ := mem_set_apart apart there mem'
      · rw [Demand.MetBy, named]
        exact Trip.goes_own (met t mem) tidy sound e
      · exact Trip.goes_other (met u old) (met t mem) other tidy sound e
    · obtain ⟨within, at_place⟩ := List.getElem?_eq_some_iff.mp there
      have inside : i < (s.trips.map Trip.id).length := by rwa [List.length_map]
      have own : t.id = (s.trips.map Trip.id)[i] := by rw [List.getElem_map, at_place]
      rwa [List.map_set, named, own, List.set_getElem_self]
    · rw [List.set_eq_nil_iff] at none_left
      rw [none_left] at mem
      cases mem

omit [DecidableEq ω] in
theorem aside_of_fair {m : FlightTable.Move ω} (fair : meddles d s (.flights m) = false)
    (mem : t ∈ s.trips) : m.drives t.id = false ∧ m ≠ .remove d.key := by
  cases m with
  | create _ | seat _ _ | elect _ _ => exact ⟨rfl, nofun⟩
  | remove k =>
    refine ⟨rfl, ?_⟩
    rintro ⟨⟩
    simp [meddles] at fair
  | setHead j _ | append j _ | flush j _ | abort j | finish j | abandon j =>
    have undriven := List.any_eq_false.mp fair t mem
    exact ⟨by simpa using undriven, nofun⟩

theorem sane_step (sane : Sane d s) (e : Event ω) (fair : meddles d s e = false) :
    Sane d (step d s e) := by
  cases e with
  | consult w => exact sane_consult sane w
  | elect w => exact sane_elect sane w
  | trip i e => exact sane_trip sane i e
  | flights m =>
    obtain ⟨tidy, sound, met, apart, fresh⟩ := sane
    refine ⟨FlightTable.tidy_step tidy m, sound, fun t mem => ?_, apart, fresh⟩
    refine Trip.goes_others [m] (met t mem) tidy rfl (fun n only => ?_) fun there => there
    rw [List.mem_singleton.mp only]
    exact aside_of_fair fair mem
  | store o => exact sane_store sane fair

theorem sane_after (sane : Sane d s) {es : List (Event ω)} (fair : meddlings d s es = []) :
    Sane d (after d s es) := by
  induction es generalizing s with
  | nil => exact sane
  | cons e es ih =>
    obtain ⟨early, late⟩ := List.append_eq_nil_iff.mp fair
    exact ih (sane_step sane e (by simpa using early)) late

omit [DecidableEq ω] in
theorem stored_of_hasLet (sane : Sane d s) (mem : t ∈ s.trips) (gone : t.relay.stage.hasLet = true) :
    d.isStored s.cache = true := by
  apply (sane.met t mem).stored
  cases stage : t.relay.stage with
  | leaving | finished => rfl
  | _ => simp [stage, Stage.hasLet] at gone

omit [DecidableEq ω] in
theorem stored_of_free (sane : Sane d s) (mem : t ∈ s.trips)
    (free : s.cache.flights.registered.get? d.key = none) : d.isStored s.cache = true := by
  cases gone : t.relay.stage.hasLet with
  | false => cases free.symm.trans ((sane.met t mem).registered gone)
  | true => exact stored_of_hasLet sane mem gone

theorem length_again (sane : Sane d s) (e : Event ω) :
    (again d s e).length + (s.trips.length - 1) = (step d s e).trips.length - 1 := by
  cases e with
  | consult w => simp [step_consult, again]
  | flights m | store o => simp [step, again]
  | trip i e =>
    cases there : s.trips[i]? <;> simp [step, again, there]
  | elect w =>
    cases missed : s.missed w with
    | false => simp only [step, again, missed]; split <;> simp
    | true =>
      cases free : s.cache.flights.registered.get? d.key with
      | some id => simp [step_join missed free, again, d.verdict_of_taken free]
      | none =>
        simp only [step_lead missed free, again, d.verdict_of_free free, missed, true_and]
        -- The first leader has missed the answer, which still is not there; for any other it is.
        cases trips : s.trips with
        | nil => simp [sane.fresh trips w missed]
        | cons t ts =>
          have stored := stored_of_free sane (t := t) (by simp [trips]) free
          simp [stored, Nat.add_comm]

theorem length_repeats (sane : Sane d s) {es : List (Event ω)} (fair : meddlings d s es = []) :
    (repeats d s es).length + (s.trips.length - 1) = (after d s es).trips.length - 1 := by
  induction es generalizing s with
  | nil => exact Nat.zero_add _
  | cons e es ih =>
    obtain ⟨early, late⟩ := List.append_eq_nil_iff.mp fair
    have now := length_again sane e
    have later := ih (sane_step sane e (by simpa using early)) late
    have all : repeats d s (e :: es) = again d s e ++ repeats d (step d s e) es := rfl
    rw [all, List.length_append]
    simp only [after, Course.after_cons] at later ⊢
    omega

/-- Whether the last look-up of a request was in vain, and it has not come for the key since. -/
def LookedInVain (d : Demand ω) (s : Rush ω) (es : List (Event ω)) (w : ω) : Prop :=
  ∃ before since, es = before ++ .consult w :: since ∧ .consult w ∉ since ∧ .elect w ∉ since ∧
    d.isStored (after d s before).cache = false

/-- Whether a request comes for the key when the answer is stored, although it has looked in vain. -/
def Caught (d : Demand ω) (s : Rush ω) (es : List (Event ω)) (w : ω) : Prop :=
  ∃ early late, es = early ++ .elect w :: late ∧ LookedInVain d s early w ∧
    d.isStored (after d s early).cache = true

theorem LookedInVain.concat {es : List (Event ω)} {e : Event ω} (vain : LookedInVain d s es w)
    (other : e ≠ .consult w ∧ e ≠ .elect w) : LookedInVain d s (es ++ [e]) w := by
  obtain ⟨before, since, rfl, unasked, unled, missing⟩ := vain
  refine ⟨before, since ++ [e], by simp, ?_, ?_, missing⟩
  · simp [unasked, other.1.symm]
  · simp [unled, other.2.symm]

theorem after_concat (es : List (Event ω)) (e : Event ω) :
    after d s (es ++ [e]) = step d (after d s es) e := Course.after_append _ s es [e]

theorem vain_of_missed (fresh : s.missed w = false) {es : List (Event ω)}
    (missed : (after d s es).missed w = true) : LookedInVain d s es w := by
  -- By induction on the last event: only a look-up in vain makes a request miss the answer.
  induction es using List.reverseRecOn with
  | nil => cases fresh.symm.trans missed
  | append_singleton es e ih =>
    rw [after_concat] at missed
    cases e with
    | consult v =>
      rw [step_consult] at missed
      by_cases own : w = v
      · subst own
        refine ⟨es, [], rfl, List.not_mem_nil, List.not_mem_nil, ?_⟩
        simpa [Demand.isStored] using missed
      · exact (ih (by simpa [own] using missed)).concat ⟨by simp [Ne.symm own], nofun⟩
    | elect v =>
      simp only [step] at missed
      split at missed
      · by_cases own : w = v
        · simp [own] at missed
        · exact (ih (by simpa [own] using missed)).concat ⟨nofun, by simp [Ne.symm own]⟩
      · next idle =>
        have own : v ≠ w := by
          rintro rfl
          exact idle missed
        exact (ih missed).concat ⟨nofun, by simp [own]⟩
    | trip i e =>
      cases there : (after d s es).trips[i]? <;> simp only [step, there] at missed <;>
        exact (ih missed).concat ⟨nofun, nofun⟩
    | flights m | store o => exact (ih missed).concat ⟨nofun, nofun⟩

theorem caught_of_repeats (fresh : ∀ w, s.missed w = false) {es : List (Event ω)}
    (mem : w ∈ repeats d s es) : Caught d s es w := by
  induction es using List.reverseRecOn with
  | nil => cases mem
  | append_singleton es e ih =>
    rw [repeats, Course.noted_concat] at mem
    obtain old | new := List.mem_append.mp mem
    · obtain ⟨early, late, rfl, vain, stored⟩ := ih old
      exact ⟨early, late ++ [e], by simp, vain, stored⟩
    · cases e with
      | elect v =>
        simp only [again] at new
        split at new
        · split at new
          · next late =>
            rw [List.mem_singleton] at new
            subst new
            exact ⟨es, [], rfl, vain_of_missed (fresh w) late.1, late.2⟩
          · cases new
        · cases new
      | consult _ | trip _ _ | flights _ | store _ => cases new

omit [DecidableEq ω] in
theorem eq_of_underway {u : Trip} (sane : Sane d s) (mem : t ∈ s.trips) (mem' : u ∈ s.trips)
    (going : t.relay.stage.hasLet = false) (going' : u.relay.stage.hasLet = false) : t = u := by
  have registered := (sane.met t mem).registered going
  have registered' := (sane.met u mem').registered going'
  apply List.inj_on_of_nodup_map sane.apart mem mem'
  exact Option.some.inj (registered.symm.trans registered')

omit [DecidableEq ω] in
theorem length_of_missing (sane : Sane d s) (missing : d.isStored s.cache = false) :
    s.trips.length ≤ 1 := by
  have going {t : Trip} (mem : t ∈ s.trips) : t.relay.stage.hasLet = false := by
    by_contra past
    have stored := stored_of_hasLet sane mem (by simpa using past)
    cases missing.symm.trans stored
  cases trips : s.trips with
  | nil => exact Nat.zero_le 1
  | cons t ts =>
    cases ts with
    | nil => exact Nat.le_refl 1
    | cons u ts =>
      have first : t ∈ s.trips := by simp [trips]
      have second : u ∈ s.trips := by simp [trips]
      obtain rfl := eq_of_underway sane first second (going first) (going second)
      have apart := sane.apart
      simp [trips] at apart

/-- Nobody has come for the answer yet. -/
def start (prior : List (FlightTable.Move ω)) (store : Store) : Rush ω where
  cache := { store, flights := FlightTable.after {} prior }

omit [DecidableEq ω] in
theorem sane_start {capacity : Nat} {empty : Store} (made : Store.new capacity = .ok empty)
    (ops : List Store.Op) (prior : List (FlightTable.Move ω)) (d : Demand ω) :
    Sane d (start prior (empty.after ops)) where
  tidy := FlightTable.tidy_after prior
  sound := Store.sound_after (Store.sound_new made) ops
  met _ mem := absurd mem List.not_mem_nil
  apart := List.nodup_nil
  fresh _ _ missed := absurd missed Bool.false_ne_true

/-- For everything that was done before, all requests for one answer, each of which looks for it and, if
that is in vain, comes for the key later, all good fetches, and whatever else happens in any order as
long as nobody meddles: one fetch at a time is under way, and one is all as long as the answer is not
stored; every leader but the first is made to lead although it is; this happens only to those who had
looked in vain before it was; and if it happens to none, then one fetch is all that is made. -/
theorem single_unless_caught {capacity : Nat} {empty : Store} (made : Store.new capacity = .ok empty)
    (ops : List Store.Op) (prior : List (FlightTable.Move ω)) (d : Demand ω) (es : List (Event ω))
    (fair : meddlings d (start prior (empty.after ops)) es = []) :
    let x := start prior (empty.after ops)
    let s := after d x es
    (∀ t ∈ s.trips, ∀ u ∈ s.trips, t.relay.stage.hasLet = false → u.relay.stage.hasLet = false →
      t = u) ∧
    (d.isStored s.cache = false → s.trips.length ≤ 1) ∧
    (repeats d x es).length = s.trips.length - 1 ∧
    (∀ w ∈ repeats d x es, Caught d x es w) ∧
    ((∀ w, ¬ Caught d x es w) → repeats d x es = [] ∧ s.trips.length ≤ 1) := by
  have first := sane_start made ops prior d
  have none_yet : (start prior (empty.after ops)).trips = [] := rfl
  have count := length_repeats first fair
  rw [none_yet, List.length_nil, Nat.zero_sub, Nat.add_zero] at count
  have caught (w : ω) (mem : w ∈ repeats d (start prior (empty.after ops)) es) :=
    caught_of_repeats (fun _ => rfl) mem
  have sane := sane_after first fair
  refine ⟨fun t mem u mem' => eq_of_underway sane mem mem', length_of_missing sane, count, caught, ?_⟩
  intro uncaught
  have none_again : repeats d (start prior (empty.after ops)) es = [] :=
    List.eq_nil_iff_forall_not_mem.mpr fun w mem => uncaught w (caught w mem)
  rw [none_again, List.length_nil] at count
  exact ⟨none_again, by omega⟩

def plain : Demand Nat where
  host := "h"
  path := "/p"
  fields _ := []
  served _ := rfl
  head _ := ⟨.ok, []⟩
  storable _ := rfl
  chunks _ := [[1]]

/-- The second request joins the first one's fetch and the third finds the answer: one fetch is all. -/
theorem single_unless_caught_of_three :
    let es : List (Event Nat) := [.consult 0, .consult 1, .elect 0, .elect 1, .trip 0 .send, .trip 0 .send,
      .flights (.seat 0 9)] ++ List.replicate 8 (.trip 0 .advance) ++ [.consult 2, .elect 2]
    let x := start [] (.empty 1)
    repeats plain x es = [] ∧ (after plain x es).trips.length = 1 := by
  intro es x
  have made : Store.new 1 = .ok (.empty 1) := rfl
  obtain ⟨-, -, count, -, -⟩ := single_unless_caught made [] [] plain es (by decide +kernel)
  have trips : (after plain x es).trips.length = 1 := by decide +kernel
  rw [Store.after_nil] at count
  exact ⟨List.length_eq_zero_iff.mp (count.trans (congrArg (· - 1) trips)), trips⟩

/-- The second request looks in vain, the first one's fetch comes to its good end, and only then the
second request comes for the key: it leads a second fetch, although the answer is stored. -/
theorem repeats_after_landing :
    let es : List (Event Nat) := [.consult 0, .elect 0, .consult 1, .trip 0 .send, .trip 0 .send] ++
      List.replicate 8 (.trip 0 .advance)
    let x := start [] (.empty 1)
    meddlings plain x (es ++ [.elect 1]) = [] ∧ plain.isStored (after plain x es).cache = true ∧
      repeats plain x (es ++ [.elect 1]) = [1] ∧ (after plain x (es ++ [.elect 1])).trips.length = 2 := by
  intro es x
  refine ⟨?_, ?_, ?_, ?_⟩ <;> decide +kernel

end Rush
end CachingProxy
