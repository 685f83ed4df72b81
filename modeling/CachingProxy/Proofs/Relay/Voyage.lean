import CachingProxy.Proofs.Relay.Trip

namespace CachingProxy

variable {ω : Type}

/-- What is fetched, in which flight if in any, and what the origin gives. -/
structure Order where
  host : String
  path : String
  lead : Option FlightId
  outcome : Fetched
  sent : List Fed

namespace Order

def key (o : Order) : String := Store.key o.host o.path

/-- Whether an answer is the whole of what the origin gives, and one for the store. -/
def Gives (o : Order) (a : Response) : Prop :=
  o.outcome = .answered a.head ∧ a.head.isStorable = true ∧ Fed.fate? o.sent = some .ended ∧
    a.body = (Fed.chunks o.sent).flatten

end Order

namespace FlightTable

variable {t : FlightTable ω} {m : Move ω} {ms : List (Move ω)} {id j : FlightId} {key : String}

theorem registered_of_driven (tidy : t.Tidy) (driven : ∀ m ∈ ms, ∃ id, m.drives id = true)
    (there : (t.after ms).registered.get? key = some j) : t.registered.get? key = some j := by
  induction ms generalizing t with
  | nil => exact there
  | cons m ms ih =>
    have before := ih (tidy_step tidy m) (fun m mem => driven m (List.mem_cons_of_mem _ mem)) there
    obtain ⟨id, drives⟩ := driven m List.mem_cons_self
    rw [get?_registered_step tidy] at before
    cases m with
    | create _ | elect _ _ | seat _ _ | remove _ => cases drives
    | setHead _ _ | append _ _ | flush _ _ | abort _ => exact before
    | finish i | abandon i =>
      dsimp only at before
      split at before
      · cases before
      · exact before

theorem seatings_of_driven (driven : ∀ m ∈ ms, ∃ id, m.drives id = true) : t.seatings ms = [] := by
  induction ms generalizing t with
  | nil => rfl
  | cons m ms ih =>
    obtain ⟨id, drives⟩ := driven m List.mem_cons_self
    have later := ih (t := t.step m) fun m mem => driven m (List.mem_cons_of_mem _ mem)
    have unseated : t.seating m = [] := by
      cases m with
      | create _ | elect _ _ | seat _ _ | remove _ => cases drives
      | setHead _ _ | append _ _ | flush _ _ | abort _ | finish _ | abandon _ => rfl
    rw [seatings, Course.noted_cons, unseated]
    exact later

end FlightTable

namespace Flight

/-- That a flight has nothing but what the origin gives. -/
structure Tells (f : Flight ω) (o : Order) : Prop where
  head : ∀ h, f.head = some h → o.outcome = .answered h
  body : f.body <+: (Fed.chunks o.sent).flatten
  whole : f.phase = .closed →
    Fed.fate? o.sent = some .ended ∧ f.body = (Fed.chunks o.sent).flatten

variable {f : Flight ω} {o : Order} {h : Head} {head : Option Head} {body : Bytes}

theorem tells_of_carries (c : f.Carries head body) (known : ∀ h, head = some h → o.outcome = .answered h)
    (part : body <+: (Fed.chunks o.sent).flatten) : f.Tells o := by
  refine ⟨c.head ▸ known, c.body ▸ part, fun closed => ?_⟩
  have going := c.going
  rw [closed] at going
  cases going

theorem tells_of_crashed (c : f.Crashed head body) (known : ∀ h, head = some h → o.outcome = .answered h)
    (part : body <+: (Fed.chunks o.sent).flatten) : f.Tells o :=
  ⟨c.head ▸ known, c.body ▸ part, fun closed => by cases closed.symm.trans c.aborted⟩

theorem tells_of_landed (l : f.Landed h body) (known : o.outcome = .answered h)
    (all : body = (Fed.chunks o.sent).flatten) (good : Fed.fate? o.sent = some .ended) : f.Tells o := by
  refine ⟨fun g named => ?_, l.body.trans all ▸ List.prefix_rfl, fun _ => ⟨good, l.body.trans all⟩⟩
  obtain rfl : h = g := Option.some.inj (l.head.symm.trans named)
  exact known

end Flight

namespace Relay

variable {r r' : Relay} {c c' : Cache ω} {ps : Postings ω} {lead : Option FlightId} {f : Flight ω}
  {h : Head} {sent upcoming : List Fed} {taken : List Bytes} {o : Order}

def Refused (r : Relay) : Prop :=
  match r.stage with
  | .fetching => ∀ h, r.fetched ≠ some (.answered h)
  | .refusing _ | .abandoning | .finished => True
  | _ => False

theorem refused_turn (refused : r.Refused) (turn : r.Turn r') : r'.Refused := by
  cases turn with
  | answered h stage known => simp [Refused, stage, known] at refused
  | refused e stage known | died stage known | abandoned stage | told e stage => trivial
  | opened g stage | took g b rest stage | broke g e rest stage | ended g rest stage
  | panicked g rest stage | offered g b stage | reported detail stage | stored g stage
  | landed stage | left stage | failed stage => simp [Refused, stage] at refused

theorem stands_turn (refused : r.Refused) (stands : f.Stands r.stage none []) (turn : r.Turn r') :
    (f.after r.acts).Stands r'.stage none [] := by
  cases turn with
  | answered h stage known => simp [Refused, stage, known] at refused
  | refused e stage known | died stage known => simpa [Flight.Stands, acts, stage] using stands
  | abandoned stage | told e stage =>
    have carries : f.Carries none [] := by simpa [Flight.Stands, stage] using stands
    simp only [acts, stage, Flight.Stands, if_true]
    exact Flight.crashed_abort carries
  | opened g stage | took g b rest stage | broke g e rest stage | ended g rest stage
  | panicked g rest stage | offered g b stage | reported detail stage | stored g stage
  | landed stage | left stage | failed stage => simp [Refused, stage] at refused

/-- A relay whose request is not answered, with the flight that it leads or led, if any. -/
structure Barren (r : Relay) (c : Cache ω) (lead : Option FlightId) : Prop where
  refused : r.Refused
  leads : r.stage.hasLet = false → r.lead = lead
  stands : ∀ id ∈ lead, ∃ f, c.flights.flight? id = some f ∧ f.Stands r.stage none []

theorem barren_step (barren : r.Barren c lead) (sound : c.flights.Sound)
    (stepped : r.step c = some (c', r', ps)) : r'.Barren c' lead := by
  have turn := turn_of_step stepped
  refine ⟨refused_turn barren.refused turn, fun going => ?_, fun id own => ?_⟩
  · obtain ⟨before, same⟩ := lead_turn turn going
    exact same.trans (barren.leads before)
  · obtain ⟨f, there, stands⟩ := barren.stands id own
    exact ⟨_, flight?_acted sound barren.leads own there stepped,
      stands_turn barren.refused stands turn⟩

theorem ops_barren (barren : r.Barren c lead) : r.ops c = [] := by
  have refused := barren.refused
  cases stage : r.stage with
  | storing g => simp [Refused, stage] at refused
  | _ => simp [ops, stage]

theorem tells_of_barren (barren : r.Barren c o.lead) {id : FlightId} (own : o.lead = some id) :
    ∃ f, c.flights.flight? id = some f ∧ f.Tells o := by
  obtain ⟨f, there, stands⟩ := barren.stands id own
  refine ⟨f, there, ?_⟩
  unfold Flight.Stands at stands
  split at stands
  · exact Flight.tells_of_crashed stands nofun List.nil_prefix
  · exact Flight.tells_of_carries stands nofun List.nil_prefix

theorem taken_prefix (account : r.Account h sent (r.feed ++ upcoming) taken) :
    taken <+: Fed.chunks sent := by
  cases stage : r.stage with
  | fetching | opening g =>
    simp only [Account, stage] at account
    exact account.2.1 ▸ List.nil_prefix
  | pumping g | offering g b =>
    simp only [Account, stage] at account
    rw [account.2, Fed.chunks_append]
    exact List.prefix_append _ _
  | storing g =>
    simp only [Account, stage] at account
    exact account.2.1 ▸ List.prefix_rfl
  | reporting _ | landing | leaving | failing | abandoning | finished =>
    simp only [Account, stage] at account
    exact account.1 ▸ List.prefix_rfl
  | refusing e => simp only [Account, stage] at account

theorem tells_of_bound (bound : r.Bound c o.lead h o.sent upcoming taken)
    (answered : o.outcome = .answered h) {id : FlightId} (own : o.lead = some id) :
    ∃ f, c.flights.flight? id = some f ∧ f.Tells o := by
  obtain ⟨f, there, shows⟩ := bound.shows id own
  refine ⟨f, there, ?_⟩
  have part : taken.flatten <+: (Fed.chunks o.sent).flatten := by
    obtain ⟨rest, all⟩ := taken_prefix bound.account
    rw [← all, List.flatten_append]
    exact List.prefix_append _ _
  have known : ∀ g, some h = some g → o.outcome = .answered g := by
    rintro g ⟨⟩
    exact answered
  have account := bound.account
  cases stage : r.stage with
  | fetching | opening g =>
    simp only [stage, Flight.Shows] at shows
    exact Flight.tells_of_carries shows (by simp) List.nil_prefix
  | leaving =>
    simp only [Account, stage] at account
    simp only [stage, Flight.Shows] at shows
    exact Flight.tells_of_landed shows answered (congrArg _ account.1) account.2
  | finished =>
    simp only [Account, stage] at account
    simp only [stage, Flight.Shows] at shows
    split at shows
    · next good => exact Flight.tells_of_landed shows answered (congrArg _ account.1) good
    · exact Flight.tells_of_crashed shows known part
  | pumping _ | offering _ _ | reporting _ | storing _ | landing | failing | abandoning | refusing _ =>
    simp only [stage, Flight.Shows] at shows
    exact Flight.tells_of_carries shows known part

end Relay

/-- A fetch with the client that it is for. -/
structure Voyage where
  lead : Option FlightId
  outcome : Fetched
  sent : List Fed
  relay : Relay
  upcoming : List Fed
  client : Client := {}

namespace Voyage

def order (t : Voyage) : Order := ⟨t.relay.host, t.relay.path, t.lead, t.outcome, t.sent⟩

def begin (o : Order) : Voyage where
  lead := o.lead
  outcome := o.outcome
  sent := o.sent
  relay := { host := o.host, path := o.path, lead := o.lead, fetched := some o.outcome }
  upcoming := o.sent

@[simp] theorem order_begin (o : Order) : (begin o).order = o := rfl

/-- What the relay is and what its flight has, whether or not the request is answered. -/
def Fares (c : Cache ω) (t : Voyage) : Prop :=
  match t.outcome with
  | .answered h => ∃ taken, t.relay.Bound c t.lead h t.sent t.upcoming taken
  | .failed _ | .panicked => t.relay.Barren c t.lead

/-- The fetch as an exchange of its own, among all else that goes on at the cache. -/
def visit (c : Cache ω) (lines : ω → Line) (t : Voyage) : Exchange ω :=
  ⟨c, t.relay, t.upcoming, t.client, lines⟩

def resume (t : Voyage) (x : Exchange ω) : Voyage :=
  { t with relay := x.relay, upcoming := x.upcoming, client := x.client }

variable {t : Voyage} {c c' : Cache ω} {lines : ω → Line} {id : FlightId} {m : FlightTable.Move ω}
  {ms : List (FlightTable.Move ω)} {o : Order}

theorem fares_begin (there : ∀ id ∈ o.lead, ∃ f, c.flights.flight? id = some f ∧ f.Carries none []) :
    (begin o).Fares c := by
  cases outcome : o.outcome with
  | answered h =>
    simp only [Fares, begin, outcome]
    exact ⟨[], ⟨rfl, rfl, rfl⟩, fun _ => rfl, there, fun _ _ => rfl⟩
  | failed e | panicked =>
    simp only [Fares, begin, outcome]
    exact ⟨by simp [Relay.Refused], fun _ => rfl, there⟩

theorem lead_of_fares (fares : t.Fares c) : t.relay.stage.hasLet = false → t.relay.lead = t.lead := by
  unfold Fares at fares
  split at fares
  · obtain ⟨taken, bound⟩ := fares
    exact bound.leads
  · exact fares.leads
  · exact fares.leads

theorem fares_others (fares : t.Fares c) (sound : c.flights.Sound)
    (undriven : ∀ id ∈ t.lead, ∀ m ∈ ms, m.drives id = false)
    (flights : c'.flights = c.flights.after ms) : t.Fares c' := by
  have barren (barren : t.relay.Barren c t.lead) : t.relay.Barren c' t.lead := by
    refine ⟨barren.refused, barren.leads, fun id own => ?_⟩
    rw [flights]
    exact FlightTable.kept_undriven (fun _ w stands => Flight.stands_join stands w) sound
      (undriven id own) (barren.stands id own)
  unfold Fares at fares ⊢
  split at fares
  · obtain ⟨taken, bound⟩ := fares
    exact ⟨taken, Relay.bound_others bound sound undriven flights⟩
  · exact barren fares
  · exact barren fares

theorem tells_of_fares (fares : t.Fares c) (own : t.lead = some id) :
    ∃ f, c.flights.flight? id = some f ∧ f.Tells t.order := by
  unfold Fares at fares
  split at fares
  · next h outcome =>
    obtain ⟨taken, bound⟩ := fares
    exact Relay.tells_of_bound (o := t.order) bound outcome own
  · exact Relay.tells_of_barren (o := t.order) fares own
  · exact Relay.tells_of_barren (o := t.order) fares own

theorem sails_of_bound {h : Head} {taken : List Bytes} (tidy : c.flights.Tidy)
    (bound : t.relay.Bound c t.lead h t.sent t.upcoming taken) :
    Visit.Sails t.relay.host t.relay.path t.lead h t.sent (t.visit c lines) taken :=
  ⟨⟨rfl, rfl⟩, tidy, bound⟩

theorem gives_of_mem_storing (fares : t.Fares c) {e : Trip.Event} {p : Store.Op}
    (mem : p ∈ Visit.storing (t.visit c lines) (Trip.event e)) :
    ∃ a, p = .store t.relay.host t.relay.path a ∧ t.order.Gives a := by
  have among : p ∈ t.relay.ops c := by
    cases e with
    | advance =>
      simp only [Trip.event, Visit.storing] at mem
      split at mem
      · exact mem
      · cases mem
    | send | read | leave => cases mem
  unfold Fares at fares
  split at fares
  · next h outcome =>
    obtain ⟨taken, bound⟩ := fares
    cases stage : t.relay.stage with
    | storing g =>
      have account := bound.account
      simp only [Relay.Account, stage] at account
      rw [Relay.ops_of_bound bound stage] at among
      split at among
      · next storable =>
        exact ⟨_, List.mem_singleton.mp among, outcome, storable, account.2.2, rfl⟩
      · cases among
    | _ => simp [Relay.ops, stage] at among
  · rw [Relay.ops_barren fares] at among
    cases among
  · rw [Relay.ops_barren fares] at among
    cases among

variable [DecidableEq ω]

theorem order_resume (t : Voyage) (c : Cache ω) (lines : ω → Line) (e : Trip.Event) :
    (t.resume (Visit.step (t.visit c lines) (Trip.event e))).order = t.order := by
  obtain ⟨host, path⟩ := Visit.name_step (s := t.visit c lines) ⟨rfl, rfl⟩ (Trip.event e)
  exact congrArg₂ (fun host path => (⟨host, path, t.lead, t.outcome, t.sent⟩ : Order)) host path

theorem barren_visit {s : Exchange ω} {lead : Option FlightId} (barren : s.relay.Barren s.cache lead)
    (sound : s.cache.flights.Sound) (e : Trip.Event) :
    (Visit.step s (Trip.event e)).relay.Barren (Visit.step s (Trip.event e)).cache lead := by
  cases e with
  | send =>
    cases upcoming : s.upcoming <;> simp only [Trip.event, Visit.step, Exchange.step, upcoming]
    · exact barren
    · exact ⟨barren.refused, barren.leads, barren.stands⟩
  | advance =>
    cases stepped : s.relay.step s.cache with
    | none => simpa only [Trip.event, Visit.step, Exchange.step, stepped] using barren
    | some y =>
      simp only [Trip.event, Visit.step, Exchange.step, stepped]
      exact Relay.barren_step barren sound stepped
  | read =>
    obtain ⟨client, read⟩ := s.relay.exists_read s.client
    simp only [Trip.event, Visit.step]
    split
    · simp only [Exchange.step, read]
      exact ⟨barren.refused, barren.leads, barren.stands⟩
    · exact barren
  | leave => exact ⟨barren.refused, barren.leads, barren.stands⟩

theorem fares_own (fares : t.Fares c) (tidy : c.flights.Tidy) (lines : ω → Line) (e : Trip.Event) :
    (t.resume (Visit.step (t.visit c lines) (Trip.event e))).Fares
      (Visit.step (t.visit c lines) (Trip.event e)).cache := by
  cases outcome : t.outcome with
  | answered h =>
    simp only [Fares, outcome, resume] at fares ⊢
    obtain ⟨taken, bound⟩ := fares
    exact ⟨_, (Visit.sails_step (sails_of_bound tidy bound) (Trip.event e)
      fun id own m same => absurd same (Trip.alone e m)).bound⟩
  | failed f | panicked =>
    simp only [Fares, outcome, resume] at fares ⊢
    exact barren_visit (s := t.visit c lines) fares tidy.sound e

end Voyage
end CachingProxy
