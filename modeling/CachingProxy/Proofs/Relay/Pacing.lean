import CachingProxy.Proofs.Relay.Likeness

namespace CachingProxy

namespace Fed

@[simp] theorem chunks_map_chunk (bs : List Bytes) : chunks (bs.map .chunk) = bs := by
  simpa [chunks] using chunks_append bs []

@[simp] theorem fate?_map_chunk (bs : List Bytes) : fate? (bs.map .chunk) = none := by
  simpa [fate?] using fate?_append bs []

theorem chunk_injective : Function.Injective Fed.chunk := fun _ _ same => Fed.chunk.inj same

end Fed

namespace Flight

variable {ω : Type} [DecidableEq ω] {f : Flight ω} {w : ω} {h : Head} {body : Bytes} {t : Transcript}

/-- The follower has been handed the head, and the body as far as it has come. -/
def Abreast (f : Flight ω) (w : ω) : Prop :=
  ∀ s ∈ f.seatsOf w, s.headed = true ∧ s.offset = f.body.length

theorem abreast_join {v : ω} (abreast : f.Abreast w) (ne : v ≠ w) : (f.join v).1.Abreast w := by
  obtain ⟨-, body, -⟩ := f.join_frame v
  rw [Abreast, seatsOf_join_ne ne, body]
  exact abreast

theorem abreast_flush (carries : f.Carries (some h) body)
    (opened : ∀ s ∈ f.seatsOf w, s.finished = false) : (f.flush false).1.Abreast w := by
  intro s mem
  rw [seatsOf_flush carries.head carries.going] at mem
  obtain ⟨s, old, rfl⟩ := List.mem_map.mp mem
  rw [Seat.flush_seat (opened s old), f.flush_frame.2.1]
  exact ⟨rfl, rfl⟩

theorem Served.opened (served : f.Served w t) (going : f.phase.isOver = false) :
    ∀ s ∈ f.seatsOf w, s.finished = false := by
  obtain ⟨s, only, records⟩ := served.seated going
  intro s' mem
  obtain rfl : s' = s := by simpa [only] using mem
  exact records.finished.trans (served.isOver.trans going)

theorem deliveries_of_abreast (served : f.Served w t) (carries : f.Carries (some h) body)
    (abreast : f.Abreast w) :
    ∃ ps, t.deliveries = Transcript.opening h ps ∧ ps.flatMap Piece.bytes = body := by
  obtain ⟨s, only, records⟩ := served.seated carries.going
  obtain ⟨headed, offset⟩ := abreast s (by simp [only])
  have whole : t.bytes = f.body := served.bytes.eq_of_length (records.offset.symm.trans offset)
  have opened : t.isOver = false := served.isOver.trans carries.going
  cases t with
  | nothing => cases records.headed.symm.trans headed
  | begun g ps =>
    obtain rfl : g = h := Option.some.inj ((served.head g rfl).symm.trans carries.head)
    exact ⟨ps, rfl, whole.trans carries.body⟩
  | refused | bare _ | ended _ _ _ | broken _ _ => cases opened

end Flight

namespace Relay

variable {ω : Type} {c c' : Cache ω} {r r' : Relay} {h : Head} {sent upcoming : List Fed}
  {chunks taken : List Bytes} {id : FlightId} {own : List (FlightTable.Move ω)} {p : Client}

def passing (id : FlightId) (h : Head) (taken : List Bytes) : List (FlightTable.Move ω) :=
  [.setHead id h, .flush id false] ++ taken.flatMap fun b => [.append id b, .flush id false]

/-- All that a relay has done to its flight, by the stage of its task. -/
def Passed (r : Relay) (id : FlightId) (h : Head) (taken : List Bytes)
    (own : List (FlightTable.Move ω)) : Prop :=
  match r.stage with
  | .fetching | .opening _ => own = []
  | .leaving => own = passing id h taken ++ [.finish id]
  | .finished =>
    own = passing id h taken ++ [.finish id] ∨ own = passing id h taken ++ [.abandon id]
  | _ => own = passing id h taken

theorem passed_turn (account : r.Account h sent (r.feed ++ upcoming) taken)
    (leads : r.stage.hasLet = false → r.lead = some id) (passed : r.Passed id h taken own)
    (turn : r.Turn r') : r'.Passed id h (taken ++ r.taking) (own ++ r.moves) := by
  cases turn with
  | answered g stage known =>
    simpa [Passed, stage, moves, leads (by simp [stage, Stage.hasLet])] using passed
  | refused e stage known | died stage known =>
    simp only [Account, stage, known] at account
    cases account.1
  | told e stage => simp only [Account, stage] at account
  | opened g stage =>
    simp only [Account, stage] at account
    obtain ⟨rfl, rfl, -⟩ := account
    simp only [Passed, stage] at passed
    simp [Passed, stage, taking, moves, leads (by simp [stage, Stage.hasLet]), passed, passing]
  | took g b rest stage next =>
    simp only [Passed, stage] at passed
    simp [Passed, stage, next, taking, moves, leads (by simp [stage, Stage.hasLet]), passed, passing]
  | left stage =>
    simp only [Passed, stage] at passed
    have unmoved := (idle_of_hasLet (r := r) (ω := ω) (by rw [stage]; rfl)).1
    simp [Passed, stage, taking, unmoved, passed]
  | broke g e rest stage next | ended g rest stage next | panicked g rest stage next =>
    simp only [Passed, stage] at passed
    simp [Passed, stage, next, taking, moves, leads (by simp [stage, Stage.hasLet]), passed]
  | offered g b stage | reported detail stage | stored g stage | landed stage | failed stage
  | abandoned stage =>
    simp only [Passed, stage] at passed
    simp [Passed, stage, taking, moves, leads (by simp [stage, Stage.hasLet]), passed]

def Within (r : Relay) : Prop :=
  r.client.room = clientRoom ∧ r.client.waiting.length ≤ clientRoom

theorem within_turn (within : r.Within) (turn : r.Turn r') : r'.Within := by
  have within_send (a : Except String Bytes) : Within { r with client := (r.client.send a).1 } := by
    obtain ⟨room, fits⟩ := within
    by_cases heard : r.client.heard = true
    · by_cases full : r.client.room ≤ r.client.waiting.length
      · simpa [Channel.send, heard, full] using ⟨room, fits⟩
      · have free : r.client.waiting.length < clientRoom := by omega
        simpa [Within, Channel.send, heard, full] using ⟨room, free⟩
    · simpa [Channel.send, heard] using ⟨room, fits⟩
  cases turn with
  | offered g b stage room => exact within_send _
  | reported detail stage room => exact within_send _
  | _ => exact within

theorem within_read (within : r.Within) : (r.read p).1.Within := by
  have shorter : Within { r with client := r.client.read.1 } := by
    refine ⟨within.1, Nat.le_trans ?_ within.2⟩
    show (Arrival.next r.client.waiting r.client.fed).2.length ≤ r.client.waiting.length
    cases r.client.waiting <;> simp [Arrival.next]
  unfold read
  split
  · exact within
  · split
    · split <;> exact within
    · split
      · next found => rwa [found] at shorter
      · next found => rwa [found] at shorter
      · exact within
      · exact within

theorem pumps_of_account (account : r.Account h (chunks.map .chunk) upcoming taken) :
    r.stage = .fetching ∨ r.stage = .opening h ∨ r.stage = .pumping h ∨
      ∃ b, r.stage = .offering h b := by
  cases stage : r.stage with
  | fetching => exact .inl rfl
  | opening g | pumping g | offering g b =>
    simp only [Account, stage] at account
    simp [account.1]
  | _ => simp [Account, stage] at account

theorem taken_of_waiting (account : r.Account h (chunks.map .chunk) r.feed taken)
    (waits : r.step c = none) :
    r.stage = .pumping h ∧ taken = chunks ∨
      (∃ b, r.stage = .offering h b) ∧ r.client.heard = true ∧
        r.client.room ≤ r.client.waiting.length ∧ taken <+: chunks := by
  obtain stage | stage | stage | ⟨b, stage⟩ := pumps_of_account account
  · simp only [Account, stage] at account
    simp [step, stage, account.1] at waits
  · simp [step, stage] at waits
  · simp only [Account, stage] at account
    cases feed : r.feed with
    | nil =>
      have all : chunks.map Fed.chunk = taken.map .chunk := by simpa [feed] using account
      exact .inl ⟨stage, (Fed.chunk_injective.list_map all).symm⟩
    | cons x feed' => cases x <;> simp [step, stage, feed] at waits
  · simp only [Account, stage, true_and] at account
    have part : taken <+: chunks := by
      have all := congrArg Fed.chunks account
      rw [Fed.chunks_map_chunk, Fed.chunks_append] at all
      exact all ▸ List.prefix_append _ _
    cases heard : r.client.heard with
    | false => simp [step, stage, Channel.send, heard] at waits
    | true =>
      by_cases full : r.client.room ≤ r.client.waiting.length
      · exact .inr ⟨⟨b, stage⟩, rfl, full, part⟩
      · simp [step, stage, Channel.send, heard, full] at waits

/-- What a client that is there has read, and what it has not read yet, is all but the chunk in hand. -/
theorem length_taken (told : r.Told p h (chunks.map .chunk) taken) (heard : r.client.heard = true) :
    (r.stage = .pumping h → taken.length = p.pieces.length + r.client.waiting.length) ∧
      ((∃ b, r.stage = .offering h b) →
        taken.length = p.pieces.length + r.client.waiting.length + 1) := by
  have going : p.ended = false := by
    cases ended : p.ended with
    | false => rfl
    | true =>
      obtain ⟨-, -, known, -⟩ := told.ended ended
      simp at known
  have hears := told.hears heard going
  constructor
  · intro stage
    simp only [Hears, stage] at hears
    simpa using (congrArg List.length hears).symm
  · rintro ⟨b, stage⟩
    simp only [Hears, stage] at hears
    simpa [Nat.add_assoc] using (congrArg List.length hears).symm

theorem take_of_waiting (account : r.Account h (chunks.map .chunk) r.feed taken)
    (told : r.Told p h (chunks.map .chunk) taken) (within : r.Within) (waits : r.step c = none) :
    taken = chunks.take
      (if r.client.heard then min chunks.length (p.pieces.length + clientRoom + 1)
      else chunks.length) := by
  obtain ⟨room, fits⟩ := within
  obtain ⟨stage, rfl⟩ | ⟨stage, heard, full, part⟩ := taken_of_waiting account waits
  · cases heard : r.client.heard with
    | false => simp
    | true =>
      have length := (length_taken told heard).1 stage
      rw [if_pos rfl, List.take_of_length_le (by omega)]
  · have length := (length_taken told heard).2 stage
    have shorter := part.length_le
    rw [if_pos heard, List.prefix_iff_eq_take.mp part]
    congr 1
    omega

variable {ps : Postings ω} {f : Flight ω} {w : ω}

theorem going_of_bound (bound : r.Bound c (some id) h (chunks.map .chunk) upcoming taken)
    (there : c.flights.flight? id = some f) : f.phase.isOver = false := by
  obtain ⟨g, there', shows⟩ := bound.shows id rfl
  obtain rfl : g = f := Option.some.inj (there'.symm.trans there)
  obtain stage | stage | stage | ⟨b, stage⟩ := pumps_of_account bound.account <;>
    · simp only [stage, Flight.Shows] at shows
      exact shows.going

theorem abreast_step [DecidableEq ω] (bound : r.Bound c (some id) h (chunks.map .chunk) upcoming taken)
    (sound : c.flights.Sound) (there : c.flights.flight? id = some f)
    (opened : ∀ s ∈ f.seatsOf w, s.finished = false) (stepped : r.step c = some (c', r', ps))
    (due : .flush id false ∈ (r.moves : List (FlightTable.Move ω)) ∨ f.Abreast w) :
    ∃ g, c'.flights.flight? id = some g ∧ g.Abreast w := by
  refine ⟨_, flight?_acted sound bound.leads rfl there stepped, ?_⟩
  obtain ⟨f', there', shows⟩ := bound.shows id rfl
  obtain rfl : f' = f := Option.some.inj (there'.symm.trans there)
  have pumps := pumps_of_account bound.account
  have account := bound.account
  have unending := Fed.fate?_map_chunk chunks
  cases turn_of_step stepped with
  | opened g stage =>
    simp only [stage, Flight.Shows] at shows
    simp only [acts, stage]
    exact Flight.abreast_flush (Flight.carries_setHead shows g)
      ((Flight.seatsOf_setHead (w := w) g).symm ▸ opened)
  | took g b rest stage next =>
    simp only [stage, Flight.Shows] at shows
    simp only [acts, stage, next]
    exact Flight.abreast_flush (Flight.carries_append shows b)
      ((Flight.seatsOf_append (w := w) b).symm ▸ opened)
  | answered g stage | offered g b stage =>
    have leads := bound.leads (by rw [stage]; rfl)
    simp only [acts, stage]
    exact due.resolve_left (by simp [moves, leads, stage])
  | refused e stage known | died stage known =>
    simp only [Account, stage, known] at account
    cases account.1
  | broke g e rest stage next | ended g rest stage next | panicked g rest stage next =>
    simp only [Account, stage, next] at account
    rw [account.2, Fed.fate?_append] at unending
    cases unending
  | reported detail stage | stored g stage | landed stage | left stage | failed stage
  | abandoned stage | told e stage => simp [stage] at pumps

end Relay

def Exchange.plus {ω : Type} (s : Exchange ω) (more : List Fed) : Exchange ω :=
  { s with upcoming := s.upcoming ++ more }

namespace Visit

variable {ω : Type} [DecidableEq ω] {s : Exchange ω} {e : Event ω} {es : List (Event ω)} {h : Head}
  {sent more : List Fed} {chunks taken : List Bytes} {id : FlightId} {host path : String}
  {own : List (FlightTable.Move ω)} {w : ω}

theorem upcoming_step (s : Exchange ω) (e : Event ω) : (step s e).upcoming <:+ s.upcoming := by
  obtain ⟨same, -⟩ | rfl | ⟨x, -, same, -⟩ := step_cases s e
  · have kept := congrArg Exchange.upcoming same
    exact kept ▸ List.suffix_rfl
  · exact List.suffix_rfl
  · rw [same]
    cases x with
    | send =>
      cases upcoming : s.upcoming with
      | nil => simp [Exchange.step, upcoming]
      | cons y rest => simp [Exchange.step, upcoming]
    | advance =>
      simp only [Exchange.step]
      split <;> exact List.suffix_rfl
    | read | flights _ | store _ | execute _ | listen _ => exact List.suffix_rfl

theorem upcoming_after (s : Exchange ω) (es : List (Event ω)) :
    (after s es).upcoming <:+ s.upcoming :=
  Course.after_keeps (P := fun t : Exchange ω => t.upcoming <:+ s.upcoming)
    (fun t e kept => (upcoming_step t e).trans kept) List.suffix_rfl es

theorem step_plus (due : e = .exchange .send → s.upcoming ≠ [] ∨ more = []) :
    step (s.plus more) e = (step s e).plus more ∧ moving (s.plus more) e = moving s e := by
  refine ⟨?_, by obtain ⟨_ | _⟩ | _ := e <;> rfl⟩
  obtain x | _ := e
  · cases x with
    | send =>
      cases upcoming : s.upcoming with
      | nil =>
        obtain rfl : more = [] := (due rfl).resolve_left fun nonempty => nonempty upcoming
        simp [step, Exchange.step, Exchange.plus, upcoming]
      | cons y rest => simp [step, Exchange.step, Exchange.plus, upcoming]
    | advance =>
      simp only [step, Exchange.step, Exchange.plus]
      split <;> rfl
    | read => cases heard : s.relay.client.heard <;> simp [step, Exchange.step, Exchange.plus, heard]
    | flights _ | store _ | execute _ | listen _ => rfl
  · rfl

theorem after_plus (unsent : more <:+ (after (s.plus more) es).upcoming) :
    after (s.plus more) es = (after s es).plus more ∧ moves (s.plus more) es = moves s es := by
  induction es generalizing s with
  | nil => exact ⟨rfl, rfl⟩
  | cons e es ih =>
    have due : e = .exchange .send → s.upcoming ≠ [] ∨ more = [] := by
      rintro rfl
      cases upcoming : s.upcoming with
      | cons y rest => exact .inl (List.cons_ne_nil _ _)
      | nil =>
        cases more with
        | nil => exact .inr rfl
        | cons y rest =>
          -- The first of what was to come later would be sent now.
          have less : (y :: rest) <:+ rest := by
            refine unsent.trans ((upcoming_after _ es).trans ?_)
            simp [step, Exchange.step, Exchange.plus, upcoming]
          exact absurd less.length_le (by simp)
    obtain ⟨stepped, moved⟩ := step_plus due
    have rest : more <:+ (after ((step s e).plus more) es).upcoming := stepped ▸ unsent
    obtain ⟨same, moves_same⟩ := ih rest
    refine ⟨?_, ?_⟩
    · show after (step (s.plus more) e) es = (after (step s e) es).plus more
      rw [stepped, same]
    · show moving (s.plus more) e ++ moves (step (s.plus more) e) es =
        moving s e ++ moves (step s e) es
      rw [moved, stepped, moves_same]

theorem split_plus {before later : List (Event ω)}
    (unsent : more <:+ (after (s.plus more) (before ++ later)).upcoming) :
    moves (s.plus more) before = moves s before ∧
      moves (after (s.plus more) before) later = moves (after s before) later := by
  rw [after_append] at unsent
  obtain ⟨same, moved⟩ := after_plus (unsent.trans (upcoming_after _ later))
  rw [same] at unsent ⊢
  exact ⟨moved, (after_plus unsent).2⟩

/-- A relay that leads a flight, with all that it has done there and what its client knows. -/
structure Flows (host path : String) (id : FlightId) (h : Head) (sent : List Fed) (s : Exchange ω)
    (taken : List Bytes) (own : List (FlightTable.Move ω)) : Prop where
  sails : Sails host path (some id) h sent s taken
  told : s.relay.Told s.client h sent taken
  within : s.relay.Within
  passed : s.relay.Passed id h taken own

theorem within_step (within : s.relay.Within) (e : Event ω) : (step s e).relay.Within := by
  obtain ⟨same, -⟩ | rfl | ⟨x, -, same, -⟩ := step_cases s e
  · rwa [same]
  · exact ⟨within.1, Nat.zero_le _⟩
  · rw [same]
    cases x with
    | send =>
      simp only [Exchange.step]
      split <;> exact within
    | advance =>
      cases stepped : s.relay.step s.cache with
      | none => simpa only [Exchange.step, stepped] using within
      | some y =>
        simp only [Exchange.step, stepped]
        exact Relay.within_turn within (Relay.turn_of_step stepped)
    | read => exact Relay.within_read within
    | flights _ | store _ | execute _ | listen _ => exact within

omit [DecidableEq ω] in
theorem filter_moves (r : Relay) (leads : r.stage.hasLet = false → r.lead = some id) :
    (r.moves : List (FlightTable.Move ω)).filter (·.drives id) = r.moves := by
  cases gone : r.stage.hasLet with
  | true => rw [(Relay.idle_of_hasLet (ω := ω) gone).1, List.filter_nil]
  | false =>
    simp only [Relay.moves, leads gone]
    split
    · simp [FlightTable.Move.drives]
    · split <;> simp [FlightTable.Move.drives]
    all_goals simp [FlightTable.Move.drives]

theorem passed_step (flows : Flows host path id h sent s taken own) (e : Event ω)
    (others : ∀ m, e = .exchange (.flights m) → m.drives id = false) :
    (step s e).relay.Passed id h (taken ++ taking s e)
      (own ++ (moving s e).filter (·.drives id)) := by
  have passed := flows.passed
  have idle (nothing : (moving s e).filter (·.drives id) = []) (untaken : taking s e = []) :
      s.relay.Passed id h (taken ++ taking s e) (own ++ (moving s e).filter (·.drives id)) := by
    rwa [nothing, untaken, List.append_nil, List.append_nil]
  obtain ⟨same, rfl⟩ | rfl | ⟨x, rfl, same, -⟩ := step_cases s e
  · exact same.symm ▸ idle rfl rfl
  · exact idle rfl rfl
  · rw [same]
    cases x with
    | send =>
      have idle := idle rfl rfl
      simp only [Exchange.step]
      split <;> exact idle
    | advance =>
      have bound := flows.sails.bound
      cases stepped : s.relay.step s.cache with
      | none =>
        simp only [Exchange.step, stepped]
        exact idle (by simp [moving, Exchange.moving, stepped]) (by simp [taking, stepped])
      | some y =>
        simp only [Exchange.step, taking, moving, Exchange.moving, stepped, filter_moves _ bound.leads]
        exact Relay.passed_turn bound.account bound.leads passed (Relay.turn_of_step stepped)
    | read =>
      obtain ⟨client, read⟩ := s.relay.exists_read s.client
      simp only [Exchange.step, read]
      exact idle rfl rfl
    | flights m => exact idle (by simp [moving, Exchange.moving, others m rfl]) rfl
    | store _ | execute _ | listen _ => exact idle rfl rfl

theorem flows_step (flows : Flows host path id h sent s taken own) (e : Event ω)
    (others : ∀ m, e = .exchange (.flights m) → m.drives id = false) :
    Flows host path id h sent (step s e) (taken ++ taking s e)
      (own ++ (moving s e).filter (·.drives id)) where
  sails := sails_step flows.sails e fun j own m same => by
    cases own
    exact others m same
  told := (knows_step ⟨flows.sails.bound.account, flows.told⟩ e).2
  within := within_step flows.within e
  passed := passed_step flows e others

theorem flows_after (flows : Flows host path id h sent s taken own)
    (others : ∀ m, .exchange (.flights m) ∈ es → m.drives id = false) :
    ∃ taken, Flows host path id h sent (after s es) taken
      (own ++ (moves s es).filter (·.drives id)) := by
  induction es generalizing s taken own with
  | nil => exact ⟨taken, (List.append_nil own).symm ▸ flows⟩
  | cons e es ih =>
    have flows' := flows_step flows e fun m same => others m (same ▸ List.mem_cons_self)
    obtain ⟨taken', flows''⟩ := ih flows' fun m mem => others m (List.mem_cons_of_mem _ mem)
    refine ⟨taken', ?_⟩
    rw [List.append_assoc, ← List.filter_append] at flows''
    exact flows''

theorem abreast_step {ms : List (FlightTable.Move ω)}
    (flows : Flows host path id h (chunks.map .chunk) s taken own)
    (table : s.cache.flights = .after {} ms) (seated : (id, w) ∈ FlightTable.seatings {} ms)
    (once : ((FlightTable.seatings {} (ms ++ moving s e)).map Prod.snd).count w ≤ 1)
    (others : ∀ m, e = .exchange (.flights m) → m.drives id = false)
    (due : .flush id false ∈ moving s e ∨
      ∃ f, s.cache.flights.flight? id = some f ∧ f.Abreast w) :
    ∃ f, (step s e).cache.flights.flight? id = some f ∧ f.Abreast w := by
  have idle (nothing : moving s e = []) :
      ∃ f, (step s e).cache.flights.flight? id = some f ∧ f.Abreast w := by
    rw [flights_step, nothing]
    exact due.resolve_left (by simp [nothing])
  obtain x | _ := e
  · cases x with
    | advance =>
      cases stepped : s.relay.step s.cache with
      | none => exact idle (by simp [moving, Exchange.moving, stepped])
      | some y =>
        have bound := flows.sails.bound
        obtain ⟨f, there, -⟩ := bound.shows id rfl
        obtain ⟨g, tr, there', served, -⟩ :=
          FlightTable.exists_served (FlightTable.once_of_append once) seated
        obtain rfl : g = f := Option.some.inj (there'.symm.trans (table ▸ there))
        have opened := served.opened (Relay.going_of_bound bound there)
        simp only [moving, Exchange.moving, stepped] at due
        simp only [step, Exchange.step, stepped]
        refine Relay.abreast_step bound flows.sails.tidy.sound there opened stepped ?_
        refine due.imp_right ?_
        rintro ⟨g', there'', abreast⟩
        obtain rfl : g' = g := Option.some.inj (there''.symm.trans there)
        exact abreast
    | flights m =>
      have undriven := others m rfl
      have shown : ∃ f, s.cache.flights.flight? id = some f ∧ f.Abreast w := by
        refine due.resolve_left fun flushed => ?_
        obtain rfl : .flush id false = m := by simpa [moving, Exchange.moving] using flushed
        simp [FlightTable.Move.drives] at undriven
      obtain ⟨f, there, abreast⟩ := shown
      refine ⟨_, FlightTable.flight?_of_some flows.sails.tidy.sound there, ?_⟩
      obtain nothing | ⟨v, joins⟩ := FlightTable.acting_of_not_drives undriven
      · rw [nothing]
        exact abreast
      · rw [joins]
        exact Flight.abreast_join abreast (FlightTable.joiner_ne once seated (table ▸ joins))
    | send | read | store _ | execute _ | listen _ => exact idle rfl
  · exact idle rfl

theorem abreast_after {ms : List (FlightTable.Move ω)}
    (flows : Flows host path id h (chunks.map .chunk) s taken own)
    (table : s.cache.flights = .after {} ms) (seated : (id, w) ∈ FlightTable.seatings {} ms)
    (once : ((FlightTable.seatings {} (ms ++ moves s es)).map Prod.snd).count w ≤ 1)
    (others : ∀ m, .exchange (.flights m) ∈ es → m.drives id = false)
    (due : .flush id false ∈ moves s es ∨
      ∃ f, s.cache.flights.flight? id = some f ∧ f.Abreast w) :
    ∃ f, (after s es).cache.flights.flight? id = some f ∧ f.Abreast w := by
  induction es generalizing s ms taken own with
  | nil => exact due.resolve_left nofun
  | cons e es ih =>
    have other : ∀ m, e = .exchange (.flights m) → m.drives id = false := fun m same =>
      others m (same ▸ List.mem_cons_self)
    have split : ms ++ moves s (e :: es) = (ms ++ moving s e) ++ moves (step s e) es :=
      (List.append_assoc ..).symm
    rw [split] at once
    have first := FlightTable.once_of_append once
    have due' : .flush id false ∈ moves (step s e) es ∨
        ∃ f, (step s e).cache.flights.flight? id = some f ∧ f.Abreast w := by
      obtain flushes | shown := due
      · obtain now | later := List.mem_append.mp flushes
        · exact .inr (abreast_step flows table seated first other (.inl now))
        · exact .inl later
      · exact .inr (abreast_step flows table seated first other (.inr shown))
    refine ih (flows_step flows e other) ?_ ?_ once
      (fun m mem => others m (List.mem_cons_of_mem _ mem)) due'
    · rw [flights_step, table, FlightTable.after_append]
    · rw [FlightTable.seatings_append]
      exact List.mem_append_left _ seated

variable {prior : List (FlightTable.Move ω)} {store : Store}

theorem flows_start (known : ((FlightTable.after {} prior).flight? id).isSome = true)
    (undriven : ∀ m ∈ prior, m.drives id = false) :
    Flows host path id h sent (start prior store host path (some id) h sent) [] [] where
  sails := sails_start prior store host path (some id) h sent (fun j own => by cases own; exact known)
    (fun j own => by cases own; exact undriven)
  told := (knows_start prior store host path (some id) h sent).2
  within := ⟨rfl, Nat.zero_le _⟩
  passed := rfl

theorem posted_of_flushed {x : Exchange ω} {before later : List (Event ω)} {body : Bytes}
    (flows : Flows host path id h (chunks.map .chunk) x taken own)
    (table : x.cache.flights = .after {} prior)
    (others : ∀ m, .exchange (.flights m) ∈ before ++ later → m.drives id = false)
    (shown : ∃ f, (after x (before ++ later)).cache.flights.flight? id = some f ∧
      f.Carries (some h) body)
    (once : ((FlightTable.seatings {} (prior ++ moves x (before ++ later))).map
      Prod.snd).count w ≤ 1)
    (seated : (id, w) ∈ FlightTable.seatings {} (prior ++ moves x before))
    (flushed : .flush id false ∈ moves (after x before) later) :
    ∃ ps, Postings.deliveriesFor w (FlightTable.posted {} (prior ++ moves x (before ++ later))) =
      Transcript.opening h ps ∧ ps.flatMap Piece.bytes = body := by
  obtain ⟨f, there, carries⟩ := shown
  have flights := table_after table (before ++ later)
  rw [moves_append, ← List.append_assoc] at once flights ⊢
  obtain ⟨g, there', abreast⟩ : ∃ g, (after x (before ++ later)).cache.flights.flight? id = some g ∧
      g.Abreast w := by
    obtain ⟨_, flows⟩ := flows_after flows fun m mem => others m (List.mem_append_left _ mem)
    rw [after_append]
    exact abreast_after flows (table_after table before) seated once
      (fun m mem => others m (List.mem_append_right _ mem)) (.inl flushed)
  have seated' : (id, w) ∈
      FlightTable.seatings {} (prior ++ moves x before ++ moves (after x before) later) := by
    rw [FlightTable.seatings_append]
    exact List.mem_append_left _ seated
  obtain ⟨k, tr, there'', served, handed⟩ := FlightTable.exists_served once seated'
  obtain rfl : f = g := Option.some.inj (there.symm.trans there')
  obtain rfl : k = f := Option.some.inj (there''.symm.trans (flights ▸ there))
  exact handed ▸ Flight.deliveries_of_abreast served carries abreast

/-- For every relay that leads a flight which nobody else drives, everything that its origin can send,
and whatever else happens in any order: whenever the task has to wait, and the origin has sent nothing
but chunks so far, the relay has given its flight the head and the first of these chunks, each at once.
If its client has gone these are all of them, or else as many as there are, up to one beyond those that
the client has read and has room for. Whoever had a seat before some flush of the relay has been posted
the head and the bytes of exactly these chunks. -/
theorem keeps_pace (prior : List (FlightTable.Move ω)) (store : Store) (host path : String)
    (id : FlightId) (h : Head) (sent : List Fed) (es : List (Event ω)) (chunks : List Bytes)
    (known : ((FlightTable.after {} prior).flight? id).isSome = true)
    (undriven : ∀ m ∈ prior, m.drives id = false)
    (others : ∀ m, .exchange (.flights m) ∈ es → m.drives id = false)
    (waits : (after (start prior store host path (some id) h sent) es).relay.step
      (after (start prior store host path (some id) h sent) es).cache = none)
    (produced : sent = chunks.map .chunk ++
      (after (start prior store host path (some id) h sent) es).upcoming) :
    let x := start prior store host path (some id) h sent
    let s := after x es
    let passed := chunks.take
      (if s.relay.client.heard then min chunks.length (s.client.pieces.length + clientRoom + 1)
      else chunks.length)
    (moves x es).filter (·.drives id) = Relay.passing id h passed ∧
    (∃ f, s.cache.flights.flight? id = some f ∧ f.Carries (some h) passed.flatten) ∧
    ∀ w before later, es = before ++ later →
      ((FlightTable.seatings {} (prior ++ moves x es)).map Prod.snd).count w ≤ 1 →
      (id, w) ∈ FlightTable.seatings {} (prior ++ moves x before) →
      .flush id false ∈ moves (after x before) later →
      ∃ ps, Postings.deliveriesFor w (FlightTable.posted {} (prior ++ moves x es)) =
          Transcript.opening h ps ∧ ps.flatMap Piece.bytes = passed.flatten := by
  intro x s passed
  -- Everything went as if the origin had nothing more to send than it has sent.
  let x' : Exchange ω := start prior store host path (some id) h (chunks.map .chunk)
  let t := after x' es
  have begun : x = x'.plus s.upcoming := congrArg (start prior store host path (some id) h) produced
  have unsent : s.upcoming <:+ (after (x'.plus s.upcoming) es).upcoming := begun ▸ List.suffix_rfl
  obtain ⟨same, moved⟩ := after_plus unsent
  rw [← begun] at same moved
  have cache : s.cache = t.cache := (congrArg Exchange.cache same :)
  have relay : s.relay = t.relay := (congrArg Exchange.relay same :)
  have client : s.client = t.client := (congrArg Exchange.client same :)
  have finished : t.upcoming = [] := List.self_eq_append_left.mp (congrArg Exchange.upcoming same)
  obtain ⟨taken, flows⟩ : ∃ taken, Flows host path id h (chunks.map .chunk) t taken
      ([] ++ (moves x' es).filter (·.drives id)) :=
    flows_after (flows_start known undriven) others
  have waits' : t.relay.step t.cache = none := by rw [← relay, ← cache]; exact waits
  have account : t.relay.Account h (chunks.map .chunk) t.relay.feed taken := by
    have account := flows.sails.bound.account
    rwa [finished, List.append_nil] at account
  have all : taken = passed := by
    simp only [passed, relay, client]
    exact Relay.take_of_waiting account flows.told flows.within waits'
  have pumps : t.relay.stage = .pumping h ∨ ∃ b, t.relay.stage = .offering h b :=
    (Relay.taken_of_waiting account waits').imp And.left And.left
  have shown : ∃ f, t.cache.flights.flight? id = some f ∧ f.Carries (some h) passed.flatten := by
    obtain ⟨f, there, shows⟩ := flows.sails.bound.shows id rfl
    obtain stage | ⟨b, stage⟩ := pumps <;>
      · simp only [stage, Flight.Shows, all] at shows
        exact ⟨f, there, shows⟩
  refine ⟨?_, cache.symm ▸ shown, ?_⟩
  · have passed := flows.passed
    obtain stage | ⟨b, stage⟩ := pumps <;>
      · simp only [Relay.Passed, stage, all, List.nil_append] at passed
        exact moved.symm ▸ passed
  · intro w before later split once seated flushed
    rw [split] at unsent
    obtain ⟨early, late⟩ := split_plus unsent
    rw [← begun] at early late
    rw [early] at seated
    rw [late] at flushed
    rw [moved, split] at once ⊢
    exact posted_of_flushed (flows_start known undriven) rfl (split ▸ others) (split ▸ shown) once
      seated flushed

/-- A client that reads one of twenty chunks and then no more. A follower that came after the fourth
one has eighteen. -/
theorem keeps_pace_stalled :
    let chunks : List Bytes := List.replicate 20 [1]
    let es : List (Exchange.Event Nat) := List.replicate 20 .send ++ List.replicate 10 .advance ++
      [.flights (.seat 0 2), .read, .read] ++ List.replicate 40 .advance
    let x := start [.elect "h/p" 0, .elect "h/p" 1] (.empty 1) "h" "/p" (some 0) ⟨.ok, []⟩
      (chunks.map .chunk ++ [.ended])
    let s := after x (es.map .exchange)
    s.upcoming = [.ended] ∧ s.client.pieces = [.ok [1]] ∧
      (moves x (es.map .exchange)).filter (·.drives 0) =
        Relay.passing 0 ⟨.ok, []⟩ (List.replicate 18 [1]) ∧
      ∃ ps, Postings.deliveriesFor 2 (FlightTable.posted {}
          ([.elect "h/p" 0, .elect "h/p" 1] ++ moves x (es.map .exchange))) =
        Transcript.opening ⟨.ok, []⟩ ps ∧ ps.flatMap Piece.bytes = List.replicate 18 1 := by
  intro chunks es x s
  have others : ∀ m, .exchange (.flights m) ∈ es.map Event.exchange → m.drives 0 = false := by
    intro m mem
    obtain rfl : m = .seat 0 2 := by simpa [es] using mem
    rfl
  have upcoming : s.upcoming = [.ended] := by decide +kernel
  obtain ⟨own, -, posted⟩ := keeps_pace [.elect "h/p" 0, .elect "h/p" 1] _ "h" "/p" 0 ⟨.ok, []⟩
    (chunks.map .chunk ++ [.ended]) (es.map .exchange) chunks (by decide) (by decide) others
    (Option.isNone_iff_eq_none.mp (by decide +kernel)) (congrArg (_ ++ ·) upcoming.symm)
  obtain ⟨ps, handed, bytes⟩ := posted 2 ((es.map .exchange).take 31) ((es.map .exchange).drop 31)
    (List.take_append_drop _ _).symm (by decide +kernel) (by decide +kernel) (by decide +kernel)
  exact ⟨upcoming, by decide +kernel, own.trans (by decide +kernel), ps, handed,
    bytes.trans (by decide +kernel)⟩

end Visit
end CachingProxy
