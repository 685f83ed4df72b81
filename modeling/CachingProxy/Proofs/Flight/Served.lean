import CachingProxy.Proofs.Flight.Seats

namespace CachingProxy.Flight

variable {ω : Type} {f : Flight ω} {m : Move ω} {last : Bool}

variable [DecidableEq ω] {w : ω} {t : Transcript}

theorem follower_of_seatsOf {s : Seat ω} (h : f.seatsOf w = [s]) : s.follower = w := by
  have mem : s ∈ f.seatsOf w := by simp [h]
  simpa using (List.mem_filter.mp mem).2

theorem seatsOf_flush {h : Head} (head : f.head = some h) (going : f.phase.isOver = false) :
    (f.flush last).1.seatsOf w = (f.seatsOf w).map fun s => (s.flush h f.body last).1 := by
  simp only [flush, head, going, seatsOf]
  exact seatsOf_map Seat.flush_follower w f.seats

theorem deliveriesFor_flush {h : Head} (head : f.head = some h) (going : f.phase.isOver = false) :
    Postings.deliveriesFor w (f.flush last).2 =
      (f.seatsOf w).flatMap fun s => Postings.deliveriesFor w (s.flush h f.body last).2 := by
  simp only [flush, head, going]
  exact deliveriesFor_map Seat.flush_own w f.seats

theorem seatsOf_abort (going : f.phase.isOver = false) :
    f.abort.1.seatsOf w = (f.seatsOf w).map fun s => s.reset.1 := by
  simp only [abort, going, seatsOf]
  exact seatsOf_map Seat.reset_follower w f.seats

theorem deliveriesFor_abort (going : f.phase.isOver = false) :
    Postings.deliveriesFor w f.abort.2 =
      (f.seatsOf w).flatMap fun s => Postings.deliveriesFor w s.reset.2 := by
  simp only [abort, going]
  exact deliveriesFor_map Seat.reset_own w f.seats

theorem seatsOf_join_ne {v : ω} (ne : v ≠ w) : (f.join v).1.seatsOf w = f.seatsOf w := by
  unfold join
  split <;> simp [seatsOf, ne]

theorem deliveriesFor_join_ne {v : ω} (ne : v ≠ w) :
    Postings.deliveriesFor w (f.join v).2 = [] := by
  apply Postings.deliveriesFor_eq_nil
  unfold join
  split <;> simp [ne]

theorem seatsOf_setHead (h : Head) : (f.setHead h).1.seatsOf w = f.seatsOf w := by
  unfold setHead
  split <;> rfl

theorem seatsOf_append (b : Bytes) : (f.append b).seatsOf w = f.seatsOf w := by
  unfold append
  split <;> rfl

theorem absent_step (absent : f.seatsOf w = []) (other : m ≠ .join w) :
    (f.step m).seatsOf w = [] ∧ Postings.deliveriesFor w (f.perform m).2 = [] := by
  cases m with
  | setHead h => exact ⟨(seatsOf_setHead h).trans absent, rfl⟩
  | append b => exact ⟨(seatsOf_append b).trans absent, rfl⟩
  | flush last =>
    cases idle : f.canFlush with
    | false => simpa [step, perform, flush_idle idle] using absent
    | true =>
      obtain ⟨h, head, going⟩ : ∃ h, f.head = some h ∧ f.phase.isOver = false := by
        simpa [canFlush, Option.isSome_iff_exists] using idle
      simp only [step, perform, seatsOf_flush head going, deliveriesFor_flush head going, absent]
      exact ⟨rfl, rfl⟩
  | join v =>
    have ne : v ≠ w := fun e => other (e ▸ rfl)
    exact ⟨(seatsOf_join_ne ne).trans absent, deliveriesFor_join_ne ne⟩
  | abort =>
    cases past : f.phase.isOver with
    | true => simpa [step, perform, abort_idle past] using absent
    | false =>
      simp only [step, perform, seatsOf_abort past, deliveriesFor_abort past, absent]
      exact ⟨rfl, rfl⟩

/-- The transcript shows what the follower was handed of this flight, and its seat knows. Whoever
came after a failure has no seat. -/
structure Served (f : Flight ω) (w : ω) (t : Transcript) : Prop where
  head : ∀ h, t.head? = some h → f.head = some h
  bytes : t.bytes <+: f.body
  complete : t.isComplete = true ↔ f.phase = .closed
  reset : t.isReset = true ↔ f.phase = .aborted
  whole : f.phase = .closed → t.bytes = f.body
  seat : (∃ s, f.seatsOf w = [s] ∧ s.Records t) ∨ f.seatsOf w = [] ∧ f.phase = .aborted

theorem Served.isOver (s : f.Served w t) : t.isOver = f.phase.isOver := by
  have := s.complete
  have := s.reset
  cases hp : f.phase <;> simp_all [Transcript.isOver, Phase.isOver]

theorem Served.going {g : Flight ω} (s : f.Served w t) (head : ∀ h, f.head = some h → g.head = some h)
    (body : f.body <+: g.body) (seats : g.seatsOf w = f.seatsOf w)
    (before : f.phase.isOver = false) (after : g.phase.isOver = false) : g.Served w t := by
  have opened : t.isOver = false := s.isOver.trans before
  obtain ⟨incomplete, unreset⟩ : t.isComplete = false ∧ t.isReset = false := by
    simpa [Transcript.isOver] using opened
  refine ⟨fun h e => head h (s.head h e), s.bytes.trans body, ?_, ?_, ?_, ?_⟩
  · cases hp : g.phase <;> simp_all [Phase.isOver]
  · cases hp : g.phase <;> simp_all [Phase.isOver]
  · cases hp : g.phase <;> simp_all [Phase.isOver]
  · rcases s.seat with seated | ⟨-, aborted⟩
    · exact .inl (by rwa [seats])
    · simp [aborted, Phase.isOver] at before

theorem served_newcomer {s : Seat ω} (own : s.follower = w) (absent : f.seatsOf w = [])
    (records : s.Records t) (head : ∀ h, t.head? = some h → f.head = some h)
    (bytes : t.bytes <+: f.body) (complete : t.isComplete = true ↔ f.phase = .closed)
    (reset : t.isReset = true ↔ f.phase = .aborted) (whole : f.phase = .closed → t.bytes = f.body) :
    Served { f with seats := f.seats ++ [s] } w t := by
  refine ⟨head, bytes, complete, reset, whole, .inl ⟨s, ?_, records⟩⟩
  simpa [seatsOf, own] using absent

theorem served_join (sound : f.Sound) (absent : f.seatsOf w = []) :
    ∃ t, (f.step (.join w)).Served w t ∧
      t.deliveries = Postings.deliveriesFor w (f.perform (.join w)).2 ∧
      t.bytes = if f.phase = .closed then f.body else [] := by
  cases phase : f.phase with
  | closed =>
    -- Without a head the flight could not have closed.
    obtain ⟨h, head⟩ : ∃ h, f.head = some h :=
      Option.isSome_iff_exists.mp (by simpa [Sound, phase] using sound)
    obtain ⟨t, handed, named, bytes, complete, reset⟩ : ∃ t : Transcript,
        t.deliveries = Postings.deliveriesFor w (f.perform (.join w)).2 ∧
        t.head? = some h ∧ t.bytes = f.body ∧ t.isComplete = true ∧ t.isReset = false := by
      simp only [perform, join, phase, head]
      by_cases empty : f.body = []
      · refine ⟨.bare h, ?_, rfl, empty.symm, rfl, rfl⟩
        simp [empty, Transcript.deliveries, Postings.deliveriesFor, Task.deliveries]
      · refine ⟨.ended h [] f.body, ?_, rfl, by simp [Transcript.bytes], rfl, rfl⟩
        simp [empty, Transcript.deliveries, Transcript.opening, Postings.deliveriesFor,
          Task.deliveries]
    refine ⟨t, ?_, handed, by simp [bytes]⟩
    simp only [step, perform, join, phase]
    rw [← phase]
    apply served_newcomer rfl absent
    · exact ⟨by simp [named], by rw [bytes], by simp [Transcript.isOver, complete]⟩
    · intro g hg
      rw [head, ← named, hg]
    · exact bytes ▸ List.prefix_rfl
    · simp [complete, phase]
    · simp [reset, phase]
    · exact fun _ => bytes
  | aborted =>
    refine ⟨.refused, ⟨?_, ?_, ?_, ?_, ?_, .inr ?_⟩, ?_, rfl⟩
    all_goals simp [step, perform, join, phase, absent, Transcript.head?, Transcript.bytes,
      Transcript.isComplete, Transcript.isReset, Transcript.deliveries, Postings.deliveriesFor,
      Task.deliveries]
  | empty | headed | streaming =>
    refine ⟨.nothing, ?_, by simp [perform, join, phase], by simp⟩
    simp only [step, perform, join, phase]
    rw [← phase]
    apply served_newcomer rfl absent ⟨rfl, rfl, rfl⟩
    all_goals simp [phase, Transcript.head?, Transcript.isComplete, Transcript.isReset]

theorem served_setHead (served : f.Served w t) (h : Head) : (f.setHead h).1.Served w t := by
  cases late : f.head.isSome || f.phase.isOver with
  | true => simpa [setHead, late] using served
  | false =>
    obtain ⟨headless, going⟩ : f.head = none ∧ f.phase.isOver = false := by simpa using late
    apply served.going _ _ (seatsOf_setHead h) going
    · grind [setHead, Phase.isOver]
    · simp [headless]
    · simp [setHead, late]

theorem served_append (served : f.Served w t) (b : Bytes) : (f.append b).Served w t := by
  cases past : f.phase.isOver with
  | true => simpa [append, past] using served
  | false =>
    apply served.going _ _ (seatsOf_append b) past
    · grind [append, Phase.isOver]
    · simp [append, past]
    · simp [append, past]

theorem served_join_ne {v : ω} (served : f.Served w t) (ne : v ≠ w) : (f.join v).1.Served w t := by
  obtain ⟨head, body, phase⟩ := f.join_frame v
  obtain ⟨hh, hb, hc, hr, hw, hs⟩ := served
  exact ⟨by rwa [head], by rwa [body], by rwa [phase], by rwa [phase], by rwa [phase, body],
    by rwa [seatsOf_join_ne ne, phase]⟩

theorem Served.seated (served : f.Served w t) (going : f.phase.isOver = false) :
    ∃ s, f.seatsOf w = [s] ∧ s.Records t := by
  apply served.seat.resolve_right
  rintro ⟨-, aborted⟩
  simp [aborted, Phase.isOver] at going

theorem served_flush (served : f.Served w t) (last : Bool) :
    ∃ u, (f.flush last).1.Served w u ∧
      u.deliveries = t.deliveries ++ Postings.deliveriesFor w (f.flush last).2 ∧
      u.bytes = if f.canFlush then f.body else t.bytes := by
  cases idle : f.canFlush with
  | false => exact ⟨t, by simpa [flush_idle idle] using served⟩
  | true =>
    obtain ⟨h, head, going⟩ : ∃ h, f.head = some h ∧ f.phase.isOver = false := by
      simpa [canFlush, Option.isSome_iff_exists] using idle
    obtain ⟨s, only, records⟩ := served.seated going
    have same : ∀ g, t.head? = some g → g = h := fun g hg =>
      Option.some.inj ((served.head g hg).symm.trans head)
    obtain ⟨u, noted, handed, named, bytes, complete, reset⟩ :=
      Seat.flush_records last records (served.isOver.trans going) same served.bytes
    have own := follower_of_seatsOf only
    have state : (f.flush last).1.head = some h ∧ (f.flush last).1.body = f.body ∧
        (f.flush last).1.phase = if last then .closed else f.phase := by
      simp [flush, head, going]
    obtain ⟨head', body', phase'⟩ := state
    refine ⟨u, ⟨?_, ?_, ?_, ?_, ?_, .inl ⟨(s.flush h f.body last).1, ?_, noted⟩⟩, ?_, ?_⟩
    · intro g hg
      rw [head', ← named, hg]
    · exact (bytes.trans body'.symm).symm ▸ List.prefix_rfl
    · rw [complete, phase']
      cases last <;> cases hp : f.phase <;> simp_all [Phase.isOver]
    · rw [reset, phase']
      cases last <;> cases hp : f.phase <;> simp_all [Phase.isOver]
    · exact fun _ => bytes.trans body'.symm
    · rw [seatsOf_flush head going, only, List.map_singleton]
    · rw [handed, deliveriesFor_flush head going, only, ← own]
      simp
    · exact bytes

theorem served_abort (served : f.Served w t) :
    ∃ u, f.abort.1.Served w u ∧
      u.deliveries = t.deliveries ++ Postings.deliveriesFor w f.abort.2 ∧ u.bytes = t.bytes := by
  cases past : f.phase.isOver with
  | true => exact ⟨t, by simpa [abort_idle past] using served⟩
  | false =>
    obtain ⟨s, only, records⟩ := served.seated past
    obtain ⟨u, noted, handed, named, bytes, complete, reset⟩ :=
      Seat.reset_records records (served.isOver.trans past)
    have own := follower_of_seatsOf only
    have state : f.abort.1.head = f.head ∧ f.abort.1.body = f.body ∧ f.abort.1.phase = .aborted := by
      simp [abort, past]
    obtain ⟨head', body', phase'⟩ := state
    refine ⟨u, ⟨?_, ?_, ?_, ?_, ?_, .inl ⟨s.reset.1, ?_, noted⟩⟩, ?_, bytes⟩
    · intro g hg
      rw [head', served.head g (named ▸ hg)]
    · rw [bytes, body']
      exact served.bytes
    · simp [complete, phase']
    · simp [reset, phase']
    · simp [phase']
    · rw [seatsOf_abort past, only, List.map_singleton]
    · rw [handed, deliveriesFor_abort past, only, ← own]
      simp

/-- Every move but the follower's own joining hands it what its transcript goes on with; a flush that
has an effect brings it up to the whole body. -/
theorem served_step (served : f.Served w t) (other : m ≠ .join w) :
    ∃ u, (f.step m).Served w u ∧
      u.deliveries = t.deliveries ++ Postings.deliveriesFor w (f.perform m).2 ∧
      u.bytes = (flushedBodies f [m]).getLast?.getD t.bytes := by
  cases m with
  | setHead h => exact ⟨t, served_setHead served h, by simp [perform], rfl⟩
  | append b => exact ⟨t, served_append served b, by simp [perform], rfl⟩
  | flush last =>
    obtain ⟨u, served', handed, bytes⟩ := served_flush served last
    refine ⟨u, served', handed, bytes.trans ?_⟩
    cases idle : f.canFlush <;> simp [flushedBodies, idle]
  | join v =>
    have ne : v ≠ w := fun e => other (e ▸ rfl)
    exact ⟨t, served_join_ne served ne, by simp [perform, deliveriesFor_join_ne ne], rfl⟩
  | abort => exact served_abort served

theorem served_after {ms : List (Move ω)} (served : f.Served w t) (others : w ∉ joiners ms) :
    ∃ u, (f.after ms).Served w u ∧
      u.deliveries = t.deliveries ++ Postings.deliveriesFor w (f.posted ms) ∧
      u.bytes = (f.flushedBodies ms).getLast?.getD t.bytes := by
  induction ms generalizing f t with
  | nil => exact ⟨t, served, by simp, rfl⟩
  | cons m ms ih =>
    obtain ⟨other, others⟩ := notMem_joiners_cons.mp others
    obtain ⟨u, served', handed, bytes⟩ := served_step served other
    obtain ⟨v, served'', handed', bytes'⟩ := ih served' others
    refine ⟨v, served'', ?_, ?_⟩
    · rw [handed', handed, posted_cons, Postings.deliveriesFor_append, List.append_assoc]
    · have flushed := f.flushedBodies_append [m] ms
      rw [List.singleton_append] at flushed
      rw [bytes', bytes, flushed, List.getLast?_append, Option.getD_or]
      rfl

end CachingProxy.Flight
