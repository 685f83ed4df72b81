import CachingProxy.Proofs.Flight.Served

namespace CachingProxy.Flight

variable {ω : Type}

theorem sound_after {f : Flight ω} (sound : f.Sound) (ms : List (Move ω)) : (f.after ms).Sound :=
  Course.after_keeps sound_step sound ms

theorem head_step (f : Flight ω) (m : Move ω) :
    (f.step m).head = f.head.or (f.notedHeads [m]).head? := by
  cases m with
  | setHead h =>
    cases headed : f.head <;> cases past : f.phase.isOver <;>
      simp [step, perform, setHead, notedHeads, headed, past]
  | append b =>
    simp only [step, perform, append]
    split <;> simp [notedHeads]
  | flush last =>
    simp only [step, perform, flush]
    split
    · split <;> simp [notedHeads]
    · simp [notedHeads]
  | join w =>
    simp only [step, perform, join]
    split <;> simp [notedHeads]
  | abort =>
    simp only [step, perform, abort]
    split <;> simp [notedHeads]

theorem head_after (f : Flight ω) (ms : List (Move ω)) :
    (f.after ms).head = f.head.or (f.notedHeads ms).head? := by
  induction ms generalizing f with
  | nil => simp [notedHeads]
  | cons m ms ih =>
    have noted := f.notedHeads_append [m] ms
    rw [List.singleton_append] at noted
    rw [after_cons, ih, head_step, noted, List.head?_append, Option.or_assoc]
    rfl

variable [DecidableEq ω] {f : Flight ω} {w : ω}

theorem absent_after (absent : f.seatsOf w = []) {ms : List (Move ω)} (others : w ∉ joiners ms) :
    (f.after ms).seatsOf w = [] ∧ Postings.deliveriesFor w (f.posted ms) = [] := by
  induction ms generalizing f with
  | nil => exact ⟨absent, rfl⟩
  | cons m ms ih =>
    obtain ⟨other, others⟩ := notMem_joiners_cons.mp others
    obtain ⟨absent', unposted⟩ := absent_step absent other
    obtain ⟨absent'', unposted'⟩ := ih absent' others
    exact ⟨absent'', by rw [posted_cons, Postings.deliveriesFor_append, unposted, unposted']; rfl⟩

theorem served_of_split (sound : f.Sound) (absent : f.seatsOf w = []) {before later : List (Move ω)}
    (early : w ∉ joiners before) (late : w ∉ joiners later) :
    ∃ t, (f.after (before ++ .join w :: later)).Served w t ∧
      t.deliveries = Postings.deliveriesFor w (f.posted (before ++ .join w :: later)) ∧
      t.bytes = ((f.after (before ++ [.join w])).flushedBodies later).getLast?.getD
        (if (f.after before).phase = .closed then (f.after before).body else []) := by
  obtain ⟨still, unposted⟩ := absent_after absent early
  obtain ⟨t, served, handed, bytes⟩ := served_join (sound_after sound before) still
  obtain ⟨u, served', handed', bytes'⟩ := served_after served late
  refine ⟨u, by simpa using served', ?_, ?_⟩
  · rw [handed', handed, posted_append, Postings.deliveriesFor_append, unposted, posted_cons,
      Postings.deliveriesFor_append, List.nil_append]
  · rw [bytes', bytes, after_append]
    rfl

theorem alone_of_split {before later : List (Move ω)}
    (once : (joiners (before ++ .join w :: later)).count w ≤ 1) :
    w ∉ joiners before ∧ w ∉ joiners later := by
  have listed : joiners (before ++ .join w :: later) = joiners before ++ w :: joiners later := by
    simp [joiners]
  rw [listed, List.count_append, List.count_cons_self] at once
  exact ⟨List.count_eq_zero.mp (by omega), List.count_eq_zero.mp (by omega)⟩

omit [DecidableEq ω] in
theorem exists_split {ms : List (Move ω)} (joined : w ∈ joiners ms) :
    ∃ before later, ms = before ++ .join w :: later := by
  obtain ⟨m, mem, hm⟩ := List.mem_filterMap.mp joined
  cases m with
  | join v =>
    obtain rfl : v = w := Option.some.inj hm
    exact List.append_of_mem mem
  | setHead _ | append _ | flush _ | abort => cases hm

theorem exists_transcript (key : String) {ms : List (Move ω)} (once : (joiners ms).count w ≤ 1) :
    ∃ t : Transcript, t.deliveries = Postings.deliveriesFor w (posted { key } ms) ∧
      (w ∈ joiners ms ∧ (after { key } ms).Served w t ∨ w ∉ joiners ms ∧ t = .nothing) := by
  by_cases joined : w ∈ joiners ms
  · obtain ⟨before, later, rfl⟩ := exists_split joined
    obtain ⟨early, late⟩ := alone_of_split once
    obtain ⟨t, served, handed, -⟩ := served_of_split (f := { key }) rfl rfl early late
    exact ⟨t, handed, .inl ⟨joined, served⟩⟩
  · obtain ⟨-, unposted⟩ := absent_after (f := { key }) rfl joined
    exact ⟨.nothing, unposted.symm, .inr ⟨joined, rfl⟩⟩

structure BearsOut (f : Flight ω) (t : Transcript) : Prop where
  head : ∀ h, t.head? = some h → f.head = some h
  bytes : t.bytes <+: f.body
  complete : t.isComplete = true → f.phase = .closed ∧ t.bytes = f.body
  reset : t.isReset = true → f.phase = .aborted

theorem Served.bearsOut {t : Transcript} (served : f.Served w t) : f.BearsOut t :=
  ⟨served.head, served.bytes,
    fun complete => ⟨served.complete.mp complete, served.whole (served.complete.mp complete)⟩,
    served.reset.mp⟩

omit [DecidableEq ω] in
theorem bearsOut_nothing (f : Flight ω) : f.BearsOut .nothing :=
  ⟨nofun, List.nil_prefix, nofun, nofun⟩

/-- For all that is done to a new flight, in any order, and every follower that joins at most once:
its transcript has the head that was noted first. Its bytes are a part of the body, and, if it came
before the end, what the last flush since then found. Once it is complete the flight has ended well
and it has the whole body, and once it is reset the flight has failed; those who joined are told of
either end. -/
theorem replay_exact (key : String) (ms : List (Move ω)) (w : ω) (once : (joiners ms).count w ≤ 1) :
    ∃ t : Transcript,
      Postings.deliveriesFor w (posted { key } ms) = t.deliveries ∧
      (∀ h, t.head? = some h → (notedHeads { key } ms).head? = some h) ∧
      t.bytes <+: (after { key } ms).body ∧
      (∀ before later, ms = before ++ .join w :: later →
        (after { key } before).phase.isOver = false →
        t.bytes = (flushedBodies (after { key } (before ++ [.join w])) later).getLast?.getD []) ∧
      (t.isComplete = true → t.bytes = (after { key } ms).body) ∧
      (t.isComplete = true ↔ w ∈ joiners ms ∧ (after { key } ms).phase = .closed) ∧
      (t.isReset = true ↔ w ∈ joiners ms ∧ (after { key } ms).phase = .aborted) := by
  obtain ⟨t, handed, known⟩ := exists_transcript key once
  have true_of : (after { key } ms).BearsOut t := by
    rcases known with ⟨-, served⟩ | ⟨-, rfl⟩
    · exact served.bearsOut
    · exact bearsOut_nothing _
  refine ⟨t, handed.symm, ?_, true_of.bytes, ?_, fun complete => (true_of.complete complete).2, ?_, ?_⟩
  · intro h named
    have head := true_of.head h named
    rwa [head_after, Option.none_or] at head
  · rintro before later rfl going
    obtain ⟨early, late⟩ := alone_of_split once
    obtain ⟨u, -, handed', bytes⟩ := served_of_split (f := { key }) rfl rfl early late
    have not_closed : (after { key } before).phase ≠ .closed := by
      intro closed
      simp [closed, Phase.isOver] at going
    -- `t` and `u` tell the same deliveries, so it does not matter where the story was split.
    rw [Transcript.bytes_congr (handed.trans handed'.symm), bytes, if_neg not_closed]
  · rcases known with ⟨joined, served⟩ | ⟨absent, rfl⟩
    · rw [served.complete, and_iff_right joined]
    · simp [Transcript.isComplete, absent]
  · rcases known with ⟨joined, served⟩ | ⟨absent, rfl⟩
    · rw [served.reset, and_iff_right joined]
    · simp [Transcript.isReset, absent]

/-- An early follower, one who comes between two flushes, and one who comes when all is over. -/
theorem replay_exact_between_flushes :
    (joiners [Move.join 0, .append [1], .setHead ⟨.ok, []⟩, .flush false, .join 1, .append [2],
      .flush true, .join 2]).count 1 ≤ 1 ∧
    ∃ t : Transcript,
      Postings.deliveriesFor 1 (posted { key := "k" } [.join 0, .append [1], .setHead ⟨.ok, []⟩,
        .flush false, .join 1, .append [2], .flush true, .join 2]) = t.deliveries ∧
      t.deliveries = [.head ⟨.ok, []⟩ false, .chunk [1, 2] true] := by
  have once : (joiners [Move.join 0, .append [1], .setHead ⟨.ok, []⟩, .flush false, .join 1,
      .append [2], .flush true, .join 2]).count 1 ≤ 1 := by decide
  obtain ⟨t, handed, -⟩ := replay_exact "k" _ 1 once
  exact ⟨once, t, handed, handed ▸ by decide⟩

end CachingProxy.Flight
