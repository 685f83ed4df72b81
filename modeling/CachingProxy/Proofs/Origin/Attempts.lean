import CachingProxy.Origin.Fetch
import CachingProxy.Service.Answer
import Mathlib.Data.ENat.Lattice

namespace CachingProxy

/-- Trying from attempt `k` on, up to a result and the number of attempts that were made by then. An
attempt is made and counted; a success ends it, and a failure does once `bound` attempts are counted. -/
inductive Rounds {α : Type} (attempt : Nat → Except Failure α) (bound : Nat) :
    Nat → Except Failure α → Nat → Prop
  | success {k a} (done : attempt k = .ok a) : Rounds attempt bound k (.ok a) (k + 1)
  | failure {k e} (failed : attempt k = .error e) (last : bound ≤ k + 1) :
      Rounds attempt bound k (.error e) (k + 1)
  | again {k e result n} (failed : attempt k = .error e) (early : k + 1 < bound)
      (rest : Rounds attempt bound (k + 1) result n) : Rounds attempt bound k result n

/-- The place of the first success, counted from one; infinite if there is none. -/
noncomputable def firstSuccess {α : Type} (attempt : Nat → Except Failure α) : ℕ∞ :=
  ⨅ (i : Nat) (_ : ∃ a, attempt i = .ok a), ((i + 1 : Nat) : ℕ∞)

section Rounds

variable {α : Type} {attempt other : Nat → Except Failure α} {bound left k n n' i : Nat}
  {result result' : Except Failure α} {a : α} {e : Failure}

theorem retry_of_ok (done : attempt k = .ok a) : retry attempt left k = (.ok a, k + 1) := by
  rw [retry.eq_def]
  simp only [done]

theorem retry_of_last (failed : attempt k = .error e) : retry attempt 0 k = (.error e, k + 1) := by
  rw [retry.eq_def]
  simp only [failed]

theorem retry_of_error (failed : attempt k = .error e) :
    retry attempt (left + 1) k = retry attempt left (k + 1) := by
  rw [retry.eq_def]
  simp only [failed]

theorem rounds_retry (attempt : Nat → Except Failure α) (left k : Nat) :
    Rounds attempt (k + 1 + left) k (retry attempt left k).1 (retry attempt left k).2 := by
  induction left generalizing k with
  | zero =>
    cases tried : attempt k with
    | ok a =>
      rw [retry_of_ok tried]
      exact .success tried
    | error e =>
      rw [retry_of_last tried]
      exact .failure tried (Nat.le_refl _)
  | succ left ih =>
    cases tried : attempt k with
    | ok a =>
      rw [retry_of_ok tried]
      exact .success tried
    | error e =>
      have rest := ih (k + 1)
      have same : k + 1 + 1 + left = k + 1 + (left + 1) := by omega
      rw [same] at rest
      rw [retry_of_error tried]
      exact .again tried (by omega) rest

/-- What is known when the rounds from attempt `k` on have ended. -/
structure Ended (attempt : Nat → Except Failure α) (bound k : Nat) (result : Except Failure α)
    (n : Nat) : Prop where
  made : k < n
  bounded : n ≤ max bound (k + 1)
  last : result = attempt (n - 1)
  failed : ∀ i, k ≤ i → i + 1 < n → ∃ e, attempt i = .error e
  reason : (∃ a, result = .ok a) ∨ bound ≤ n

theorem Rounds.ended (rounds : Rounds attempt bound k result n) :
    Ended attempt bound k result n := by
  induction rounds with
  | @success k a done =>
    exact ⟨Nat.lt_succ_self k, Nat.le_max_right _ _, done.symm, fun i _ _ => by omega, .inl ⟨a, rfl⟩⟩
  | @failure k e failed last =>
    exact ⟨Nat.lt_succ_self k, Nat.le_max_right _ _, failed.symm, fun i _ _ => by omega, .inr last⟩
  | @again k e result n failed early rest ih =>
    have bounded : n ≤ max bound (k + 1) := by
      have := ih.bounded
      omega
    refine ⟨Nat.lt_of_succ_lt ih.made, bounded, ih.last, fun i from_k before => ?_, ih.reason⟩
    obtain here | later := Nat.eq_or_lt_of_le from_k
    · exact ⟨e, here ▸ failed⟩
    · exact ih.failed i later before

namespace Ended

variable (ended : Ended attempt bound k result n)
include ended

theorem bound_le_of_error (failed : attempt (n - 1) = .error e) : bound ≤ n := by
  obtain ⟨a, done⟩ | last := ended.reason
  · rw [ended.last, failed] at done
    cases done
  · exact last

theorem unique (ended' : Ended other bound k result' n')
    (same : ∀ i, k ≤ i → i < n → other i = attempt i) : result' = result ∧ n' = n := by
  have made := ended.made
  have made' := ended'.made
  have bounded := ended.bounded
  have bounded' := ended'.bounded
  -- Who ends first ends with a failure, and so because of the bound.
  have count : n' = n := by
    obtain less | equal | more := Nat.lt_trichotomy n' n
    · obtain ⟨e, failed⟩ := ended.failed (n' - 1) (by omega) (by omega)
      rw [← same _ (by omega) (by omega)] at failed
      have := ended'.bound_le_of_error failed
      omega
    · exact equal
    · obtain ⟨e, failed⟩ := ended'.failed (n - 1) (by omega) (by omega)
      rw [same _ (by omega) (by omega)] at failed
      have := ended.bound_le_of_error failed
      omega
  subst count
  exact ⟨by rw [ended.last, ended'.last, same _ (by omega) (by omega)], rfl⟩

theorem ne_of_differ (ended' : Ended other bound k result' n') (there : k ≤ i) (early : i < n)
    (differ : (∃ a, other i = .ok a) ↔ ∃ e, attempt i = .error e) :
    ¬ (result' = result ∧ n' = n) := by
  rintro ⟨rfl, rfl⟩
  obtain before | at_last : i + 1 < n' ∨ i = n' - 1 := by omega
  · obtain ⟨a, done⟩ := differ.mpr (ended.failed i there before)
    obtain ⟨e, failed⟩ := ended'.failed i there before
    rw [done] at failed
    cases failed
  · have same : other i = attempt i := by rw [at_last, ← ended.last, ← ended'.last]
    rw [same] at differ
    cases tried : attempt i <;> simp [tried] at differ

end Ended

theorem natCast_lt_firstSuccess (none : ∀ i < n, ∃ e, attempt i = .error e) :
    (n : ℕ∞) < firstSuccess attempt := by
  rw [← ENat.natCast_add_one_le_iff]
  refine le_iInf₂ fun i ⟨a, done⟩ => ?_
  have later : n ≤ i := by
    by_contra before
    obtain ⟨e, failed⟩ := none i (Nat.lt_of_not_le before)
    rw [done] at failed
    cases failed
  exact_mod_cast Nat.succ_le_succ later

theorem firstSuccess_eq (done : attempt i = .ok a) (before : ∀ j < i, ∃ e, attempt j = .error e) :
    firstSuccess attempt = (i + 1 : Nat) := by
  refine le_antisymm (iInf₂_le i ⟨a, done⟩) ?_
  have later := natCast_lt_firstSuccess before
  rw [← ENat.natCast_add_one_le_iff] at later
  exact_mod_cast later

theorem Ended.cases (ended : Ended attempt bound 0 result n) (some : 0 < bound) :
    (n ≤ bound ∧ firstSuccess attempt = n ∧ ∃ a, attempt (n - 1) = .ok a ∧ result = .ok a) ∨
      n = bound ∧ n < firstSuccess attempt ∧
        ∃ e, attempt (n - 1) = .error e ∧ result = .error e := by
  have made := ended.made
  have bounded := ended.bounded
  have before (i : Nat) (early : i < n - 1) : ∃ e, attempt i = .error e :=
    ended.failed i (Nat.zero_le i) (by omega)
  have counted : n - 1 + 1 = n := by omega
  cases tried : attempt (n - 1) with
  | ok a =>
    refine .inl ⟨by omega, ?_, a, rfl, ended.last.trans tried⟩
    rw [firstSuccess_eq tried before, counted]
  | error e =>
    have all := ended.bound_le_of_error tried
    refine .inr ⟨by omega, natCast_lt_firstSuccess fun i early => ?_, e, rfl, ended.last.trans tried⟩
    obtain earlier | here : i < n - 1 ∨ i = n - 1 := by omega
    · exact before i earlier
    · exact ⟨e, here ▸ tried⟩

theorem Ended.outcome (ended : Ended attempt bound 0 result n) (some : 0 < bound) :
    (n : ℕ∞) = min (firstSuccess attempt) bound ∧
    (firstSuccess attempt ≤ bound → ∃ a, attempt (n - 1) = .ok a ∧ result = .ok a) ∧
    (bound < firstSuccess attempt → ∃ e, attempt (bound - 1) = .error e ∧ result = .error e) := by
  obtain ⟨within, first, done⟩ | ⟨rfl, none, failed⟩ := ended.cases some
  · have early : firstSuccess attempt ≤ bound := by
      rw [first]
      exact_mod_cast within
    exact ⟨first.symm.trans (min_eq_left early).symm, fun _ => done,
      fun late => absurd early (not_le_of_gt late)⟩
  · exact ⟨(min_eq_right none.le).symm, fun early => absurd none (not_lt_of_ge early),
      fun _ => failed⟩

end Rounds

def Network.but (network : Network) (c : Call) (i : Nat) (r : Reply) : Network :=
  Function.update network c (Function.update (network c) i r)

theorem Reply.outcome_eq_ok_iff {r : Reply} {u : Url} {a : Head × List Fed} :
    r.outcome u = .ok a ↔
      ∃ h body, r = .answered h body ∧ a = (⟨h.status, h.headers.endToEnd⟩, body) := by
  cases r <;> simp [outcome, eq_comm]

namespace Origin

variable {o : Origin} {network network' : Network} {path : String} {request : Headers} {c : Call}
  {i : Nat} {a : Head × List Fed}

theorem attempt_of_call (built : o.call path request = .ok c) (i : Nat) :
    o.attempt network path request i = (network c i).outcome c.url := by
  rw [attempt, built]
  rfl

theorem attempt_of_error {f : Failure} (unbuilt : o.call path request = .error f) (i : Nat) :
    o.attempt network path request i = .error f := by
  rw [attempt, unbuilt]
  rfl

theorem attempt_eq_ok_iff : o.attempt network path request i = .ok a ↔
    ∃ c h body, o.call path request = .ok c ∧ network c i = .answered h body ∧
      a = (⟨h.status, h.headers.endToEnd⟩, body) := by
  cases built : o.call path request with
  | error f => simp [attempt_of_error built]
  | ok c => simp [attempt_of_call built, Reply.outcome_eq_ok_iff]

theorem attempt_congr
    (same : ∀ c, o.call path request = .ok c → network' c i = network c i) :
    o.attempt network' path request i = o.attempt network path request i := by
  cases built : o.call path request with
  | error f => rw [attempt_of_error built, attempt_of_error built]
  | ok c => rw [attempt_of_call built, attempt_of_call built, same c built]

theorem exists_differ (network : Network) (built : o.call path request = .ok c) (i : Nat) : ∃ r,
    (∃ a, o.attempt (network.but c i r) path request i = .ok a) ↔
      ∃ e, o.attempt network path request i = .error e := by
  have replied (r : Reply) :
      o.attempt (network.but c i r) path request i = r.outcome c.url := by
    rw [attempt_of_call built, Network.but, Function.update_self, Function.update_self]
  cases tried : o.attempt network path request i with
  | ok a => exact ⟨.refused, by simp [replied, Reply.outcome]⟩
  | error e => exact ⟨.answered ⟨.ok, []⟩ [], by simp [replied, Reply.outcome]⟩

theorem url_of_call (built : o.call path request = .ok c) :
    ∃ u, Url.parse (o.address path) = .ok u ∧ c.url = u.withoutUser := by
  unfold call at built
  split at built
  · cases built
  · next u parsed =>
    refine ⟨u, parsed, ?_⟩
    split at built
    · cases built
    · split at built
      · cases built
      · dsimp only at built
        split at built
        · cases built
        · split at built <;> cases built
          rfl

theorem rounds_fetch {os : Origins} {host name : String}
    (resolved : os.resolve host = .ok (name, o)) (network : Network) (path : String)
    (request : Headers) :
    Rounds (o.attempt network path request) (max 1 o.maxRetries) 0
      (os.fetch network host path request).1 (os.fetch network host path request).2 := by
  have rounds := rounds_retry (o.attempt network path request) (o.attempts - 1) 0
  have bound : 0 + 1 + (o.attempts - 1) = max 1 o.maxRetries := by
    rw [attempts]
    omega
  rw [bound] at rounds
  rw [Origins.fetch, resolved]
  exact rounds

end Origin

namespace Origins

/-- What comes of trying an origin, with the first success in place `k` and at most `m` attempts: the
result, and the number `n` of attempts. -/
structure Tried (os : Origins) (network : Network) (host path : String) (request : Headers) (o : Origin)
    (k : ℕ∞) (m : Nat) (result : Except Failure (Head × List Fed)) (n : Nat) : Prop where
  rounds : Rounds (o.attempt network path request) m 0 result n
  count : (n : ℕ∞) = min k m
  /-- The first success is passed on without the fields that concern the connection only. -/
  done : k ≤ m → ∃ c h body, o.call path request = .ok c ∧ network c (n - 1) = .answered h body ∧
    result = .ok (⟨h.status, h.headers.endToEnd⟩, body)
  failed : m < k → ∃ e, o.attempt network path request (m - 1) = .error e ∧ result = .error e
  /-- All attempts go to the address of the path. -/
  address : ∀ c, o.call path request = .ok c →
    ∃ u, Url.parse (o.address path) = .ok u ∧ c.url = u.withoutUser
  /-- What the network makes of each of the attempts matters. -/
  needed : ∀ c, o.call path request = .ok c → ∀ i < n, ∃ r,
    os.fetch (network.but c i r) host path request ≠ (result, n)
  /-- The network is asked for nothing else. -/
  enough : ∀ network' : Network,
    (∀ c, o.call path request = .ok c → ∀ i < n, network' c i = network c i) →
      os.fetch network' host path request = (result, n)

/-- For all origins and whatever the network brings. A host without an origin is told so, and nothing is
tried. Otherwise trying comes to an end after as many attempts as the smaller of two numbers says: the
place of the first success, and the number of tries in the settings, but at least one. -/
theorem fetch_tries_exactly (os : Origins) (network : Network) (host path : String)
    (request : Headers) :
    (∀ f, os.resolve host = .error f → os.fetch network host path request = (.error f, 0)) ∧
    ∀ name o, os.resolve host = .ok (name, o) →
      ∃ result n, os.fetch network host path request = (result, n) ∧
        os.Tried network host path request o (firstSuccess (o.attempt network path request))
          (max 1 o.maxRetries) result n := by
  refine ⟨fun f unknown => by rw [fetch, unknown], fun name o resolved => ?_⟩
  have rounds := Origin.rounds_fetch resolved network path request
  generalize os.fetch network host path request = fetched at rounds
  obtain ⟨result, n⟩ := fetched
  have ended : Ended (o.attempt network path request) (max 1 o.maxRetries) 0 result n := rounds.ended
  have others (network' : Network) := (Origin.rounds_fetch resolved network' path request).ended
  obtain ⟨count, done, failed⟩ := ended.outcome (Nat.le_max_left 1 o.maxRetries)
  refine ⟨result, n, rfl, rounds, count, fun early => ?_, failed, fun c => Origin.url_of_call,
    fun c built i made => ?_, fun network' same => ?_⟩
  · obtain ⟨a, tried, rfl⟩ := done early
    obtain ⟨c, h, body, built, replied, rfl⟩ := Origin.attempt_eq_ok_iff.mp tried
    exact ⟨c, h, body, built, replied, rfl⟩
  · obtain ⟨r, differ⟩ := Origin.exists_differ network built i
    refine ⟨r, fun same => ?_⟩
    have other := others (network.but c i r)
    rw [same] at other
    exact ended.ne_of_differ other (Nat.zero_le i) made differ ⟨rfl, rfl⟩
  · have alike := ended.unique (others network') fun i _ early =>
      Origin.attempt_congr fun c built => same c built i early
    exact Prod.ext alike.1 alike.2

def thirdTime : Network := fun _ i =>
  match i with
  | 0 => .refused
  | 1 => .lost
  | _ => .answered ⟨.ok, [(.connection, .ofText "close"), (.contentType, .json)]⟩ [.ended]

/-- Three tries are enough for this network. With no tries there is one attempt, and it fails. -/
theorem fetch_tries_exactly_of_third :
    let near (tries : Nat) : Origin := { url := "http://127.0.0.1:1/", maxRetries := tries }
    let os (tries : Nat) : Origins := Assoc.empty.set "a.com" (near tries)
    (os 3).fetch thirdTime "b.com" "x" [] = (.ok (⟨.ok, [(.contentType, .json)]⟩, [.ended]), 3) ∧
    ∃ e, (os 0).fetch thirdTime "b.com" "x" [] = (.error e, 1) := by
  intro near os
  let c : Call :=
    ⟨⟨"http", "", none, some (.ipv4 2130706433), some 1, .segments ["x"], none, none⟩, []⟩
  have first (tries : Nat) (built : (near tries).call "x" [] = .ok c) :
      firstSuccess ((near tries).attempt thirdTime "x" []) = (3 : Nat) := by
    refine firstSuccess_eq (i := 2) (Origin.attempt_of_call built 2) fun j early => ?_
    obtain rfl | rfl : j = 0 ∨ j = 1 := by omega
    · exact ⟨_, Origin.attempt_of_call built 0⟩
    · exact ⟨_, Origin.attempt_of_call built 1⟩
  constructor
  · obtain ⟨-, each⟩ := fetch_tries_exactly (os 3) thirdTime "b.com" "x" []
    obtain ⟨result, n, fetched, tried⟩ := each "a.com" (near 3) rfl
    have bound : max 1 (near 3).maxRetries = 3 := rfl
    rw [first 3 (by decide +kernel), bound] at tried
    obtain rfl : n = 3 := Nat.cast_inj.mp (tried.count.trans (min_self _))
    obtain ⟨c', h, body, -, replied, rfl⟩ := tried.done le_rfl
    cases replied
    exact fetched
  · obtain ⟨-, each⟩ := fetch_tries_exactly (os 0) thirdTime "b.com" "x" []
    obtain ⟨result, n, fetched, tried⟩ := each "a.com" (near 0) rfl
    have bound : max 1 (near 0).maxRetries = 1 := rfl
    rw [first 0 (by decide +kernel), bound] at tried
    obtain rfl : n = 1 := Nat.cast_inj.mp (tried.count.trans (min_eq_right (by decide)))
    obtain ⟨e, -, rfl⟩ := tried.failed (by decide)
    exact ⟨e, fetched⟩

end Origins
end CachingProxy
