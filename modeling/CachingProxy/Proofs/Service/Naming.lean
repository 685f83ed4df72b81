import Mathlib.Data.List.TakeWhile
import CachingProxy.Service.Router

namespace CachingProxy

theorem ok_of_bind {ε α β : Type} {x : Except ε α} {f : α → Except ε β} {b : β}
    (done : x >>= f = .ok b) : ∃ a, x = .ok a ∧ f a = .ok b := by
  cases x with
  | error e => cases done
  | ok a => exact ⟨a, rfl, done⟩

theorem ok_of_map {ε α β : Type} {x : Except ε α} {f : α → β} {b : β} (done : x.map f = .ok b) :
    ∃ a, x = .ok a ∧ f a = b := by
  cases x with
  | error e => cases done
  | ok a => exact ⟨a, rfl, Except.ok.inj done⟩

namespace Store

def opens (c : Char) : Bool := c = '/' || c = '?'

/-- A host and a path that can be told apart when one is written after the other. -/
structure Parted (host path : String) : Prop where
  host : ∀ c ∈ host.toList, opens c = false
  path : path.toList.head?.any opens = true

variable {host path host' path' : String}

theorem host_of_key (parted : Parted host path) :
    (key host path).toList.takeWhile (!opens ·) = host.toList := by
  have passed : ∀ c ∈ host.toList, (!opens c) = true := by simpa using parted.host
  have stops : path.toList.takeWhile (!opens ·) = [] := by
    have first := parted.path
    cases path : path.toList with
    | nil => simp [path] at first
    | cons c rest =>
      have opened : opens c = true := by simpa [path] using first
      simp [opened]
  rw [key, String.toList_append, List.takeWhile_append_of_pos passed, stops, List.append_nil]

/-- No two of them have the same key. -/
theorem key_inj (parted : Parted host path) (parted' : Parted host' path')
    (same : key host path = key host' path') : host = host' ∧ path = path' := by
  have hosts : host = host' := by
    rw [← String.toList_inj, ← host_of_key parted, same, host_of_key parted']
  refine ⟨hosts, ?_⟩
  rw [key, key, hosts, ← String.toList_inj, String.toList_append, String.toList_append] at same
  exact String.toList_inj.mp (List.append_cancel_left same)

/-- A slash in a host would be taken for the first of the path. -/
example : key "a" "/b/c" = key "a/b" "/c" := by decide

theorem opens_toLower {c : Char} (shut : opens c = false) : opens c.toLower = false := by
  unfold Char.toLower
  split
  · next upper =>
    -- Small letters come after both characters.
    have least : 'A'.val.toNat ≤ c.val.toNat := upper.1
    have most : c.val.toNat ≤ 'Z'.val.toNat := upper.2
    have shift : (c.val + ('a'.val - 'A'.val)).toNat = c.val.toNat + 32 := by
      rw [UInt32.toNat_add]
      exact Nat.mod_eq_of_lt (Nat.lt_of_le_of_lt (Nat.add_le_add_right most 32) (by decide))
    have first : 65 ≤ c.val.toNat := least
    simp only [opens, Bool.or_eq_false_iff, decide_eq_false_iff_not, Char.ext_iff,
      ← UInt32.toNat_inj, shift]
    constructor
    · show ¬ c.val.toNat + 32 = 47
      omega
    · show ¬ c.val.toNat + 32 = 63
      omega
  · exact shut

end Store

namespace Authority

open Store (opens)

theorem opens_of_scan {seen last : Seen} {l passed rest : List Char}
    (scanned : scan seen l = .ok (last, passed, rest)) : ∀ c ∈ passed, opens c = false := by
  induction l generalizing seen passed with
  | nil =>
    cases scanned
    simp
  | cons c l ih =>
    have onward {seen : Seen} (shut : opens c = false)
        (scanned : (scan seen l).map (fun x => (x.1, c :: x.2.1, x.2.2)) =
          .ok (last, passed, rest)) : ∀ c ∈ passed, opens c = false := by
      obtain ⟨x, read, same⟩ := ok_of_map scanned
      cases same
      exact List.forall_mem_cons.mpr ⟨shut, ih read⟩
    simp only [scan] at scanned
    split at scanned
    · cases scanned
      simp
    · next stays =>
      have shut : opens c = false := by
        rw [not_or, not_or] at stays
        simp [opens, stays]
      repeat' split at scanned
      all_goals first
        | exact onward shut scanned
        | cases scanned

theorem opens_of_read {l rest : List Char} {a : Authority} (read : Authority.read l = .ok (a, rest)) :
    ∀ c ∈ a.text, opens c = false := by
  unfold Authority.read at read
  split at read
  · cases read
  · obtain ⟨x, scanned, read⟩ := ok_of_bind read
    dsimp only at read
    split at read
    · cases read
      exact opens_of_scan scanned
    · cases read

theorem opens_of_parse {l : List Char} {a : Authority} (parsed : parse l = .ok a) :
    ∀ c ∈ a.text, opens c = false := by
  obtain ⟨x, read, parsed⟩ := ok_of_bind parsed
  dsimp only at parsed
  split at parsed
  · cases parsed
    exact opens_of_read read
  · cases parsed

theorem opens_of_host {a : Authority} (shut : ∀ c ∈ a.text, opens c = false) :
    ∀ c ∈ a.host, opens c = false := by
  have part : ∀ c ∈ afterUser a.text, opens c = false := by
    intro c mem
    have taken := List.mem_reverse.mp mem
    exact shut c (List.mem_reverse.mp (List.takeWhile_subset _ taken))
  intro c mem
  simp only [host] at mem
  split at mem
  · obtain mem | last := List.mem_append.mp mem
    · exact part c (List.takeWhile_subset _ mem)
    · rw [List.mem_singleton.mp last]
      decide
  · exact part c (List.takeWhile_subset _ mem)

end Authority

theorem Route.slash_of_proxied {p : String} (routed : Route.ofPath p = .proxied) :
    p.toList.head? = some '/' := by
  unfold Route.ofPath at routed
  repeat' split at routed
  all_goals first
    | assumption
    | cases routed

namespace Target

open Store (opens)

theorem opens_of_parse {b : Bytes} {t : Target} {a : Authority} (parsed : parse b = .ok t)
    (named : t.authority = some a) : ∀ c ∈ a.text, opens c = false := by
  have full (parsed : readFull b = .ok t) : ∀ c ∈ a.text, opens c = false := by
    obtain ⟨length, -, parsed⟩ := ok_of_bind parsed
    cases length with
    | none =>
      obtain ⟨x, read, parsed⟩ := ok_of_bind parsed
      dsimp only at parsed
      split at parsed
      · cases parsed
        cases named
        exact Authority.opens_of_read read
      · cases parsed
    | some n =>
      obtain ⟨x, read, parsed⟩ := ok_of_bind parsed
      dsimp only at parsed
      split at parsed
      · cases parsed
      · obtain ⟨p, -, parsed⟩ := ok_of_bind parsed
        cases parsed
        cases named
        exact Authority.opens_of_read read
  unfold parse at parsed
  split at parsed
  · cases parsed
  · split at parsed
    · cases parsed
    · cases parsed
      cases named
    · cases parsed
      cases named
    · obtain ⟨a', single, same⟩ := ok_of_map parsed
      cases same
      cases named
      exact Authority.opens_of_parse single
    · obtain ⟨p, -, same⟩ := ok_of_map parsed
      cases same
      cases named
    · exact full parsed

theorem opens_of_proxied {t : Target} (routed : Route.ofPath t.path = .proxied) :
    t.resource.toList.head?.any opens = true := by
  unfold resource
  unfold path at routed
  cases there : t.pathAndQuery with
  | none => rfl
  | some s =>
    simp only [there] at routed ⊢
    split
    · rfl
    · next nonempty =>
      cases chars : s.toList with
      | nil => exact absurd (String.toList_inj.mp chars) nonempty
      | cons c rest =>
        by_cases query : c = '?'
        · subst query
          rfl
        · -- The path is more than nothing, and its first character is the first of all.
          have first : (c :: rest).takeWhile (· ≠ '?') = c :: rest.takeWhile (· ≠ '?') :=
            List.takeWhile_cons_of_pos (by simpa using query)
          rw [chars, first, if_neg (List.cons_ne_nil _ _)] at routed
          have slash := Route.slash_of_proxied routed
          rw [String.toList_ofList] at slash
          cases slash
          rfl

end Target

namespace Service

open Store (opens)

theorem opens_of_requestHost {h : Headers} {t : Target} {host : String}
    (named : ∀ a, t.authority = some a → ∀ c ∈ a.text, opens c = false)
    (found : requestHost? h t = some host) : ∀ c ∈ host.toList, opens c = false := by
  -- A `host` field is parsed like the authority of a target.
  have known : ∃ a : Authority, (∀ c ∈ a.text, opens c = false) ∧
      host.toList = Text.lower a.host := by
    simp only [requestHost?] at found
    split at found
    · next c rest lower =>
      obtain ⟨a, there, lower⟩ := Option.map_eq_some_iff.mp lower
      cases found
      refine ⟨a, ?_, by rw [String.toList_ofList, lower]⟩
      split at there
      · obtain ⟨s, -, parsed⟩ := Option.bind_eq_some_iff.mp there
        cases read : Authority.parse s.toList with
        | error e =>
          rw [read] at parsed
          cases parsed
        | ok a' =>
          rw [read] at parsed
          cases parsed
          exact Authority.opens_of_parse read
      · exact named a there
    · cases found
  obtain ⟨a, shut, lower⟩ := known
  rw [lower]
  intro c mem
  obtain ⟨d, among, rfl⟩ := List.mem_map.mp mem
  exact Store.opens_toLower (Authority.opens_of_host shut d among)

/-- Whatever is asked of the proxy, its host and its path can be told apart. -/
theorem parted_of_inquiry {b : Bytes} {r : Request} {q : Inquiry}
    (parsed : Target.parse b = .ok r.target) (routed : Route.ofPath r.target.path = .proxied)
    (asked : inquiry? r = .ok q) : Store.Parted q.host q.path := by
  unfold inquiry? at asked
  split at asked
  · next host found =>
    cases asked
    refine ⟨opens_of_requestHost (fun a named => Target.opens_of_parse parsed named) found, ?_⟩
    exact Target.opens_of_proxied routed
  · cases asked

end Service
end CachingProxy
