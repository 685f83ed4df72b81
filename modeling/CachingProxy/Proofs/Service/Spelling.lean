import CachingProxy.Proofs.Service.Naming
import CachingProxy.Proofs.Settings.Names

namespace CachingProxy

namespace Text

variable {c d : Char} {l : List Char}

theorem toLower_eq_iff (mark : d.isAlpha = false) : c.toLower = d ↔ c = d := by
  have plain {c : Char} (mark : c.isAlpha = false) : c.toLower = c := by
    apply Char.toLower_eq_of_not_isUpper
    intro upper
    simp [Char.isAlpha, upper] at mark
  constructor
  · rintro rfl
    rw [Char.isAlpha_toLower_eq_isAlpha] at mark
    exact (plain mark).symm
  · rintro rfl
    exact plain mark

theorem mem_lower_iff (mark : d.isAlpha = false) : d ∈ lower l ↔ d ∈ l := by
  simp [lower, toLower_eq_iff mark]

theorem takeWhile_lower (mark : d.isAlpha = false) :
    (lower l).takeWhile (· ≠ d) = lower (l.takeWhile (· ≠ d)) := by
  simp only [lower, List.takeWhile_map, Function.comp_def, ne_eq, toLower_eq_iff mark]

theorem lower_append (l r : List Char) : lower (l ++ r) = lower l ++ lower r := List.map_append

end Text

namespace Authority

open Text (lower)

variable {l : List Char} {a : Authority}

theorem afterUser_lower (l : List Char) : afterUser (lower l) = lower (afterUser l) := by
  have taken := Text.takeWhile_lower (d := '@') (l := l.reverse) (by decide)
  simp only [lower] at taken
  simp only [lower, afterUser, ← List.map_reverse, taken]

theorem at_notMem_afterUser (l : List Char) : '@' ∉ afterUser l := by
  intro mem
  simpa using List.mem_takeWhile_imp (List.mem_reverse.mp mem)

theorem afterUser_eq (none : '@' ∉ l) : afterUser l = l := by
  have all : ∀ c ∈ l.reverse, (c ≠ '@' : Bool) = true := by
    intro c mem
    refine decide_eq_true ?_
    rintro rfl
    exact none (List.mem_reverse.mp mem)
  rw [afterUser, List.takeWhile_eq_self_iff.mpr all, List.reverse_reverse]

/-- The first part of a text without user information: in brackets, or before a colon. -/
def front (l : List Char) : List Char :=
  if l.head? = some '[' then l.takeWhile (· ≠ ']') ++ [']'] else l.takeWhile (· ≠ ':')

theorem host_eq_front (none : '@' ∉ l) : host ⟨l⟩ = front l := by rw [host, afterUser_eq none, front]

theorem front_front (l : List Char) : front (front l) = front l := by
  by_cases bracket : l.head? = some '['
  · have first : front l = l.takeWhile (· ≠ ']') ++ [']'] := if_pos bracket
    have opened : (front l).head? = some '[' := by
      obtain ⟨r, rfl⟩ := List.head?_eq_some_iff.mp bracket
      rw [first, List.takeWhile_cons_of_pos (by decide)]
      rfl
    have within : (front l).takeWhile (· ≠ ']') = l.takeWhile (· ≠ ']') := by
      have inside : ∀ c ∈ l.takeWhile (· ≠ ']'), (c ≠ ']' : Bool) = true :=
        fun c mem => List.mem_takeWhile_imp (p := (· ≠ ']')) mem
      rw [first, List.takeWhile_append_of_pos inside]
      simp
    rw [front, if_pos opened, within, first]
  · have first : front l = l.takeWhile (· ≠ ':') := if_neg bracket
    have unopened : (front l).head? ≠ some '[' := by
      intro opened
      obtain ⟨r, here⟩ := List.head?_eq_some_iff.mp opened
      obtain ⟨t, whole⟩ : front l <+: l := first ▸ List.takeWhile_prefix _
      exact bracket (by rw [← whole, here]; rfl)
    rw [front, if_neg unopened, first, List.takeWhile_takeWhile]
    simp

theorem at_notMem_host (a : Authority) : '@' ∉ a.host := by
  have part := at_notMem_afterUser a.text
  intro mem
  simp only [host] at mem
  split at mem
  · obtain mem | last := List.mem_append.mp mem
    · exact part (List.takeWhile_subset _ mem)
    · simp at last
  · exact part (List.takeWhile_subset _ mem)

theorem head?_lower {d : Char} (mark : d.isAlpha = false) :
    (lower l).head? = some d ↔ l.head? = some d := by
  cases l with
  | nil => simp [lower]
  | cons c l => simp [lower, Text.toLower_eq_iff mark]

theorem host_lower (l : List Char) : host ⟨lower l⟩ = lower (host ⟨l⟩) := by
  simp only [host, afterUser_lower, head?_lower (by decide : '['.isAlpha = false)]
  split
  · rw [Text.takeWhile_lower (by decide), Text.lower_append]
    rfl
  · exact Text.takeWhile_lower (by decide)

theorem host_host (a : Authority) : host ⟨a.host⟩ = a.host :=
  (host_eq_front (at_notMem_host a)).trans (front_front _)

/-- A text that differs from its host in letter case only is the host. -/
theorem host_eq_of_lower (same : lower (host ⟨l⟩) = lower l) : host ⟨l⟩ = l := by
  have none : '@' ∉ l := by
    rw [← Text.mem_lower_iff (by decide), ← same, Text.mem_lower_iff (by decide)]
    exact at_notMem_host _
  rw [host_eq_front none, front] at same ⊢
  split at same
  · next bracket =>
    have parts := List.takeWhile_append_dropWhile (p := (· ≠ ']')) (l := l)
    rw [if_pos bracket]
    generalize l.takeWhile (· ≠ ']') = before at same parts ⊢
    generalize l.dropWhile (· ≠ ']') = rest at parts
    subst parts
    rw [Text.lower_append, Text.lower_append, List.append_cancel_left_eq] at same
    obtain ⟨c, rfl⟩ := List.length_eq_one_iff.mp (by simpa [lower] using congrArg List.length same.symm)
    have last : c.toLower = ']' := (List.singleton_inj.mp same).symm
    rw [(Text.toLower_eq_iff (by decide)).mp last]
  · next plain =>
    rw [if_neg plain]
    exact (List.takeWhile_prefix _).eq_of_length (by simpa [lower] using congrArg List.length same)

theorem append_of_scan {seen last : Seen} {l passed rest : List Char}
    (scanned : scan seen l = .ok (last, passed, rest)) : passed ++ rest = l := by
  induction l generalizing seen passed with
  | nil =>
    cases scanned
    rfl
  | cons c l ih =>
    have onward {seen : Seen} (scanned : (scan seen l).map (fun x => (x.1, c :: x.2.1, x.2.2)) =
        .ok (last, passed, rest)) : passed ++ rest = c :: l := by
      obtain ⟨x, read, same⟩ := ok_of_map scanned
      cases same
      exact congrArg (c :: ·) (ih read)
    simp only [scan] at scanned
    repeat' split at scanned
    all_goals first
      | exact onward scanned
      | (cases scanned; done)
      | (cases scanned; rfl)

theorem text_of_parse (parsed : parse l = .ok a) : a.text = l := by
  obtain ⟨⟨a', rest⟩, read, parsed⟩ := ok_of_bind parsed
  dsimp only at parsed
  split at parsed
  · next whole =>
    cases parsed
    unfold Authority.read at read
    split at read
    · cases read
    · obtain ⟨x, scanned, read⟩ := ok_of_bind read
      dsimp only at read
      split at read
      · cases read
        have all := append_of_scan scanned
        rwa [whole, List.append_nil] at all
      · cases read
  · cases parsed

end Authority

open Text (lowerString)

variable {v host : String} {h : Headers} {t : Target}

theorem isHost_iff {a : Authority} (parsed : Authority.parse v.toList = .ok a) :
    IsHost v ↔ a.host = v.toList := by
  constructor
  · rintro ⟨a', parsed', whole⟩
    cases parsed.symm.trans parsed'
    exact whole
  · exact fun whole => ⟨a, parsed, whole⟩

/-- Whatever a request names its host by, the host is the lower case of that of some authority. -/
theorem authority_of_requestHost (found : requestHost? h t = some host) :
    ∃ a : Authority, host.toList = Text.lower a.host := by
  simp only [requestHost?] at found
  split at found
  · next c rest lower =>
    obtain ⟨a, -, lower⟩ := Option.map_eq_some_iff.mp lower
    cases found
    exact ⟨a, by rw [String.toList_ofList, lower]⟩
  · cases found

theorem requestHost_ne_of_not_isHost {a : Authority} (parsed : Authority.parse v.toList = .ok a)
    (more : ¬IsHost v) : requestHost? h t ≠ some (lowerString v) := by
  intro found
  obtain ⟨b, same⟩ := authority_of_requestHost found
  rw [lowerString, String.toList_ofList] at same
  have text := Authority.text_of_parse parsed
  refine more ((isHost_iff parsed).mpr ?_)
  have whole : Text.lower (Authority.host ⟨v.toList⟩) = Text.lower v.toList :=
    calc Text.lower (Authority.host ⟨v.toList⟩)
      _ = Authority.host ⟨Text.lower v.toList⟩ := (Authority.host_lower _).symm
      _ = Authority.host ⟨Text.lower b.host⟩ := by rw [same]
      _ = Text.lower (Authority.host ⟨b.host⟩) := Authority.host_lower _
      _ = Text.lower v.toList := by rw [Authority.host_host, same]
  obtain ⟨chars⟩ := a
  cases text
  exact Authority.host_eq_of_lower whole

end CachingProxy
