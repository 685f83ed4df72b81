import Mathlib
import CachingProxy.Http.Target
import CachingProxy.Proofs.Settings.Checked
import CachingProxy.Service.Answer

namespace CachingProxy

namespace Text

theorem lowerString_lowerString (s : String) : lowerString (lowerString s) = lowerString s := by
  simp only [lowerString, lower, String.toList_ofList, List.map_map, Function.comp_def,
    Char.toLower_toLower_eq_toLower]

end Text

namespace Assoc

variable {κ α : Type} [DecidableEq κ]

theorem entries_of_keys {t : Assoc κ α} {k : κ} {a : α} (there : t.get? k = some a)
    (only : t.keys = [k]) : t.entries = [(k, a)] := by
  obtain ⟨p, single⟩ : ∃ p, t.entries = [p] := by
    rw [← List.length_eq_one_iff, ← List.length_map Prod.fst]
    exact congrArg List.length only
  have mem := mem_entries there
  rw [single] at mem ⊢
  rw [List.mem_singleton.mp mem]

end Assoc

namespace Origins

variable {os : Origins} {host name : String} {o : Origin}

/-- An origin serves its own name, and every host if it is the only one. -/
theorem resolve_eq_ok_iff (named : os.get? name = some o) :
    os.resolve host = .ok (name, o) ↔ host = name ∨ os.keys = [name] := by
  constructor
  · intro resolved
    unfold resolve at resolved
    split at resolved
    · cases resolved
      exact .inl rfl
    · split at resolved
      · next only single =>
        cases resolved
        exact .inr (congrArg (List.map Prod.fst) single)
      · cases resolved
  · rintro (rfl | only)
    · rw [resolve, named]
    · have single := Assoc.entries_of_keys named only
      by_cases here : host = name
      · rw [resolve, here, named]
      · have absent : os.get? host = none := by
          rw [Assoc.get?, single, Assoc.find, if_neg (Ne.symm here), Assoc.find]
        rw [resolve, absent, single]

theorem resolve_unknown (absent : os.get? host = none) (several : os.keys.length ≠ 1) :
    os.resolve host = .error ⟨.notFound, "Unknown host: " ++ host⟩ := by
  rw [resolve, absent]
  split
  · next h => cases h
  · split
    · next only single => exact absurd (congrArg (List.length ∘ List.map Prod.fst) single) several
    · rfl

end Origins

/-- That a text is the name of a host and nothing else: it can stand in a request, and there is neither
user information nor the number of a TCP port in it. -/
def IsHost (n : String) : Prop := ∃ a, Authority.parse n.toList = .ok a ∧ a.host = n.toList

theorem requestHost_of_isHost {n : String} (plain : IsHost n) {h : Headers} {v : HeaderValue}
    (first : h.first? .host = some v) (reads : v.text? = some n) (t : Target) :
    requestHost? h t = some (Text.lowerString n) := by
  obtain ⟨a, parsed, whole⟩ := plain
  have nonempty : n.toList ≠ [] := by
    intro empty
    rw [empty] at parsed
    cases parsed
  simp only [requestHost?, first, reads, Option.bind_some, parsed, Except.toOption, Option.map_some,
    whole, Text.lowerString]
  cases chars : n.toList with
  | nil => exact absurd chars nonempty
  | cons c r => rfl

namespace Settings

/-- Whatever the settings are and whichever origin they name after a host, with a name that no other is
like when letter case does not count: a request for the name is a request for the name in lower case,
and this gets it the origin if the settings have it in lower case, too, or name no other origin.
Otherwise it gets it none. -/
theorem served_by_name {s : Settings} {n : String} {o : Origin} (named : s.origins.get? n = some o)
    (plain : IsHost n)
    (apart : ∀ m ∈ s.origins.keys, Text.lowerString m = Text.lowerString n → m = n)
    {h : Headers} {v : HeaderValue} (first : h.first? .host = some v) (reads : v.text? = some n)
    (t : Target) :
    requestHost? h t = some (Text.lowerString n) ∧
    (s.origins.resolve (Text.lowerString n) = .ok (n, o) ↔
      Text.lowerString n = n ∨ s.origins.keys = [n]) ∧
    (Text.lowerString n ≠ n → s.origins.keys ≠ [n] →
      s.origins.resolve (Text.lowerString n) =
        .error ⟨.notFound, "Unknown host: " ++ Text.lowerString n⟩) := by
  refine ⟨requestHost_of_isHost plain first reads t, Origins.resolve_eq_ok_iff named, ?_⟩
  intro capital others
  apply Origins.resolve_unknown
  · -- A name that is found in lower case would be like this one.
    cases found : s.origins.get? (Text.lowerString n) with
    | none => rfl
    | some b =>
      have same := apart _ (Assoc.mem_keys found) (Text.lowerString_lowerString n)
      exact absurd same capital
  · intro one
    obtain ⟨m, single⟩ := List.length_eq_one_iff.mp one
    have same : n = m := List.mem_singleton.mp (single ▸ Assoc.mem_keys named)
    exact others (same ▸ single)

def capital : Settings where
  origins := (Assoc.empty.set "A.com" { url := "http://127.0.0.1:1" }).set "b.com"
    { url := "http://127.0.0.1:2" }

/-- The first is not found by its name, and the second is. -/
theorem served_by_name_of_two :
    let host (n : HeaderValue) := requestHost? [(.host, n)] ⟨none, some "/x"⟩
    host (.ofText "A.com") = some "a.com" ∧
    capital.origins.resolve "a.com" = .error ⟨.notFound, "Unknown host: a.com"⟩ ∧
    host (.ofText "b.com") = some "b.com" ∧
    capital.origins.resolve "b.com" = .ok ("b.com", { url := "http://127.0.0.1:2" }) := by
  intro host
  have apart (n : String) (mem : n ∈ ["A.com", "b.com"]) :
      ∀ m ∈ capital.origins.keys, Text.lowerString m = Text.lowerString n → m = n := by
    have each : ∀ n ∈ ["A.com", "b.com"], ∀ m ∈ ["A.com", "b.com"],
        Text.lowerString m = Text.lowerString n → m = n := by decide
    exact each n mem
  obtain ⟨first, -, unknown⟩ := served_by_name (s := capital) (n := "A.com")
    (h := [(.host, .ofText "A.com")]) rfl ⟨⟨"A.com".toList⟩, rfl, rfl⟩ (apart _ (by decide)) rfl
    (by decide) ⟨none, some "/x"⟩
  obtain ⟨second, found, -⟩ := served_by_name (s := capital) (n := "b.com")
    (h := [(.host, .ofText "b.com")]) rfl ⟨⟨"b.com".toList⟩, rfl, rfl⟩ (apart _ (by decide)) rfl
    (by decide) ⟨none, some "/x"⟩
  exact ⟨first, unknown (by decide) (by decide), second, found.mpr (.inl (by decide))⟩

/-- Checked settings with an origin that no request for its own name gets. -/
theorem unserved_by_name :
    capital.check = .ok () ∧
    capital.origins.get? "A.com" = some { url := "http://127.0.0.1:1" } ∧
    IsHost "A.com" ∧
    (∀ m ∈ capital.origins.keys, Text.lowerString m = Text.lowerString "A.com" → m = "A.com") ∧
    ∃ host, requestHost? [(.host, .ofText "A.com")] ⟨none, some "/x"⟩ = some host ∧
      capital.origins.resolve host ≠ .ok ("A.com", { url := "http://127.0.0.1:1" }) := by
  refine ⟨rfl, rfl, ⟨⟨"A.com".toList⟩, rfl, rfl⟩, by decide, "a.com", by decide, ?_⟩
  intro resolved
  cases resolved

end Settings
end CachingProxy
