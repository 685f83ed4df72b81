import CachingProxy.Proofs.Settings.Checked
import CachingProxy.Proofs.Url.Tidy

namespace CachingProxy

/-- A path of words of ASCII letters and digits, a slash before each of them. -/
def IsPlainPath (p : String) : Prop :=
  ∃ words : List (List Char), words ≠ [] ∧
    (∀ w ∈ words, w ≠ [] ∧ ∀ c ∈ w, (Text.isAlpha c || Text.isDigit c) = true) ∧
    p.toList = words.flatMap fun w => '/' :: w

namespace Origin

open Text (isPathChar)
open Url (OfWeb Tidy)

variable {o : Origin} {p : String} {u v : Url} {l d t : List Char}

/-- That a URL has the place of another one, and its path is the path of that one, without the slashes
at its end, and then `p`. -/
structure Extends (u : Url) (p : String) (v : Url) : Prop where
  scheme : v.scheme = u.scheme
  host : v.host = u.host
  tcpPort : v.tcpPort = u.tcpPort
  path : v.path.render = String.ofList (trimSlashes u.path.render.toList) ++ p

theorem exists_of_isPlainPath (plain : IsPlainPath p) :
    ∃ q, p.toList = '/' :: q ∧ ∀ c ∈ q, isPathChar c = true := by
  obtain ⟨words, some, each, whole⟩ := plain
  obtain ⟨w, ws, rfl⟩ := List.exists_cons_of_ne_nil some
  have chars : ∀ c ∈ p.toList, isPathChar c = true := by
    rw [whole]
    intro c mem
    obtain ⟨w, word, mem⟩ := List.mem_flatMap.mp mem
    obtain rfl | mem := List.mem_cons.mp mem
    · rfl
    · have alphanumeric := (each w word).2 c mem
      rw [isPathChar, Bool.or_assoc, alphanumeric, Bool.or_true]
  rw [List.flatMap_cons, List.cons_append] at whole
  rw [whole] at chars
  exact ⟨_, whole, (List.forall_mem_cons.mp chars).2⟩

theorem isPlainPath_letter {c : Char} (letter : Text.isAlpha c = true) :
    IsPlainPath (String.ofList ['/', c]) :=
  ⟨[[c]], by simp, by simp [letter], by simp⟩

theorem trimSlashes_spec (l : List Char) :
    ∃ t, l = trimSlashes l ++ t ∧ (∀ c ∈ t, c = '/') ∧ (trimSlashes l).getLast? ≠ some '/' := by
  refine ⟨(l.reverse.takeWhile (· = '/')).reverse, ?_, fun c mem => ?_, fun last => ?_⟩
  · rw [trimSlashes, ← List.reverse_append, List.takeWhile_append_dropWhile, List.reverse_reverse]
  · have passed := List.mem_takeWhile_imp (List.mem_reverse.mp mem)
    exact of_decide_eq_true passed
  · have stops := List.head?_dropWhile_not (· = '/') l.reverse
    rw [trimSlashes, List.getLast?_reverse] at last
    simp [last] at stops

theorem trimSlashes_append (slashes : ∀ c ∈ t, c = '/') (unslashed : d.getLast? ≠ some '/') :
    trimSlashes (d ++ t) = d := by
  have passed : ∀ c ∈ t.reverse, decide (c = '/') = true := fun c mem =>
    decide_eq_true (slashes c (List.mem_reverse.mp mem))
  rw [← List.head?_reverse] at unslashed
  rw [trimSlashes, List.reverse_append, List.dropWhile_append_of_pos passed]
  cases front : d.reverse with
  | nil => rw [List.dropWhile_nil, ← front, List.reverse_reverse]
  | cons c r =>
    have other : c ≠ '/' := fun same => unslashed (by rw [front, same, List.head?_cons])
    rw [List.dropWhile_cons_of_neg (by simpa using other), ← front, List.reverse_reverse]

theorem toList_address {q : List Char} (path : p.toList = '/' :: q) :
    (o.address p).toList = trimSlashes o.url.toList ++ '/' :: q := by
  simp [address, path]

theorem clean_address (o : Origin) : ∃ m, ∀ {p : String} {q : List Char}, p.toList = '/' :: q →
    (∀ c ∈ q, isPathChar c = true) → Url.clean (o.address p).toList = m ++ '/' :: q := by
  obtain ⟨m, cleaned⟩ := Url.clean_append (trimSlashes o.url.toList)
  exact ⟨m, fun path chars => by rw [toList_address path, cleaned _ chars]⟩

theorem extends_of_alike {w : Url} {q : List Char} (known : Extends u p v) (path : p.toList = '/' :: q)
    (spelled : v.path.render.toList = d ++ '/' :: q) {p' : String} (alike : Url.Alike v w)
    (path' : w.path.render.toList = d ++ p'.toList) : Extends u p' w := by
  have base : trimSlashes u.path.render.toList = d := by
    have whole := congrArg String.toList known.path
    rw [spelled, String.toList_append, String.toList_ofList, path] at whole
    exact (List.append_cancel_right whole).symm
  refine ⟨alike.scheme.trans known.scheme, alike.host.trans known.host,
    alike.tcpPort.trans known.tcpPort, ?_⟩
  rw [← String.toList_inj, path', base, String.toList_append, String.toList_ofList]

theorem extends_of_slash (web : OfWeb u.scheme) (found : Url.parse (o.address "/") = .ok v)
    (extended : Extends u "/" v) (query : v.query = none) (fragment : v.fragment = none)
    (plain : IsPlainPath p) : ∃ w, Url.parse (o.address p) = .ok w ∧ Extends u p w := by
  obtain ⟨m, read⟩ := o.clean_address
  have slash : ("/" : String).toList = '/' :: [] := rfl
  obtain ⟨r, started⟩ := Url.open_of_slashes (read slash (by simp)) (by simp) found
    (extended.scheme.symm ▸ web) query fragment
  obtain ⟨d, spelled, each⟩ := Url.continued started (read slash (by simp)) (by simp) found
  obtain ⟨q, path, chars⟩ := exists_of_isPlainPath plain
  obtain ⟨w, parsed, alike, path'⟩ := each _ q (read path chars) chars
  exact ⟨w, parsed, extends_of_alike extended slash spelled alike (path ▸ path')⟩

theorem slash_of_extends (web : OfWeb u.scheme)
    (every : ∀ p, IsPlainPath p → ∃ v, Url.parse (o.address p) = .ok v ∧ Extends u p v) :
    ∃ v, Url.parse (o.address "/") = .ok v ∧ Extends u "/" v ∧ v.query = none ∧ v.fragment = none := by
  obtain ⟨m, read⟩ := o.clean_address
  have letter (c : Char) : (String.ofList ['/', c]).toList = '/' :: [c] := String.toList_ofList
  have a : ∀ c ∈ ['a'], Text.isPathChar c = true := List.forall_mem_singleton.mpr rfl
  have b : ∀ c ∈ ['b'], Text.isPathChar c = true := List.forall_mem_singleton.mpr rfl
  obtain ⟨v, found, extended⟩ := every _ (isPlainPath_letter (c := 'a') rfl)
  obtain ⟨v', found', extended'⟩ := every _ (isPlainPath_letter (c := 'b') rfl)
  have proper : v.path.render ≠ "/" := by
    intro root
    have lengths := congrArg (List.length ∘ String.toList) (root ▸ extended.path)
    simp at lengths
  have apart : v.path ≠ v'.path := by
    intro same
    have ends := extended.path.symm.trans ((congrArg UrlPath.render same).trans extended'.path)
    rw [← String.toList_inj] at ends
    simp at ends
  obtain ⟨r, started⟩ := Url.open_of_letters (read (letter 'a') a) (read (letter 'b') b) found found'
    (extended.scheme.symm ▸ web) proper apart
  obtain ⟨d, spelled, each⟩ := Url.continued started (read (letter 'a') a) a found
  obtain ⟨w, parsed, alike, path⟩ := each (o.address "/") [] (read rfl (by simp)) (by simp)
  have slash : Extends u "/" w := extends_of_alike extended (letter 'a') spelled alike path
  exact ⟨w, parsed, slash, alike.query, alike.fragment⟩

theorem extends_of_tidy (parsed : Url.parse o.url = .ok u) (web : OfWeb u.scheme)
    (tidy : Tidy (trimSlashes o.url.toList)) (query : u.query = none) (fragment : u.fragment = none)
    (plain : IsPlainPath p) : ∃ v, Url.parse (o.address p) = .ok v ∧ Extends u p v := by
  obtain ⟨t, whole, slashes, unslashed⟩ := trimSlashes_spec o.url.toList
  obtain ⟨d, t, base, slashes, bare, each⟩ :=
    Url.continued_of_tidy tidy unslashed whole slashes parsed web query fragment
  obtain ⟨q, path, chars⟩ := exists_of_isPlainPath plain
  obtain ⟨v, found, alike, path'⟩ := each (o.address p) q (toList_address path) chars
  refine ⟨v, found, alike.scheme, alike.host, alike.tcpPort, ?_⟩
  rw [← String.toList_inj, path', base, trimSlashes_append slashes bare, String.toList_append,
    String.toList_ofList, path]

end Origin

namespace Settings

open Origin (Extends)

/-- The address of an origin in checked settings is the base of a URL for every path of words, if it is
one for the path `/` and has neither a query nor a fragment there, and otherwise it is not one for all
of them. It is one if its text is tidy and has neither a query nor a fragment. -/
theorem base_by_slash {s : Settings} (checked : s.check = .ok ()) {name : String} {o : Origin}
    (named : s.origins.get? name = some o) :
    ∃ u, Url.parse o.url = .ok u ∧ (u.scheme = "http" ∨ u.scheme = "https") ∧
    ((∀ p, IsPlainPath p → ∃ v, Url.parse (o.address p) = .ok v ∧ Extends u p v) ↔
      ∃ v, Url.parse (o.address "/") = .ok v ∧ Extends u "/" v ∧ v.query = none ∧ v.fragment = none) ∧
    (Url.Tidy (Origin.trimSlashes o.url.toList) → u.query = none → u.fragment = none →
      ∀ p, IsPlainPath p → ∃ v, Url.parse (o.address p) = .ok v ∧ Extends u p v) := by
  obtain ⟨u, parsed, web⟩ := checked_origin checked named
  refine ⟨u, parsed, web, ⟨Origin.slash_of_extends web, ?_⟩, ?_⟩
  · rintro ⟨v, found, extended, query, fragment⟩ p plain
    exact Origin.extends_of_slash web found extended query fragment plain
  · intro tidy query fragment p plain
    exact Origin.extends_of_tidy parsed web tidy query fragment plain

def based : Settings where
  origins := (Assoc.empty.set "a.com" { url := "http://127.0.0.1:1/base//" }).set "b.com"
    { url := "http://127.0.0.1:1 " }

/-- The first is a base for every path of words, and the second is not. -/
theorem base_by_slash_of_two :
    based.check = .ok () ∧
    (∀ p, IsPlainPath p → ∃ v,
      Url.parse (Origin.address { url := "http://127.0.0.1:1/base//" } p) = .ok v ∧
      v.scheme = "http" ∧ v.host = some (.ipv4 2130706433) ∧ v.tcpPort = some 1 ∧
      v.path.render = "/base" ++ p) ∧
    ¬ ∀ p, IsPlainPath p → ∃ v,
      Url.parse (Origin.address { url := "http://127.0.0.1:1 " } p) = .ok v ∧
      Extends { scheme := "http", host := some (.ipv4 2130706433), tcpPort := some 1,
                path := .segments [""] } p v := by
  have checked : based.check = .ok () := rfl
  have named : based.origins.get? "a.com" = some { url := "http://127.0.0.1:1/base//" } := rfl
  have named' : based.origins.get? "b.com" = some { url := "http://127.0.0.1:1 " } := rfl
  obtain ⟨u, parsed, -, first, -⟩ := base_by_slash checked named
  obtain ⟨u', parsed', -, second, -⟩ := base_by_slash checked named'
  let home : Url :=
    { scheme := "http", host := some (.ipv4 2130706433), tcpPort := some 1,
      path := .segments ["base", "", ""] }
  have read : Url.parse "http://127.0.0.1:1/base//" = .ok home := by decide +kernel
  have read' : Url.parse "http://127.0.0.1:1 " = .ok { home with path := .segments [""] } := by
    decide +kernel
  obtain rfl : home = u := Except.ok.inj (read.symm.trans parsed)
  obtain rfl : { home with path := .segments [""] } = u' := Except.ok.inj (read'.symm.trans parsed')
  have slash : Url.parse (Origin.address { url := "http://127.0.0.1:1/base//" } "/") =
      .ok { home with path := .segments ["base", ""] } := by decide +kernel
  refine ⟨checked, fun p plain => ?_, fun every => ?_⟩
  · obtain ⟨v, found, extended⟩ := first.mpr ⟨_, slash, ⟨rfl, rfl, rfl, by decide⟩, rfl, rfl⟩ p plain
    have base : String.ofList (Origin.trimSlashes home.path.render.toList) = "/base" := by decide
    exact ⟨v, found, extended.scheme, extended.host, extended.tcpPort, base ▸ extended.path⟩
  · obtain ⟨v, found, -⟩ := second.mp every
    have fails :
        (Url.parse (Origin.address { url := "http://127.0.0.1:1 " } "/")).toOption = none := by
      decide +kernel
    rw [found] at fails
    cases fails

/-- Checked settings with an origin whose address is no base for a path of one letter. -/
theorem no_base :
    based.check = .ok () ∧ based.origins.get? "b.com" = some { url := "http://127.0.0.1:1 " } ∧
    IsPlainPath "/a" ∧ ∀ v, Url.parse (Origin.address { url := "http://127.0.0.1:1 " } "/a") ≠ .ok v := by
  refine ⟨rfl, rfl, Origin.isPlainPath_letter (c := 'a') rfl, ?_⟩
  have fails : (Url.parse (Origin.address { url := "http://127.0.0.1:1 " } "/a")).toOption = none := by
    decide +kernel
  intro v found
  rw [found] at fails
  cases fails

end Settings
end CachingProxy
