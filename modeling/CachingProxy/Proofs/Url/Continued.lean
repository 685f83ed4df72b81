import Mathlib.Data.List.TakeDrop
import Mathlib.Data.List.TakeWhile
import CachingProxy.Proofs.Url.Path
import CachingProxy.Url.Basic

namespace CachingProxy.Url

open UrlPath (isSlash)
open Text (isPathChar)

variable {l m r t q : List Char} {s scheme : String} {u v : Url}

theorem all_ne {c : Char} (absent : c ∉ l) : ∀ d ∈ l, decide (d ≠ c) = true := by
  intro d mem
  refine decide_eq_true ?_
  rintro rfl
  exact absent mem

theorem takeWhile_ne {c : Char} (absent : c ∉ l) : l.takeWhile (· ≠ c) = l :=
  List.takeWhile_eq_self_iff.mpr (all_ne absent)

theorem dropWhile_ne {c : Char} (absent : c ∉ l) : l.dropWhile (· ≠ c) = [] :=
  List.dropWhile_eq_nil_iff.mpr (all_ne absent)

def isVisible (c : Char) : Bool := 0x20 < c.toNat

theorem isVisible_of_isPathChar (plain : ∀ c ∈ q, isPathChar c = true) :
    ∀ c ∈ '/' :: q, isVisible c = true := by
  refine List.forall_mem_cons.mpr ⟨rfl, fun c mem => decide_eq_true ?_⟩
  exact Nat.lt_of_lt_of_le (by decide) (Text.isPathChar_range (plain c mem)).1

theorem dropWhile_visible (visible : ∀ c ∈ l, isVisible c = true) :
    l.dropWhile (fun c => decide (c.toNat ≤ 0x20)) = l := by
  rw [List.dropWhile_eq_self_iff]
  intro some
  simpa [isVisible] using visible _ (List.getElem_mem some)

theorem filter_visible (visible : ∀ c ∈ l, isVisible c = true) :
    l.filter (fun c => !(c == '\t' || c == '\n' || c == '\r')) = l := by
  rw [List.filter_eq_self]
  intro c mem
  have apart (d : Char) (blank : isVisible d = false) : c ≠ d := by
    rintro rfl
    rw [visible c mem] at blank
    cases blank
  simp [apart '\t' rfl, apart '\n' rfl, apart '\r' rfl]

theorem clean_visible (visible : ∀ c ∈ l, isVisible c = true) : clean l = l := by
  have backwards : ∀ c ∈ l.reverse, isVisible c = true := fun c mem =>
    visible c (List.mem_reverse.mp mem)
  rw [clean, dropWhile_visible visible, dropWhile_visible backwards, List.reverse_reverse,
    filter_visible visible]

theorem clean_append (l : List Char) : ∃ m, ∀ q, (∀ c ∈ q, isPathChar c = true) →
    clean (l ++ '/' :: q) = m ++ '/' :: q := by
  refine ⟨(l.dropWhile fun c => decide (c.toNat ≤ 0x20)).filter
    fun c => !(c == '\t' || c == '\n' || c == '\r'), fun q plain => ?_⟩
  have visible := isVisible_of_isPathChar plain
  have left : (l ++ '/' :: q).dropWhile (fun c => decide (c.toNat ≤ 0x20)) =
      l.dropWhile (fun c => decide (c.toNat ≤ 0x20)) ++ '/' :: q :=
    Text.dropWhile_append_stop (by rintro c ⟨⟩; rfl)
  have right (k : List Char) :
      ((k ++ '/' :: q).reverse.dropWhile fun c => decide (c.toNat ≤ 0x20)).reverse =
        k ++ '/' :: q := by
    have backwards := dropWhile_visible fun c mem => visible c (List.mem_reverse.mp mem)
    have some : ('/' :: q).reverse ≠ [] := by simp
    rw [List.reverse_append, Text.dropWhile_append_rest (backwards.symm ▸ some), backwards,
      ← List.reverse_append, List.reverse_reverse]
  rw [clean, left, right, List.filter_append, filter_visible visible]

def isSchemeChar (c : Char) : Bool :=
  Text.isAlpha c || Text.isDigit c || c == '+' || c == '-' || c == '.'

theorem cutScheme?_append (slash : ∀ c ∈ t.head?, c = '/') :
    cutScheme? (m ++ t) = (cutScheme? m).map fun x => (x.1, x.2 ++ t) := by
  have stop : ∀ c ∈ t.head?, isSchemeChar c = false := by
    intro c first
    rw [slash c first]
    rfl
  have name : (m ++ t).takeWhile isSchemeChar = m.takeWhile isSchemeChar :=
    Text.takeWhile_append_stop stop
  have rest : (m ++ t).dropWhile isSchemeChar = m.dropWhile isSchemeChar ++ t :=
    Text.dropWhile_append_stop stop
  unfold isSchemeChar at name rest
  simp only [cutScheme?, name, rest]
  generalize m.dropWhile _ = r
  cases r with
  | nil =>
    cases t with
    | nil => rfl
    | cons c t =>
      rw [slash c rfl]
      rfl
  | cons c r =>
    by_cases colon : c = ':'
    · subst colon
      simp only [List.cons_append, apply_ite (Option.map _), Option.map_some, Option.map_none]
    · simp [colon]

def OfWeb (scheme : String) : Prop := scheme = "http" ∨ scheme = "https"

theorem isSpecial_of_web (web : OfWeb scheme) : isSpecial scheme = true := by
  obtain rfl | rfl := web <;> decide

theorem readHierarchy_of_web (web : OfWeb scheme) (more : Bool) (l : List Char) :
    readHierarchy scheme more l = (readAuthority scheme false (l.takeWhile (!isSlash true ·))).map
      fun x => (x.1, UrlPath.read true (x.2 ++ l.dropWhile (!isSlash true ·))) := by
  have special := isSpecial_of_web web
  have same (more : Bool) (l : List Char) :
      readAuthority scheme more l = readAuthority scheme false l := by
    simp [readAuthority, special]
  rw [readHierarchy, special, same]
  generalize readAuthority scheme false _ = read
  cases read <;> rfl

theorem readMain_of_web (web : OfWeb scheme) (more : Bool) (l : List Char) :
    readMain scheme more l =
      (readHierarchy scheme false (l.dropWhile (isSlash true))).map fun x => (some x.1, x.2) := by
  have other : scheme ≠ "file" := by obtain rfl | rfl := web <;> decide
  simp only [readMain, if_neg other, if_pos (isSpecial_of_web web), readHierarchy_of_web web]

def beforeMarks (l : List Char) : List Char := (l.takeWhile (· ≠ '#')).takeWhile (· ≠ '?')

theorem parse_of_cut (cut : cutScheme? (clean s.toList) = some (scheme, l)) (web : OfWeb scheme) :
    parse s = (readHierarchy scheme false ((beforeMarks l).dropWhile (isSlash true))).map fun x =>
      assemble scheme (some x.1) x.2 ((l.takeWhile (· ≠ '#')).dropWhile (· ≠ '?'))
        (l.dropWhile (· ≠ '#')) := by
  simp only [parse, cut, readMain_of_web web, List.span_eq_takeWhile_dropWhile, beforeMarks]
  generalize readHierarchy scheme false _ = read
  cases read <;> rfl

theorem cut_of_parse (parsed : parse s = .ok v) :
    ∃ l, cutScheme? (clean s.toList) = some (v.scheme, l) := by
  cases cut : cutScheme? (clean s.toList) with
  | none => simp [parse, cut] at parsed
  | some x =>
    obtain ⟨scheme, l⟩ := x
    simp only [parse, cut] at parsed
    generalize readMain scheme _ _ = read at parsed
    cases read with
    | error e => cases parsed
    | ok x =>
      cases parsed
      exact ⟨l, rfl⟩

@[simp]
theorem assemble_path (a : Option Authority) (path : UrlPath) (query fragment : List Char) :
    (assemble scheme a path query fragment).path = path := rfl

/-- A text with an authority in it that has come to its end, or whose end is where a slash follows. -/
structure Open (m : List Char) (scheme : String) (r : List Char) : Prop where
  cut : cutScheme? m = some (scheme, r)
  web : OfWeb scheme
  query : '?' ∉ r
  fragment : '#' ∉ r
  authority : r.dropWhile (isSlash true) ≠ []

theorem unmarked_of_isPathChar (plain : ∀ c ∈ q, isPathChar c = true) {d : Char}
    (mark : isPathChar d = false) : d ∉ '/' :: q := by
  have all : ∀ c ∈ '/' :: q, isPathChar c = true := List.forall_mem_cons.mpr ⟨rfl, plain⟩
  exact fun mem => Text.ne_of_isPathChar (all d mem) mark rfl

theorem parse_of_open (started : Open m scheme r) (read : clean s.toList = m ++ t)
    (slash : ∀ c ∈ t.head?, c = '/') (query : '?' ∉ t) (fragment : '#' ∉ t) :
    let l := r.dropWhile (isSlash true)
    parse s = (readAuthority scheme false (l.takeWhile (!isSlash true ·))).map fun x =>
      assemble scheme (some x.1) (UrlPath.read true (x.2 ++ l.dropWhile (!isSlash true ·) ++ t)) []
        [] := by
  intro l
  have cut : cutScheme? (clean s.toList) = some (scheme, r ++ t) := by
    rw [read, cutScheme?_append slash, started.cut]
    rfl
  have noFragment : '#' ∉ r ++ t := by simp [started.fragment, fragment]
  have noQuery : '?' ∉ r ++ t := by simp [started.query, query]
  have stop : ∀ c ∈ t.head?, (!isSlash true c) = false := by
    intro c first
    rw [slash c first]
    rfl
  rw [parse_of_cut cut started.web, beforeMarks, takeWhile_ne noFragment, takeWhile_ne noQuery,
    dropWhile_ne noFragment, dropWhile_ne noQuery, Text.dropWhile_append_rest started.authority,
    readHierarchy_of_web started.web, Text.takeWhile_append_stop stop, Text.dropWhile_append_stop stop]
  generalize readAuthority scheme false _ = read
  cases read with
  | error e => rfl
  | ok x => simp only [Except.map, List.append_assoc, l]

/-- The URLs of one text with different ends differ in their paths, and these in their ends. -/
structure Alike (u v : Url) : Prop where
  scheme : v.scheme = u.scheme
  host : v.host = u.host
  tcpPort : v.tcpPort = u.tcpPort
  query : v.query = none
  fragment : v.fragment = none

/-- If one end that begins with a slash makes a URL, then so does every path. -/
theorem continued (started : Open m scheme r) (read : clean s.toList = m ++ '/' :: q)
    (plain : ∀ c ∈ q, isPathChar c = true) (parsed : parse s = .ok u) :
    ∃ d, u.path.render.toList = d ++ '/' :: q ∧
      ∀ s q, clean s.toList = m ++ '/' :: q → (∀ c ∈ q, isPathChar c = true) →
        ∃ v, parse s = .ok v ∧ Alike u v ∧ v.path.render.toList = d ++ '/' :: q := by
  have each (s : String) (q : List Char) (read : clean s.toList = m ++ '/' :: q)
      (plain : ∀ c ∈ q, isPathChar c = true) :=
    parse_of_open started read (by rintro c ⟨⟩; rfl)
      (unmarked_of_isPathChar plain rfl) (unmarked_of_isPathChar plain rfl)
  dsimp only at each
  have first := each s q read plain
  cases authority : readAuthority scheme false
      ((r.dropWhile (isSlash true)).takeWhile (!isSlash true ·)) with
  | error e =>
    rw [authority, parsed] at first
    cases first
  | ok x =>
    obtain ⟨d, paths⟩ := UrlPath.render_read_append true
      (x.2 ++ (r.dropWhile (isSlash true)).dropWhile (!isSlash true ·))
    rw [authority, parsed] at first
    cases first
    refine ⟨d, ?_, fun s q read plain => ⟨_, by rw [each s q read plain, authority]; rfl, ?_, ?_⟩⟩
    · rw [assemble_path, paths q plain]
    · exact ⟨rfl, rfl, rfl, rfl, rfl⟩
    · rw [assemble_path, paths q plain]

theorem readAuthority_nil (web : OfWeb scheme) (more : Bool) :
    readAuthority scheme more [] = .error .emptyHost := by
  obtain rfl | rfl := web <;> rfl

theorem authority_of_parse (cut : cutScheme? (clean s.toList) = some (scheme, l)) (web : OfWeb scheme)
    (parsed : parse s = .ok v) : (beforeMarks l).dropWhile (isSlash true) ≠ [] := by
  intro none
  rw [parse_of_cut cut web, none, readHierarchy_of_web web, List.takeWhile_nil,
    readAuthority_nil web] at parsed
  cases parsed

theorem unmarked_of_parse (cut : cutScheme? (clean s.toList) = some (scheme, l)) (web : OfWeb scheme)
    (parsed : parse s = .ok v) (query : v.query = none) (fragment : v.fragment = none) :
    '?' ∉ l ∧ '#' ∉ l := by
  rw [parse_of_cut cut web] at parsed
  generalize readHierarchy scheme false _ = read at parsed
  cases read with
  | error e => cases parsed
  | ok x =>
    cases parsed
    have noFragment : l.dropWhile (· ≠ '#') = [] := by
      simp only [assemble] at fragment
      split at fragment
      · next none => exact none
      · cases fragment
    have noQuery : (l.takeWhile (· ≠ '#')).dropWhile (· ≠ '?') = [] := by
      simp only [assemble] at query
      split at query
      · next none => exact none
      · cases query
    rw [List.dropWhile_eq_nil_iff] at noFragment
    rw [List.takeWhile_eq_self_iff.mpr noFragment, List.dropWhile_eq_nil_iff] at noQuery
    exact ⟨fun mem => by simpa using noQuery _ mem, fun mem => by simpa using noFragment _ mem⟩

theorem cut_of_append (slash : ∀ c ∈ t.head?, c = '/') (cut : cutScheme? (m ++ t) = some (scheme, l)) :
    ∃ r, cutScheme? m = some (scheme, r) ∧ l = r ++ t := by
  rw [cutScheme?_append slash, Option.map_eq_some_iff] at cut
  obtain ⟨x, cut, same⟩ := cut
  cases same
  exact ⟨x.2, cut, rfl⟩

theorem open_of_slashes (read : clean s.toList = m ++ t) (slashes : ∀ c ∈ t, c = '/')
    (parsed : parse s = .ok v) (web : OfWeb v.scheme) (query : v.query = none)
    (fragment : v.fragment = none) : ∃ r, Open m v.scheme r := by
  obtain ⟨l, cut⟩ := cut_of_parse parsed
  obtain ⟨noQuery, noFragment⟩ := unmarked_of_parse cut web parsed query fragment
  have authority := authority_of_parse cut web parsed
  rw [read] at cut
  obtain ⟨r, start, rfl⟩ := cut_of_append (fun c first => slashes c (List.mem_of_mem_head? first)) cut
  refine ⟨r, start, web, fun mem => noQuery (List.mem_append_left t mem),
    fun mem => noFragment (List.mem_append_left t mem), fun none => authority ?_⟩
  have all : ∀ c ∈ r ++ t, isSlash true c = true := by
    intro c mem
    obtain mem | mem := List.mem_append.mp mem
    · exact List.dropWhile_eq_nil_iff.mp none c mem
    · rw [slashes c mem]
      rfl
  rw [List.dropWhile_eq_nil_iff]
  exact fun c mem => all c ((List.takeWhile_prefix _).mem ((List.takeWhile_prefix _).mem mem))

theorem takeWhile_append_of_mem {p : Char → Bool} {c : Char} (mem : c ∈ r) (stops : p c = false) :
    (r ++ t).takeWhile p = r.takeWhile p := by
  rw [List.takeWhile_append, if_neg]
  intro whole
  have all := List.takeWhile_eq_self_iff.mp ((List.takeWhile_prefix p).eq_of_length whole) c mem
  rw [stops] at all
  cases all

theorem beforeMarks_append (marked : '?' ∈ r ∨ '#' ∈ r) : beforeMarks (r ++ t) = beforeMarks r := by
  by_cases fragment : '#' ∈ r
  · rw [beforeMarks, takeWhile_append_of_mem fragment (by decide), beforeMarks]
  · rw [beforeMarks, List.takeWhile_append_of_pos (all_ne fragment),
      takeWhile_append_of_mem (marked.resolve_right fragment) (by decide), beforeMarks,
      takeWhile_ne fragment]

theorem path_of_letter (web : OfWeb scheme) {x : Authority × UrlPath}
    (read : readHierarchy scheme false ['a'] = .ok x) : x.2.render = "/" := by
  have root : ∀ scheme ∈ ["http", "https"], (readHierarchy scheme false ['a']).toOption.map Prod.snd =
      some (.segments [""]) := by decide +kernel
  have found := root scheme (by obtain rfl | rfl := web <;> decide)
  rw [read] at found
  rw [Option.some.inj found]
  rfl

theorem open_of_letters {s' : String} (read : clean s.toList = m ++ ['/', 'a'])
    (read' : clean s'.toList = m ++ ['/', 'b']) (parsed : parse s = .ok u) (parsed' : parse s' = .ok v)
    (web : OfWeb u.scheme) (proper : u.path.render ≠ "/") (apart : u.path ≠ v.path) :
    ∃ r, Open m u.scheme r := by
  obtain ⟨l, cut⟩ := cut_of_parse parsed
  have slash (c : Char) : ∀ d ∈ ['/', c].head?, d = '/' := by
    rintro d ⟨⟩
    rfl
  obtain ⟨r, start, rfl⟩ := cut_of_append (slash 'a') (read ▸ cut)
  have cut' : cutScheme? (clean s'.toList) = some (u.scheme, r ++ ['/', 'b']) := by
    rw [read', cutScheme?_append (slash 'b'), start]
    rfl
  rw [parse_of_cut cut web] at parsed
  rw [parse_of_cut cut' web] at parsed'
  have unmarked : ¬ ('?' ∈ r ∨ '#' ∈ r) := by
    intro marked
    rw [beforeMarks_append marked] at parsed parsed'
    generalize readHierarchy u.scheme false _ = x at parsed parsed'
    cases x with
    | error e => cases parsed
    | ok x =>
      cases parsed'
      have same := congrArg Url.path (Except.ok.inj parsed)
      exact apart same.symm
  refine ⟨r, start, web, fun mem => unmarked (.inl mem), fun mem => unmarked (.inr mem), fun none => ?_⟩
  have whole : beforeMarks (r ++ ['/', 'a']) = r ++ ['/', 'a'] := by
    have noQuery : '?' ∉ r ++ ['/', 'a'] := by simpa using mt .inl unmarked
    have noFragment : '#' ∉ r ++ ['/', 'a'] := by simpa using mt .inr unmarked
    rw [beforeMarks, takeWhile_ne noFragment, takeWhile_ne noQuery]
  have host : (r ++ ['/', 'a']).dropWhile (isSlash true) = ['a'] := by
    rw [List.dropWhile_append, none]
    rfl
  rw [whole, host] at parsed
  cases hierarchy : readHierarchy u.scheme false ['a'] with
  | error e =>
    rw [hierarchy] at parsed
    cases parsed
  | ok x =>
    rw [hierarchy] at parsed
    have same := congrArg Url.path (Except.ok.inj parsed)
    rw [assemble_path] at same
    exact proper (same ▸ path_of_letter web hierarchy)

end CachingProxy.Url
