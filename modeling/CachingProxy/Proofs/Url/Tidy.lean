import CachingProxy.Proofs.Service.Naming
import CachingProxy.Proofs.Url.Continued

namespace CachingProxy.Url

open UrlPath (isSlash IsDots encodePieces pieces)
open Text (isPathChar)

variable {l m r t : List Char} {s scheme : String} {u : Url}

/-- A text without blanks, control characters and backslashes, in which no piece between slashes is a
dot or two. -/
structure Tidy (l : List Char) : Prop where
  visible : ∀ c ∈ l, isVisible c = true
  straight : '\\' ∉ l
  segments : ∀ s ∈ encodePieces (pieces true l), ¬ IsDots s

theorem cutScheme?_suffix (cut : cutScheme? l = some (scheme, r)) : r <:+ l := by
  unfold cutScheme? at cut
  dsimp only at cut
  split at cut
  · next rest =>
    split at cut
    · cases cut
      exact (List.suffix_cons ':' r).trans (rest ▸ List.dropWhile_suffix _)
    · cases cut
  · cases cut

theorem cutUser_suffix (l : List Char) : (cutUser l).2 <:+ l := by
  unfold cutUser
  dsimp only
  split
  · rw [← List.reverse_prefix, List.reverse_reverse]
    exact List.takeWhile_prefix _
  · exact List.suffix_refl l

theorem cutHost_suffix (inBrackets : Bool) (l : List Char) : (cutHost inBrackets l).2 <:+ l := by
  induction l generalizing inBrackets with
  | nil => exact List.suffix_refl []
  | cons c r ih =>
    rw [cutHost]
    split
    · exact List.suffix_refl _
    · exact (ih _).trans (List.suffix_cons c r)

theorem readPort_left {x : Option Nat × List Char} (read : readPort scheme l = .ok x) :
    x.2 = l.dropWhile (· ≠ '\\') := by
  rw [readPort, List.span_eq_takeWhile_dropWhile] at read
  dsimp only at read
  split at read
  · split at read
    · cases read
    · cases read
      rfl
  · cases read

theorem readAuthority_left {x : Authority × List Char} (straight : '\\' ∉ l)
    (read : readAuthority scheme false l = .ok x) : x.2 = [] := by
  have part : (cutHost false (cutUser l).2).2.drop 1 <:+ l :=
    (List.drop_suffix 1 _).trans ((cutHost_suffix false _).trans (cutUser_suffix l))
  have ends : ((cutHost false (cutUser l).2).2.drop 1).dropWhile (· ≠ '\\') = [] :=
    dropWhile_ne fun mem => straight (part.mem mem)
  unfold readAuthority at read
  dsimp only at read
  split at read
  · cases read
  · split at read
    all_goals
      obtain ⟨host, -, read⟩ := ok_of_bind read
      obtain ⟨y, port, read⟩ := ok_of_bind read
      split at read
      · cases read
      · cases read
        exact (readPort_left port).trans ends

theorem render_read_tidy (straight : '\\' ∉ l)
    (segments : ∀ s ∈ encodePieces (pieces true l), ¬ IsDots s) (start : ∀ c ∈ l.head?, c = '/')
    (chars : ∀ c ∈ t, isPathChar c = true) (slash : ∀ c ∈ t.head?, c = '/') (some : l ++ t ≠ []) :
    (UrlPath.read true (l ++ t)).render.toList = Percent.encode Percent.pathSet l ++ t := by
  obtain ⟨x, whole⟩ : ∃ x, l ++ t = '/' :: x := by
    cases l with
    | nil =>
      cases t with
      | nil => exact absurd rfl some
      | cons c t => exact ⟨t, by rw [slash c rfl, List.nil_append]⟩
    | cons c l => exact ⟨l ++ t, by rw [start c rfl, List.cons_append]⟩
  have plain : ∀ s ∈ encodePieces (pieces true (l ++ t)), ¬ IsDots s := by
    cases t with
    | nil => simpa using segments
    | cons c t =>
      rw [slash c rfl, UrlPath.pieces_append rfl, encodePieces, List.map_append, List.forall_mem_append]
      exact ⟨segments, UrlPath.encodePieces_of_isPathChar fun c mem =>
        chars c (List.mem_cons_of_mem _ mem)⟩
  have noBackslash : '\\' ∉ l ++ t := by
    simp only [List.mem_append, not_or]
    exact ⟨straight, fun mem => absurd (chars _ mem) (by decide)⟩
  rw [whole] at plain noBackslash ⊢
  rw [UrlPath.pieces_slash rfl, encodePieces, List.map_cons, List.forall_mem_cons] at plain
  rw [UrlPath.render_read (fun mem => noBackslash (List.mem_cons_of_mem _ mem)) plain.2]
  have encoded := congrArg (Percent.encode Percent.pathSet) whole
  rw [Percent.encode_append, Percent.encode_of_isPathChar chars] at encoded
  rw [encoded]
  rfl

theorem segments_of_suffix (part : r <:+ m) (start : ∀ c ∈ r.head?, c = '/')
    (segments : ∀ s ∈ encodePieces (pieces true m), ¬ IsDots s) :
    ∀ s ∈ encodePieces (pieces true r), ¬ IsDots s := by
  obtain ⟨before, rfl⟩ := part
  cases r with
  | nil => decide
  | cons c r =>
    rw [start c rfl, UrlPath.pieces_append rfl, encodePieces, List.map_append,
      List.forall_mem_append] at segments
    rw [start c rfl, UrlPath.pieces_slash rfl, encodePieces, List.map_cons, List.forall_mem_cons]
    exact ⟨by decide, segments.2⟩

theorem encode_ne_nil (set : List Char) {l : List Char} (some : l ≠ []) :
    Percent.encode set l ≠ [] := by
  obtain ⟨c, r, rfl⟩ := List.exists_cons_of_ne_nil some
  rw [Percent.encode, List.flatMap_cons]
  refine List.append_ne_nil_of_left_ne_nil ?_ _
  split
  · have bytes : String.utf8EncodeChar c ≠ [] := by
      rw [← List.length_pos_iff, String.length_utf8EncodeChar]
      exact Char.utf8Size_pos c
    obtain ⟨b, bs, same⟩ := List.exists_cons_of_ne_nil bytes
    rw [same]
    exact List.cons_ne_nil _ _
  · exact List.cons_ne_nil _ _

theorem getLast?_encode (set : List Char) (unslashed : l.getLast? ≠ some '/') :
    (Percent.encode set l).getLast? ≠ some '/' := by
  obtain rfl | ⟨front, c, rfl⟩ := List.eq_nil_or_concat l
  · exact unslashed
  · have other : '/' ∉ [c] := by
      rw [List.concat_eq_append, List.getLast?_concat] at unslashed
      rw [List.mem_singleton]
      exact fun same => unslashed (congrArg some same.symm)
    rw [List.concat_eq_append, Percent.encode_append,
      List.getLast?_append_of_ne_nil _ (encode_ne_nil set (List.cons_ne_nil c []))]
    exact fun last => Percent.slash_not_mem_encode other (List.mem_of_getLast? last)

theorem getLast?_of_suffix (part : r <:+ m) (unslashed : m.getLast? ≠ some '/') :
    r.getLast? ≠ some '/' := by
  obtain ⟨before, rfl⟩ := part
  cases r with
  | nil => simp
  | cons c r => rwa [List.getLast?_append_of_ne_nil _ (List.cons_ne_nil c r)] at unslashed

theorem clean_of_tidy (tidy : Tidy m) (whole : s.toList = m ++ t)
    (plain : ∀ c ∈ t, isPathChar c = true) : clean s.toList = m ++ t := by
  rw [whole]
  exact clean_visible (List.forall_mem_append.mpr ⟨tidy.visible, fun c mem =>
    isVisible_of_isPathChar plain c (List.mem_cons_of_mem _ mem)⟩)

theorem parse_of_tidy (tidy : Tidy m) (started : Open m scheme r) :
    ∃ (authority : Except UrlError Authority) (p : List Char), p <:+ m ∧ (∀ c ∈ p.head?, c = '/') ∧
      ∀ s t, s.toList = m ++ t → (∀ c ∈ t, isPathChar c = true) → (∀ c ∈ t.head?, c = '/') →
        parse s = authority.map fun a =>
          assemble scheme (some a) (UrlPath.read true (p ++ t)) [] [] := by
  have part := (List.dropWhile_suffix (isSlash true)).trans (cutScheme?_suffix started.cut)
  have each {s : String} {t : List Char} (whole : s.toList = m ++ t)
      (plain : ∀ c ∈ t, isPathChar c = true) (slash : ∀ c ∈ t.head?, c = '/') :=
    parse_of_open started (clean_of_tidy tidy whole plain) slash
      (List.not_mem_of_not_mem_cons (unmarked_of_isPathChar plain rfl))
      (List.not_mem_of_not_mem_cons (unmarked_of_isPathChar plain rfl))
  dsimp only at each
  generalize r.dropWhile (isSlash true) = l at part each
  have path := (List.dropWhile_suffix (!isSlash true ·)).trans part
  refine ⟨(readAuthority scheme false (l.takeWhile (!isSlash true ·))).map Prod.fst,
    l.dropWhile (!isSlash true ·), path, fun c first => ?_, fun s t whole plain slash => ?_⟩
  · have stops := List.head?_dropWhile_not (!isSlash true ·) l
    rw [first] at stops
    have slash : isSlash true c = true := by simpa using stops
    have other : c ≠ '\\' := by
      rintro rfl
      exact tidy.straight (path.mem (List.mem_of_mem_head? first))
    simpa [isSlash, other] using slash
  · rw [each whole plain slash]
    cases authority : readAuthority scheme false (l.takeWhile (!isSlash true ·)) with
    | error e => rfl
    | ok x =>
      have left : x.2 = [] := readAuthority_left
        (fun mem => tidy.straight (part.mem ((List.takeWhile_prefix _).mem mem))) authority
      simp only [Except.map, left, List.nil_append]

/-- A tidy text makes a URL with slashes after it or none. Then it makes one with every path after it,
and the path of this is the first without its slashes and the path. -/
theorem continued_of_tidy (tidy : Tidy m) (unslashed : m.getLast? ≠ some '/')
    (whole : s.toList = m ++ t) (slashes : ∀ c ∈ t, c = '/') (parsed : parse s = .ok u)
    (web : OfWeb u.scheme) (query : u.query = none) (fragment : u.fragment = none) :
    ∃ d t, u.path.render.toList = d ++ t ∧ (∀ c ∈ t, c = '/') ∧ d.getLast? ≠ some '/' ∧
      ∀ s q, s.toList = m ++ '/' :: q → (∀ c ∈ q, isPathChar c = true) →
        ∃ v, parse s = .ok v ∧ Alike u v ∧ v.path.render.toList = d ++ '/' :: q := by
  have plain : ∀ c ∈ t, isPathChar c = true := by
    intro c mem
    rw [slashes c mem]
    rfl
  have slash : ∀ c ∈ t.head?, c = '/' := fun c first => slashes c (List.mem_of_mem_head? first)
  obtain ⟨r, started⟩ :=
    open_of_slashes (clean_of_tidy tidy whole plain) slashes parsed web query fragment
  obtain ⟨authority, p, part, start, each⟩ := parse_of_tidy tidy started
  have straight : '\\' ∉ p := fun mem => tidy.straight (part.mem mem)
  have segments := segments_of_suffix part start tidy.segments
  have first := each s t whole plain slash
  rw [parsed] at first
  generalize u.scheme = scheme at first each
  cases authority with
  | error e => cases first
  | ok a =>
    cases first
    refine ⟨Percent.encode Percent.pathSet p, if p ++ t = [] then ['/'] else t, ?_, ?_,
      getLast?_encode _ (getLast?_of_suffix part unslashed), fun s q whole plain => ?_⟩
    · rw [assemble_path]
      split
      · next none =>
        rw [none, (List.append_eq_nil_iff.mp none).1]
        rfl
      · next some => exact render_read_tidy straight segments start plain slash some
    · split
      · simp
      · exact slashes
    · have plain : ∀ c ∈ '/' :: q, isPathChar c = true := List.forall_mem_cons.mpr ⟨rfl, plain⟩
      have slash : ∀ c ∈ ('/' :: q).head?, c = '/' := by
        rintro c ⟨⟩
        rfl
      refine ⟨_, each s ('/' :: q) whole plain slash, ⟨rfl, rfl, rfl, rfl, rfl⟩, ?_⟩
      rw [assemble_path, render_read_tidy straight segments start plain slash (by simp)]

end CachingProxy.Url
