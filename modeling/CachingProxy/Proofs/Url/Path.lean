import Mathlib.Data.List.Basic
import CachingProxy.Url.Basic

namespace CachingProxy

namespace Text

section
variable {α : Type} {p : α → Bool} {l t : List α}

theorem takeWhile_append_stop (stop : ∀ c ∈ t.head?, p c = false) :
    (l ++ t).takeWhile p = l.takeWhile p := by
  induction l with
  | nil =>
    cases t with
    | nil => rfl
    | cons c r => exact List.takeWhile_cons_of_neg (by simpa using stop c rfl)
  | cons c l ih => simp only [List.cons_append, List.takeWhile_cons, ih]

theorem dropWhile_append_stop (stop : ∀ c ∈ t.head?, p c = false) :
    (l ++ t).dropWhile p = l.dropWhile p ++ t := by
  induction l with
  | nil =>
    cases t with
    | nil => rfl
    | cons c r => exact List.dropWhile_cons_of_neg (by simpa using stop c rfl)
  | cons c l ih =>
    simp only [List.cons_append, List.dropWhile_cons, ih]
    split <;> rfl

theorem dropWhile_append_rest (rest : l.dropWhile p ≠ []) :
    (l ++ t).dropWhile p = l.dropWhile p ++ t := by
  rw [List.dropWhile_append, if_neg (by simpa using rest)]

end

/-- A slash, a letter or a digit. -/
def isPathChar (c : Char) : Bool := c == '/' || isAlpha c || isDigit c

theorem isPathChar_range {c : Char} (plain : isPathChar c = true) :
    0x2F ≤ c.toNat ∧ c.toNat < 0x7F := by
  simp only [isPathChar, isAlpha, isDigit, Bool.or_eq_true, Bool.and_eq_true, beq_iff_eq,
    decide_eq_true_eq, or_assoc] at plain
  obtain rfl | ⟨least, most⟩ | ⟨least, most⟩ | ⟨least, most⟩ := plain
  · decide
  all_goals
    exact ⟨Nat.le_trans (by decide) (show _ ≤ c.toNat from least),
      Nat.lt_of_le_of_lt (show c.toNat ≤ _ from most) (by decide)⟩

theorem ne_of_isPathChar {c d : Char} (plain : isPathChar c = true) (mark : isPathChar d = false) :
    c ≠ d := by
  rintro rfl
  rw [plain] at mark
  cases mark

end Text

namespace Percent

theorem encode_of_isPathChar {l : List Char} (plain : ∀ c ∈ l, Text.isPathChar c = true) :
    encode pathSet l = l := by
  have marks : pathSet.all (fun d => !Text.isPathChar d) = true := by decide
  rw [encode]
  conv => rhs; rw [← List.flatMap_singleton' l]
  refine List.flatMap_congr fun c mem => if_neg ?_
  have range := Text.isPathChar_range (plain c mem)
  rw [Bool.or_eq_true, isControl, Bool.or_eq_true, decide_eq_true_eq, decide_eq_true_eq,
    List.contains_iff_mem]
  rintro ((low | high) | among)
  · omega
  · omega
  · have mark := List.all_eq_true.mp marks c among
    exact Text.ne_of_isPathChar (plain c mem) (by simpa using mark) rfl

theorem encode_append (set l t : List Char) : encode set (l ++ t) = encode set l ++ encode set t :=
  List.flatMap_append

theorem slash_not_mem_byte (b : UInt8) : '/' ∉ byte b := by
  have each : ∀ n : Fin 256, '/' ∉ byte (UInt8.ofNat n) := by decide +kernel
  simpa using each ⟨b.toNat, b.toNat_lt⟩

theorem slash_not_mem_encode {set l : List Char} (none : '/' ∉ l) : '/' ∉ encode set l := by
  intro mem
  obtain ⟨c, among, mem⟩ := List.mem_flatMap.mp mem
  split at mem
  · obtain ⟨b, -, mem⟩ := List.mem_flatMap.mp mem
    exact slash_not_mem_byte b mem
  · rw [List.mem_singleton.mp mem] at none
    exact none among

end Percent

namespace UrlPath

variable {special : Bool} {c : Char} {l q : List Char}

theorem pieces_ne_nil (special : Bool) (l : List Char) : pieces special l ≠ [] := by
  cases l with
  | nil => simp [pieces]
  | cons c r =>
    simp only [pieces]
    split
    · simp
    · split <;> simp

theorem pieces_slash (slash : isSlash special c = true) (l : List Char) :
    pieces special (c :: l) = [] :: pieces special l := by
  cases read : pieces special l with
  | nil => exact absurd read (pieces_ne_nil special l)
  | cons p ps => simp [pieces, read, slash]

theorem pieces_append (slash : isSlash special c = true) (l q : List Char) :
    pieces special (l ++ c :: q) = pieces special l ++ pieces special q := by
  induction l with
  | nil => exact pieces_slash slash q
  | cons d l ih =>
    cases read : pieces special l with
    | nil => exact absurd read (pieces_ne_nil special l)
    | cons p ps =>
      rw [List.cons_append, pieces, ih, pieces, read]
      dsimp only [List.cons_append]
      split <;> rfl

theorem mem_of_mem_pieces {p : List Char} (piece : p ∈ pieces special l) (mem : c ∈ p) : c ∈ l := by
  induction l generalizing p with
  | nil =>
    rw [List.mem_singleton.mp piece] at mem
    exact mem
  | cons d l ih =>
    cases read : pieces special l with
    | nil => exact absurd read (pieces_ne_nil special l)
    | cons first others =>
      rw [read] at ih
      rw [pieces, read] at piece
      dsimp only at piece
      split at piece
      · obtain rfl | among := List.mem_cons.mp piece
        · cases mem
        · exact List.mem_cons_of_mem _ (ih among mem)
      · obtain rfl | among := List.mem_cons.mp piece
        · obtain rfl | mem := List.mem_cons.mp mem
          · exact List.mem_cons_self
          · exact List.mem_cons_of_mem _ (ih List.mem_cons_self mem)
        · exact List.mem_cons_of_mem _ (ih (List.mem_cons_of_mem _ among) mem)

/-- That a segment is a dot or two, however it is written. -/
def IsDots (s : String) : Prop := s ∈ doubleDots ∨ s ∈ singleDots
  deriving Decidable

theorem resolveDots_segment {s : String} (segment : ¬ IsDots s) (done r : List String) :
    resolveDots false done (s :: r) = resolveDots false (done ++ [s]) r := by
  have placed : place false done s = done ++ [s] := by
    unfold place
    split <;> simp
  rw [resolveDots, if_neg (by simpa using mt .inl segment), if_neg (by simpa using mt .inr segment),
    placed]

theorem resolveDots_segments {r : List String} (segments : ∀ s ∈ r, ¬ IsDots s) (done : List String) :
    resolveDots false done r = done ++ r := by
  induction r generalizing done with
  | nil => rw [List.append_nil, resolveDots]
  | cons s r ih =>
    obtain ⟨first, others⟩ := List.forall_mem_cons.mp segments
    rw [resolveDots_segment first, ih others, List.append_assoc, List.singleton_append]

/-- What dots make of the segments before the last ones does not depend on the last ones. -/
theorem resolveDots_append (done ss : List String) : ∃ d : List String,
    ∀ r : List String, r ≠ [] → (∀ s ∈ r, ¬ IsDots s) → resolveDots false done (ss ++ r) = d ++ r := by
  induction ss generalizing done with
  | nil => exact ⟨done, fun r _ segments => resolveDots_segments segments done⟩
  | cons s ss ih =>
    have going {r : List String} (some : r ≠ []) : ss ++ r ≠ [] := by simp [some]
    by_cases double : doubleDots.contains s = true
    · obtain ⟨d, each⟩ := ih (dropLast done ++ [])
      refine ⟨d, fun r some segments => ?_⟩
      rw [List.cons_append, resolveDots, if_pos double, if_neg (going some), each r some segments]
    · by_cases single : singleDots.contains s = true
      · obtain ⟨d, each⟩ := ih (done ++ [])
        refine ⟨d, fun r some segments => ?_⟩
        rw [List.cons_append, resolveDots, if_neg double, if_pos single, if_neg (going some),
          each r some segments]
      · obtain ⟨d, each⟩ := ih (place false done s)
        refine ⟨d, fun r some segments => ?_⟩
        rw [List.cons_append, resolveDots, if_neg double, if_neg single, each r some segments]

theorem not_isDots_of_isPathChar {p : List Char} (plain : ∀ c ∈ p, Text.isPathChar c = true) :
    ¬ IsDots (String.ofList p) := by
  have marked : ∀ s ∈ doubleDots ++ singleDots,
      s.toList.any (fun c => !Text.isPathChar c) = true := by decide
  intro dots
  obtain ⟨c, mem, mark⟩ := List.any_eq_true.mp (marked _ (List.mem_append.mpr dots))
  rw [String.toList_ofList] at mem
  exact Text.ne_of_isPathChar (plain c mem) (by simpa using mark) rfl

theorem encodePieces_of_isPathChar (plain : ∀ c ∈ q, Text.isPathChar c = true) :
    ∀ s ∈ encodePieces (pieces special q), ¬ IsDots s := by
  intro s mem
  obtain ⟨p, piece, rfl⟩ := List.mem_map.mp mem
  have chars : ∀ c ∈ p, Text.isPathChar c = true := fun c mem => plain c (mem_of_mem_pieces piece mem)
  rw [Percent.encode_of_isPathChar chars]
  exact not_isDots_of_isPathChar chars

theorem render_cons (s : String) (r : List String) :
    (segments (s :: r)).render.toList = '/' :: (s.toList ++ (segments r).render.toList) := by
  simp [render, String.join_cons]

theorem render_append (d r : List String) :
    (segments (d ++ r)).render = (segments d).render ++ (segments r).render := by
  rw [← String.toList_inj, String.toList_append]
  induction d with
  | nil => simp [render]
  | cons s d ih =>
    rw [List.cons_append, render_cons, render_cons, ih, List.cons_append, List.append_assoc]

theorem render_pieces (straight : '\\' ∉ l) :
    (segments (encodePieces (pieces special l))).render.toList =
      '/' :: Percent.encode Percent.pathSet l := by
  induction l with
  | nil => simp [pieces, encodePieces, Percent.encode, render]
  | cons c l ih =>
    obtain ⟨here, there⟩ := not_or.mp (mt List.mem_cons.mpr straight)
    have later := ih there
    cases read : pieces special l with
    | nil => exact absurd read (pieces_ne_nil special l)
    | cons p ps =>
      rw [read, encodePieces, List.map_cons, render_cons, String.toList_ofList] at later
      rw [pieces, read]
      dsimp only
      by_cases slash : isSlash special c = true
      · have same : c = '/' := by
          rw [isSlash, Bool.or_eq_true, Bool.and_eq_true, beq_iff_eq, beq_iff_eq] at slash
          exact slash.resolve_right fun back => here back.2.symm
        rw [if_pos slash, encodePieces, List.map_cons, render_cons, List.map_cons, render_cons,
          String.toList_ofList, String.toList_ofList, later, same]
        rfl
      · rw [if_neg slash, encodePieces, List.map_cons, render_cons, String.toList_ofList]
        have whole := (List.cons.inj later).2
        have first (t : List Char) : Percent.encode Percent.pathSet (c :: t) =
            Percent.encode Percent.pathSet [c] ++ Percent.encode Percent.pathSet t :=
          Percent.encode_append _ [c] t
        rw [first p, first l, List.append_assoc, ← whole]

theorem render_read (straight : '\\' ∉ l)
    (plain : ∀ s ∈ encodePieces (pieces special l), ¬ IsDots s) :
    (read special ('/' :: l)).render.toList = '/' :: Percent.encode Percent.pathSet l := by
  have slash : isSlash special '/' = true := rfl
  rw [read, if_neg (List.cons_ne_nil _ _), dropSlash, if_pos slash, resolveDots_segments plain,
    List.nil_append, render_pieces straight]

theorem render_read_append (special : Bool) (l : List Char) : ∃ d : List Char,
    ∀ q, (∀ c ∈ q, Text.isPathChar c = true) →
      (read special (l ++ '/' :: q)).render.toList = d ++ '/' :: q := by
  obtain ⟨ss, split⟩ : ∃ ss : List String, ∀ q,
      encodePieces (pieces special (dropSlash special (l ++ '/' :: q))) =
        ss ++ encodePieces (pieces special q) := by
    have slash : isSlash special '/' = true := rfl
    have each (l q : List Char) : encodePieces (pieces special (l ++ '/' :: q)) =
        encodePieces (pieces special l) ++ encodePieces (pieces special q) := by
      rw [pieces_append slash, encodePieces, List.map_append]
      rfl
    cases l with
    | nil => exact ⟨[], fun q => by rw [List.nil_append, dropSlash, if_pos slash, List.nil_append]⟩
    | cons c l =>
      by_cases first : isSlash special c = true
      · exact ⟨_, fun q => by rw [List.cons_append, dropSlash, if_pos first, each]⟩
      · exact ⟨_, fun q => by rw [List.cons_append, dropSlash, if_neg first, ← List.cons_append, each]⟩
  obtain ⟨d, resolved⟩ := resolveDots_append [] ss
  refine ⟨(segments d).render.toList, fun q plain => ?_⟩
  have some : encodePieces (pieces special q) ≠ [] := by
    rw [encodePieces, ne_eq, List.map_eq_nil_iff]
    exact pieces_ne_nil special q
  have straight : '\\' ∉ q := fun mem => Text.ne_of_isPathChar (plain _ mem) (by decide) rfl
  rw [read, if_neg (by simp), split, resolved _ some (encodePieces_of_isPathChar plain),
    render_append, String.toList_append, render_pieces straight, Percent.encode_of_isPathChar plain]

end UrlPath
end CachingProxy
