import Mathlib.Data.List.Basic
import Mathlib.Data.List.TakeWhile
import CachingProxy.Http.Message

namespace CachingProxy

namespace Text

variable {sep : Char} {l p w left core right : List Char}

/-- `p` stands between two separators of `l`, or between one and an end of `l`, and holds none. -/
def IsPiece (sep : Char) (p l : List Char) : Prop :=
  ∃ front back, l = front ++ p ++ back ∧ sep ∉ p ∧
    (front = [] ∨ front.getLast? = some sep) ∧ (back = [] ∨ back.head? = some sep)

/-- `p` is the word in some letter case, with nothing but spaces and TABs around it. -/
def Spells (p w : List Char) : Prop :=
  ∃ left core right, p = left ++ core ++ right ∧
    (∀ c ∈ left ++ right, c = ' ' ∨ c = '\t') ∧ lower core = lower w

theorem split_cons_self (sep : Char) (l : List Char) : split sep (sep :: l) = [] :: split sep l := by
  obtain ⟨p, ps, parts⟩ := List.exists_cons_of_ne_nil (split_ne_nil sep l)
  rw [split, parts]
  exact if_pos rfl

theorem split_cons_ne {c : Char} (other : c ≠ sep) {ps : List (List Char)}
    (parts : split sep l = p :: ps) : split sep (c :: l) = (c :: p) :: ps := by
  rw [split, parts]
  exact if_neg other

theorem split_of_notMem (none : sep ∉ l) : split sep l = [l] := by
  induction l with
  | nil => rfl
  | cons c l ih =>
    rw [List.mem_cons, not_or] at none
    exact split_cons_ne (Ne.symm none.1) (ih none.2)

theorem split_append (sep : Char) (l r : List Char) :
    split sep (l ++ sep :: r) = split sep l ++ split sep r := by
  induction l with
  | nil => exact split_cons_self sep r
  | cons c l ih =>
    obtain ⟨p, ps, parts⟩ := List.exists_cons_of_ne_nil (split_ne_nil sep l)
    rw [parts, List.cons_append] at ih
    by_cases here : c = sep
    · subst here
      rw [List.cons_append, split_cons_self, split_cons_self, ih, parts]
      rfl
    · rw [List.cons_append, split_cons_ne here ih, split_cons_ne here parts]
      rfl

theorem isPiece_of_mem_split (mem : p ∈ split sep l) : IsPiece sep p l := by
  induction size : l.length using Nat.strong_induction_on generalizing l with
  | _ n shorter =>
    by_cases inside : sep ∈ l
    · obtain ⟨first, rest, rfl, none⟩ := List.eq_append_cons_of_mem inside
      rw [split_append, split_of_notMem none, List.singleton_append, List.mem_cons] at mem
      obtain rfl | mem := mem
      · exact ⟨[], sep :: rest, rfl, none, .inl rfl, .inr rfl⟩
      · have less : rest.length < n := by
          rw [← size, List.length_append, List.length_cons]
          omega
        obtain ⟨front, back, rfl, without, before, after⟩ := shorter _ less mem rfl
        refine ⟨first ++ sep :: front, back, by simp, without, .inr ?_, after⟩
        obtain rfl | last := before
        · exact List.getLast?_concat
        · rw [List.getLast?_append, List.getLast?_cons, last]
          rfl
    · rw [split_of_notMem inside, List.mem_singleton] at mem
      subst mem
      exact ⟨[], [], (List.append_nil p).symm, inside, .inl rfl, .inl rfl⟩

theorem mem_split_iff : p ∈ split sep l ↔ IsPiece sep p l := by
  refine ⟨isPiece_of_mem_split, ?_⟩
  rintro ⟨front, back, rfl, without, before, after⟩
  have rest : p ∈ split sep (p ++ back) := by
    obtain rfl | next := after
    · rw [List.append_nil, split_of_notMem without]
      exact List.mem_singleton_self p
    · obtain ⟨back, rfl⟩ := List.head?_eq_some_iff.mp next
      rw [split_append, split_of_notMem without]
      exact List.mem_cons_self
  obtain rfl | last := before
  · exact rest
  · obtain ⟨front, rfl⟩ := List.getLast?_eq_some_iff.mp last
    rw [List.append_assoc, List.append_assoc, List.singleton_append, split_append]
    exact List.mem_append_right _ rest

theorem isPiece_append {r : List Char} :
    IsPiece sep p (l ++ sep :: r) ↔ IsPiece sep p l ∨ IsPiece sep p r := by
  simp only [← mem_split_iff, split_append, List.mem_append]

theorem exists_trim (l : List Char) :
    ∃ left right, l = left ++ trim l ++ right ∧ ∀ c ∈ left ++ right, isBlank c = true := by
  refine ⟨l.takeWhile isBlank, ((trimStart l).reverse.takeWhile isBlank).reverse, ?_, ?_⟩
  · rw [List.append_assoc, trim, trimEnd, ← List.reverse_append, List.takeWhile_append_dropWhile,
      List.reverse_reverse, trimStart, List.takeWhile_append_dropWhile]
  · intro c mem
    obtain mem | mem := List.mem_append.mp mem
    · exact List.mem_takeWhile_imp mem
    · exact List.mem_takeWhile_imp (List.mem_reverse.mp mem)

theorem mem_trim {c : Char} (mem : c ∈ l) (plain : isBlank c = false) : c ∈ trim l := by
  obtain ⟨left, right, whole, around⟩ := exists_trim l
  rw [whole, List.append_assoc, List.mem_append, List.mem_append] at mem
  have outside : c ∉ left ++ right := by
    intro there
    rw [around c there] at plain
    cases plain
  rw [List.mem_append, not_or] at outside
  exact (mem.resolve_left outside.1).resolve_right outside.2

theorem trim_of_blank (blank : ∀ c ∈ left ++ right, isBlank c = true)
    (plain : ∀ c ∈ core, isBlank c = false) : trim (left ++ core ++ right) = core := by
  obtain ⟨before, after⟩ := List.forall_mem_append.mp blank
  have unblank {l : List Char} (none : ∀ c ∈ l, isBlank c = false) : l.dropWhile isBlank = l := by
    cases l with
    | nil => rfl
    | cons c l => exact List.dropWhile_cons_of_neg (by simpa using none c List.mem_cons_self)
  have backwards : ∀ c ∈ core.reverse, isBlank c = false := fun c mem =>
    plain c (List.mem_reverse.mp mem)
  rw [trim, trimStart, List.append_assoc, List.dropWhile_append_of_pos before, List.dropWhile_append,
    unblank plain]
  split
  · next nothing =>
    obtain rfl := List.isEmpty_iff.mp nothing
    rw [List.dropWhile_eq_nil_iff.mpr after]
    rfl
  · rw [trimEnd, List.reverse_append, List.dropWhile_append_of_pos (by simpa using after),
      unblank backwards, List.reverse_reverse]

theorem toLower_of_isBlank {c : Char} (blank : isBlank c = true) : c.toLower = c := by
  refine dif_neg ?_
  rintro ⟨least, most⟩
  have least : 65 ≤ c.toNat := least
  have most : c.toNat ≤ 90 := most
  simp only [isBlank, Bool.or_eq_true, Bool.and_eq_true, beq_iff_eq, decide_eq_true_eq] at blank
  omega

theorem lower_trim_iff (blanks : ∀ c ∈ p, isBlank c = true → c = ' ' ∨ c = '\t')
    (plain : ∀ c ∈ w, isBlank c = false) (low : lower w = w) : lower (trim p) = w ↔ Spells p w := by
  constructor
  · intro same
    obtain ⟨left, right, whole, around⟩ := exists_trim p
    refine ⟨left, trim p, right, whole, fun c mem => blanks c ?_ (around c mem), same.trans low.symm⟩
    rw [whole]
    obtain mem | mem := List.mem_append.mp mem <;> simp [mem]
  · rintro ⟨left, core, right, rfl, around, same⟩
    rw [low] at same
    rw [trim_of_blank _ fun c mem => ?_, same]
    · intro c mem
      obtain rfl | rfl := around c mem <;> rfl
    · by_contra blank
      rw [Bool.not_eq_false] at blank
      have there : c ∈ w := by
        rw [← same, ← toLower_of_isBlank blank]
        exact List.mem_map_of_mem mem
      rw [plain c there] at blank
      cases blank

theorem mem_elements_iff {s : String}
    (blanks : ∀ c ∈ s.toList, isBlank c = true → c = ' ' ∨ c = '\t')
    (plain : ∀ c ∈ w, isBlank c = false) (low : lower w = w) :
    w ∈ elements s ↔ ∃ p, IsPiece ',' p s.toList ∧ Spells p w := by
  simp only [elements, List.mem_map, mem_split_iff]
  refine exists_congr fun p => and_congr_right fun piece => lower_trim_iff (fun c mem => ?_) plain low
  obtain ⟨front, back, whole, -⟩ := piece
  exact blanks c (by simp [whole, mem])

end Text

theorem isTokenChar_range {c : Char} (token : isTokenChar c = true) :
    0x20 < c.toNat ∧ c.toNat < 0x7F := by
  have marks : "!#$%&'*+-.^_`|~".toList.all (fun c => 0x20 < c.toNat && c.toNat < 0x7F) = true := by
    decide
  rw [isTokenChar, Bool.or_eq_true, Bool.or_eq_true] at token
  obtain (letter | digit) | mark := token
  · rw [Text.isAlpha, Bool.or_eq_true, Bool.and_eq_true, Bool.and_eq_true, decide_eq_true_eq,
      decide_eq_true_eq, decide_eq_true_eq, decide_eq_true_eq] at letter
    obtain ⟨least, most⟩ | ⟨least, most⟩ := letter
    · exact ⟨Nat.lt_of_lt_of_le (by decide) least, Nat.lt_of_le_of_lt most (by decide)⟩
    · exact ⟨Nat.lt_of_lt_of_le (by decide) least, Nat.lt_of_le_of_lt most (by decide)⟩
  · rw [Text.isDigit, Bool.and_eq_true, decide_eq_true_eq, decide_eq_true_eq] at digit
    exact ⟨Nat.lt_of_lt_of_le (by decide) digit.1, Nat.lt_of_le_of_lt digit.2 (by decide)⟩
  · simpa using List.all_eq_true.mp marks c (List.contains_iff_mem.mp mark)

namespace HeaderName

variable {n : HeaderName}

theorem isNameChar_of_mem {c : Char} (mem : c ∈ n.text.toList) :
    isTokenChar c = true ∧ c.toLower = c := by
  have legal := n.isName
  simp only [isFieldName, Bool.and_eq_true, List.all_eq_true] at legal
  simpa [isNameChar] using legal.2 c mem

theorem any_isBlank (n : HeaderName) : n.text.toList.any Text.isBlank = false := by
  rw [List.any_eq_false]
  intro c mem blank
  have range := isTokenChar_range (isNameChar_of_mem mem).1
  simp only [Text.isBlank, Bool.or_eq_true, Bool.and_eq_true, beq_iff_eq, decide_eq_true_eq] at blank
  omega

theorem lower_text (n : HeaderName) : Text.lower n.text.toList = n.text.toList :=
  (List.map_congr_left fun _ mem => (isNameChar_of_mem mem).2).trans (List.map_id _)

theorem text_ne_nil (n : HeaderName) : n.text.toList ≠ [] := by
  have legal := n.isName
  simp only [isFieldName, Bool.and_eq_true, Bool.not_eq_true', List.isEmpty_eq_false_iff] at legal
  exact legal.1.1

end HeaderName

namespace HeaderValue

/-- All of the value can be read: it consists of visible ASCII, spaces and TABs. -/
def Legible (v : HeaderValue) : Prop := v.bytes.all isVisible = true
  deriving Decidable

/-- The word is an element of the value. -/
def Lists (v : HeaderValue) (word : String) : Prop :=
  ∃ p, Text.IsPiece ',' p v.bytes.chars ∧ Text.Spells p word.toList

variable {v : HeaderValue} {s word : String}

theorem blank_of_isVisible {b : UInt8} (visible : isVisible b = true)
    (blank : Text.isBlank (Char.ofNat b.toNat) = true) :
    Char.ofNat b.toNat = ' ' ∨ Char.ofNat b.toNat = '\t' := by
  have each : ∀ n : Fin 256, isVisible (UInt8.ofNat n) = true →
      Text.isBlank (Char.ofNat n) = true → Char.ofNat n = ' ' ∨ Char.ofNat n = '\t' := by
    decide +kernel
  exact each ⟨b.toNat, b.toNat_lt⟩ (by simpa using visible) blank

theorem text?_eq_some_iff : v.text? = some s ↔ v.Legible ∧ s.toList = v.bytes.chars := by
  rw [text?]
  split
  · next legible =>
    rw [Option.some.injEq, ← String.toList_inj, String.toList_ofList]
    exact ⟨fun same => ⟨legible, same.symm⟩, fun same => same.2.symm⟩
  · next illegible => exact ⟨nofun, fun both => absurd both.1 illegible⟩

theorem mem_elements_iff_lists (reads : v.text? = some s)
    (plain : word.toList.any Text.isBlank = false)
    (low : Text.lower word.toList = word.toList) :
    word.toList ∈ Text.elements s ↔ v.Lists word := by
  obtain ⟨legible, chars⟩ := text?_eq_some_iff.mp reads
  rw [Text.mem_elements_iff _ (by simpa using plain) low, chars]
  · rfl
  · intro c mem
    rw [chars, Bytes.chars, List.mem_map] at mem
    obtain ⟨b, mem, rfl⟩ := mem
    exact blank_of_isVisible (List.all_eq_true.mp legible b mem)

end HeaderValue

namespace Headers

variable {h g : Headers} {n : HeaderName} {v : HeaderValue}

theorem mem_values_iff : v ∈ h.values n ↔ (n, v) ∈ h := by
  simp only [values, List.mem_map, List.mem_filter, decide_eq_true_eq]
  constructor
  · rintro ⟨⟨n, v⟩, ⟨mem, rfl⟩, rfl⟩
    exact mem
  · intro mem
    exact ⟨(n, v), ⟨mem, rfl⟩, rfl⟩

theorem exists_texts_iff {P : String → Prop} {Q : HeaderValue → Prop}
    (same : ∀ v s, v.text? = some s → (P s ↔ Q v)) :
    (∃ s ∈ h.texts n, P s) ↔ ∃ v ∈ h.values n, v.Legible ∧ Q v := by
  simp only [texts, List.mem_filterMap]
  constructor
  · rintro ⟨s, ⟨v, mem, reads⟩, holds⟩
    exact ⟨v, mem, (HeaderValue.text?_eq_some_iff.mp reads).1, (same v s reads).mp holds⟩
  · rintro ⟨v, mem, legible, holds⟩
    have reads : v.text? = some (String.ofList v.bytes.chars) :=
      HeaderValue.text?_eq_some_iff.mpr ⟨legible, String.toList_ofList⟩
    exact ⟨_, ⟨v, mem, reads⟩, (same v _ reads).mpr holds⟩

end Headers
end CachingProxy
