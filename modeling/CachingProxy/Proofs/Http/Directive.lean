import CachingProxy.Http.Directive
import CachingProxy.Proofs.Http.Elements
import CachingProxy.Service.Answer

namespace CachingProxy

namespace HeaderValue

variable {u v : HeaderValue} {us : List HeaderValue} {s word : String}

def comma (v u : HeaderValue) : HeaderValue :=
  ⟨v.bytes ++ 0x2C :: u.bytes, by
    simp only [List.all_append, List.all_cons, v.isValue, u.isValue]
    decide⟩

def joined (v : HeaderValue) (us : List HeaderValue) : HeaderValue := us.foldl comma v

theorem chars_comma (v u : HeaderValue) :
    (v.comma u).bytes.chars = v.bytes.chars ++ ',' :: u.bytes.chars := by
  simp only [comma, Bytes.chars, List.map_append, List.map_cons]
  rfl

theorem lists_comma : (v.comma u).Lists word ↔ v.Lists word ∨ u.Lists word := by
  simp only [Lists, chars_comma, Text.isPiece_append, or_and_right, exists_or]

theorem legible_comma : (v.comma u).Legible ↔ v.Legible ∧ u.Legible := by
  simp only [Legible, comma, List.all_append, List.all_cons, Bool.and_eq_true]
  exact and_congr_right fun _ => and_iff_right rfl

theorem lists_joined : (v.joined us).Lists word ↔ ∃ u ∈ v :: us, u.Lists word := by
  induction us generalizing v with
  | nil => simp [joined]
  | cons u us ih =>
    rw [joined, List.foldl_cons, ← joined, ih]
    simp only [List.exists_mem_cons_iff, lists_comma, or_assoc]

theorem legible_joined : (v.joined us).Legible ↔ ∀ u ∈ v :: us, u.Legible := by
  induction us generalizing v with
  | nil => simp [joined]
  | cons u us ih =>
    rw [joined, List.foldl_cons, ← joined, ih]
    simp only [List.forall_mem_cons, legible_comma, and_assoc]

theorem comma_mem_joined (several : us ≠ []) : ',' ∈ (v.joined us).bytes.chars := by
  rw [joined, ← List.dropLast_concat_getLast several, List.foldl_concat, chars_comma]
  exact List.mem_append_right _ List.mem_cons_self

/-- A value asks for the store to be passed by if one of the two directives is in its list. -/
def Asks (v : HeaderValue) : Prop := v.Lists "no-cache" ∨ v.Lists "no-store"

theorem asks_iff (reads : v.text? = some s) :
    ((Directives.ofString s).noCache || (Directives.ofString s).noStore) = true ↔ v.Asks := by
  rw [Asks, ← mem_elements_iff_lists reads (by decide) (by decide),
    ← mem_elements_iff_lists reads (by decide) (by decide)]
  simp [Directives.ofString]

theorem pragmaForbids_iff (reads : v.text? = some s) :
    pragmaForbids s = true ↔ ',' ∉ v.bytes.chars ∧ v.Lists "no-cache" := by
  obtain ⟨-, chars⟩ := text?_eq_some_iff.mp reads
  rw [pragmaForbids, beq_iff_eq, ← chars, ← mem_elements_iff_lists reads (by decide) (by decide)]
  by_cases several : ',' ∈ s.toList
  · -- The comma stays, so that the whole is not one word.
    have there : ',' ∈ Text.lower (Text.trim s.toList) :=
      List.mem_map.mpr ⟨',', Text.mem_trim several rfl, rfl⟩
    refine ⟨fun same => ?_, fun both => absurd several both.1⟩
    rw [same] at there
    exact absurd there (by decide)
  · rw [Text.elements, Text.split_of_notMem several, List.map_singleton, List.mem_singleton]
    exact ⟨fun same => ⟨several, same.symm⟩, fun both => both.2.symm⟩

theorem asks_joined : (v.joined us).Asks ↔ ∃ u ∈ v :: us, u.Asks := by
  simp only [Asks, lists_joined, and_or_left, exists_or]

end HeaderValue

namespace Headers

variable {h g : Headers} {n m : HeaderName} {v : HeaderValue} {vs : List HeaderValue}

theorem forbidStored_iff : h.forbidStored = true ↔
    (∃ v ∈ h.values .cacheControl, v.Legible ∧ v.Asks) ∨
      ∃ v ∈ h.values .pragma, v.Legible ∧ ',' ∉ v.bytes.chars ∧ v.Lists "no-cache" := by
  rw [← exists_texts_iff fun _ _ => HeaderValue.asks_iff,
    ← exists_texts_iff fun _ _ => HeaderValue.pragmaForbids_iff]
  simp [forbidStored]

theorem forbidStored_of_subset (more : h ⊆ g) (forbids : h.forbidStored = true) :
    g.forbidStored = true := by
  rw [forbidStored_iff] at forbids ⊢
  simp only [mem_values_iff] at forbids ⊢
  obtain ⟨v, mem, asks⟩ | ⟨v, mem, asks⟩ := forbids
  · exact .inl ⟨v, more mem, asks⟩
  · exact .inr ⟨v, more mem, asks⟩

theorem values_append (h g : Headers) (n : HeaderName) :
    (h ++ g).values n = h.values n ++ g.values n := by
  rw [values, List.filter_append, List.map_append]
  rfl

theorem forbidStored_append (h g : Headers) :
    Headers.forbidStored (h ++ g) = (h.forbidStored || g.forbidStored) := by
  rw [Bool.eq_iff_iff, Bool.or_eq_true, forbidStored_iff, forbidStored_iff, forbidStored_iff]
  simp only [values_append, List.mem_append, or_and_right, exists_or]
  exact or_or_or_comm

/-- The values on lines of their own under one name. -/
def lines (n : HeaderName) (vs : List HeaderValue) : Headers := vs.map fun v => (n, v)

theorem values_lines (n m : HeaderName) (vs : List HeaderValue) :
    (lines n vs).values m = if n = m then vs else [] := by
  by_cases here : n = m <;> simp [lines, values, List.filter_map, Function.comp_def, here]

theorem forbidStored_cacheControl :
    (lines .cacheControl vs).forbidStored = true ↔ ∃ v ∈ vs, v.Legible ∧ v.Asks := by
  rw [forbidStored_iff, values_lines, values_lines, if_pos rfl, if_neg (by decide)]
  simp

theorem forbidStored_pragma : (lines .pragma vs).forbidStored = true ↔
    ∃ v ∈ vs, v.Legible ∧ ',' ∉ v.bytes.chars ∧ v.Lists "no-cache" := by
  rw [forbidStored_iff, values_lines, values_lines, if_neg (by decide), if_pos rfl]
  simp

/-- The values of the two names can be read. -/
def Legible (h : Headers) : Prop :=
  ∀ n ∈ [HeaderName.cacheControl, .pragma], ∀ v ∈ h.values n, v.Legible
  deriving Decidable

/-- For all fields whose values can be read. The store is passed by if one of the two directives is an
element of some `cache-control`, or if `no-cache` is an element of some `pragma` that has no comma in it.
The order of the fields does not matter, and more of them ask for no less. It makes no difference whether
the values of `cache-control` come on several lines or with commas on one, but those of `pragma` are not
heard at all on one line. -/
theorem forbids_by_lists (legible : h.Legible) :
    (h.forbidStored = true ↔
      (∃ v ∈ h.values .cacheControl, v.Lists "no-cache" ∨ v.Lists "no-store") ∨
        ∃ v ∈ h.values .pragma, v.Lists "no-cache" ∧ ',' ∉ v.bytes.chars) ∧
    (∀ g : Headers, g.Perm h → g.forbidStored = h.forbidStored) ∧
    (∀ g : Headers, h ⊆ g → h.forbidStored = true → g.forbidStored = true) ∧
    (∀ v vs, (∀ u ∈ v :: vs, u.Legible) →
      Headers.forbidStored (h ++ lines .cacheControl [v.joined vs]) =
        Headers.forbidStored (h ++ lines .cacheControl (v :: vs))) ∧
    ∀ (v : HeaderValue) vs, vs ≠ [] →
      Headers.forbidStored (h ++ lines .pragma [v.joined vs]) = h.forbidStored := by
  refine ⟨?_, fun g same => ?_, fun g => forbidStored_of_subset, fun v vs each => ?_,
    fun v vs several => ?_⟩
  · have control (v : HeaderValue) (mem : v ∈ h.values .cacheControl) : v.Legible :=
      legible _ (by simp) v mem
    have pragma (v : HeaderValue) (mem : v ∈ h.values .pragma) : v.Legible :=
      legible _ (by simp) v mem
    rw [forbidStored_iff]
    refine or_congr ?_ ?_
    · exact exists_congr fun v => and_congr_right fun mem => and_iff_right (control v mem)
    · refine exists_congr fun v => and_congr_right fun mem => ?_
      rw [and_iff_right (pragma v mem), and_comm]
  · rw [Bool.eq_iff_iff]
    exact ⟨forbidStored_of_subset same.subset, forbidStored_of_subset same.symm.subset⟩
  · have alike : (lines .cacheControl [v.joined vs]).forbidStored =
        (lines .cacheControl (v :: vs)).forbidStored := by
      rw [Bool.eq_iff_iff, forbidStored_cacheControl, forbidStored_cacheControl]
      simp only [List.mem_singleton, exists_eq_left, HeaderValue.legible_joined, and_iff_right each,
        HeaderValue.asks_joined]
      exact exists_congr fun u => and_congr_right fun mem => (and_iff_right (each u mem)).symm
    rw [forbidStored_append, forbidStored_append, alike]
  · have silent : (lines .pragma [v.joined vs]).forbidStored = false := by
      rw [Bool.eq_false_iff, ne_eq, forbidStored_pragma]
      rintro ⟨u, mem, -, whole, -⟩
      rw [List.mem_singleton.mp mem] at whole
      exact whole (HeaderValue.comma_mem_joined several)
    rw [forbidStored_append, silent, Bool.or_false]

/-- A directive in the middle of a list, with blanks around it and in capitals. -/
theorem forbids_by_lists_of_three :
    let h : Headers := [(.pragma, .ofText "x"), (.accept, .ofText "*/*"),
      (.cacheControl, .ofText "max-age=0,\tNo-Store ,x")]
    h.Legible ∧ h.forbidStored = true ∧ Headers.forbidStored h.reverse = true ∧
    Headers.forbidStored (h ++ [(.cacheControl, .ofText "max-age=0")]) = true := by
  intro h
  have legible : h.Legible := by decide
  obtain ⟨heard, order, more, -⟩ := forbids_by_lists legible
  have asks : HeaderValue.Lists (.ofText "max-age=0,\tNo-Store ,x") "no-store" :=
    (HeaderValue.mem_elements_iff_lists (s := "max-age=0,\tNo-Store ,x") (by decide) (by decide)
      (by decide)).mp (by decide)
  have forbids : h.forbidStored = true :=
    heard.mpr (.inl ⟨_, mem_values_iff.mpr (by simp [h]), .inr asks⟩)
  exact ⟨legible, forbids, (order h.reverse h.reverse_perm).trans forbids,
    more _ (List.subset_append_left _ _) forbids⟩

/-- A client that names `no-cache` in a list with something else is not heard, though it would be if the
two came on lines of their own. -/
theorem served_in_spite_of_pragma :
    let v : HeaderValue := .ofText "no-cache"
    let u : HeaderValue := .ofText " x"
    (lines .pragma [v.joined [u]]).Legible ∧ (v.joined [u]).Lists "no-cache" ∧
    (lines .pragma [v.joined [u]]).forbidStored = false ∧
    (lines .pragma [v, u]).forbidStored = true := by
  intro v u
  refine ⟨by decide, HeaderValue.lists_joined.mpr ⟨v, List.mem_cons_self, ?_⟩, by decide, by decide⟩
  exact (HeaderValue.mem_elements_iff_lists (s := "no-cache") (by decide) (by decide)
    (by decide)).mp (by decide)

end Headers
end CachingProxy
