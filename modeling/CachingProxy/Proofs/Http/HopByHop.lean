import CachingProxy.Http.HopByHop
import CachingProxy.Proofs.Http.Elements
import CachingProxy.Service.Answer

namespace CachingProxy.Headers

variable {h : Headers} {n : HeaderName}

/-- A field with this name concerns one connection only: it is one of those that always do, or some
`connection` field has its name in its list. -/
def IsHopByHop (h : Headers) (n : HeaderName) : Prop :=
  n.text ∈ ["connection", "proxy-authenticate", "proxy-authorization", "te", "trailer",
    "transfer-encoding", "upgrade", "keep-alive"] ∨
  ∃ v ∈ h.values .connection, v.Legible ∧ v.Lists n.text

theorem mem_hopByHop_iff : n ∈ HeaderName.hopByHop ↔
    n.text ∈ ["connection", "proxy-authenticate", "proxy-authorization", "te", "trailer",
      "transfer-encoding", "upgrade", "keep-alive"] := by
  have injective : Function.Injective HeaderName.text := by
    rintro ⟨s, legal⟩ ⟨t, _⟩ same
    obtain rfl : s = t := same
    rfl
  exact (List.mem_map_of_injective injective (l := HeaderName.hopByHop)).symm

theorem mem_connectionNames_iff : n.text.toList ∈ h.connectionNames ↔
    ∃ v ∈ h.values .connection, v.Legible ∧ v.Lists n.text := by
  rw [← exists_texts_iff fun v s reads =>
    HeaderValue.mem_elements_iff_lists reads n.any_isBlank n.lower_text]
  simp [connectionNames, n.text_ne_nil]

instance (h : Headers) (n : HeaderName) : Decidable (h.IsHopByHop n) :=
  decidable_of_iff (n ∈ HeaderName.hopByHop ∨ n.text.toList ∈ h.connectionNames)
    (by rw [IsHopByHop, mem_hopByHop_iff, mem_connectionNames_iff])

theorem mem_endToEnd_iff {f : HeaderName × HeaderValue} :
    f ∈ h.endToEnd ↔ f ∈ h ∧ ¬ h.IsHopByHop f.1 := by
  rw [IsHopByHop, ← mem_hopByHop_iff, ← mem_connectionNames_iff]
  simp [endToEnd]

theorem values_endToEnd_of_kept (kept : ¬ h.IsHopByHop n) : h.endToEnd.values n = h.values n := by
  rw [values, values, endToEnd, List.filter_filter]
  congr 1
  apply List.filter_congr
  intro f mem
  by_cases here : f.1 = n
  · have stays : f ∈ h.endToEnd := mem_endToEnd_iff.mpr ⟨mem, here ▸ kept⟩
    rw [(List.mem_filter.mp stays).2, Bool.and_true]
  · rw [decide_eq_false here, Bool.false_and]

theorem values_endToEnd_of_isHopByHop (dropped : h.IsHopByHop n) : h.endToEnd.values n = [] := by
  rw [List.eq_nil_iff_forall_not_mem]
  intro v mem
  exact (mem_endToEnd_iff.mp (mem_values_iff.mp mem)).2 dropped

theorem isHopByHop_connection (h : Headers) : h.IsHopByHop .connection := .inl (by decide)

theorem endToEnd_endToEnd (h : Headers) : h.endToEnd.endToEnd = h.endToEnd := by
  refine List.filter_eq_self.mpr fun f mem => ?_
  obtain ⟨-, kept⟩ := mem_endToEnd_iff.mp mem
  have stays : f ∈ h.endToEnd.endToEnd := by
    refine mem_endToEnd_iff.mpr ⟨mem, ?_⟩
    rintro (always | ⟨v, there, -⟩)
    · exact kept (.inl always)
    · rw [values_endToEnd_of_isHopByHop (isHopByHop_connection h)] at there
      cases there
  exact (List.mem_filter.mp stays).2

/-- For all fields of a message. Those that are passed on are just the ones that do not concern one
connection only. A name that stays keeps all its values, as often and in the order in which they came,
and the others keep none. Nothing is left to take away then. -/
theorem passed_on_exactly (h : Headers) :
    (∀ f, f ∈ h.endToEnd ↔ f ∈ h ∧ ¬ h.IsHopByHop f.1) ∧
    (∀ n, ¬ h.IsHopByHop n → h.endToEnd.values n = h.values n) ∧
    (∀ n, h.IsHopByHop n → h.endToEnd.values n = []) ∧
    h.endToEnd.Sublist h ∧
    h.endToEnd.endToEnd = h.endToEnd :=
  ⟨fun _ => mem_endToEnd_iff, fun _ => values_endToEnd_of_kept,
    fun _ => values_endToEnd_of_isHopByHop, List.filter_sublist, endToEnd_endToEnd h⟩

/-- A name that stands in a list with blanks around it and in other letter case. -/
theorem passed_on_exactly_of_named :
    let cookie : HeaderName := ⟨"set-cookie", by decide⟩
    let own : HeaderName := ⟨"x-own", by decide⟩
    let h : Headers := [(cookie, .ofText "a=1"), (.connection, .ofText "close,\tX-Own , "),
      (own, .ofText "1"), (.keepAlive, .ofText "timeout=5"), (cookie, .ofText "b=2")]
    h.IsHopByHop own ∧ h.endToEnd.values own = [] ∧
    ¬ h.IsHopByHop cookie ∧ h.endToEnd.values cookie = [.ofText "a=1", .ofText "b=2"] := by
  intro cookie own h
  obtain ⟨-, kept, dropped, -⟩ := passed_on_exactly h
  have gone : h.IsHopByHop own := by decide
  have stays : ¬ h.IsHopByHop cookie := by decide
  exact ⟨gone, dropped own gone, stays, (kept cookie stays).trans (by decide)⟩

end CachingProxy.Headers
