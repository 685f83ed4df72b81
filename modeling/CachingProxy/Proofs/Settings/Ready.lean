import CachingProxy.Origin.Fetch
import CachingProxy.Proofs.Http.Elements
import CachingProxy.Proofs.Settings.Names
import CachingProxy.Service.Basic

namespace CachingProxy

namespace Bytes

theorem encode_ascii {c : Char} (ascii : c.toNat < 128) :
    String.utf8EncodeChar c = [UInt8.ofNat c.toNat] :=
  if_pos (Nat.le_of_lt_succ ascii)

theorem exists_beyond_ascii {c : Char} (beyond : 128 ≤ c.toNat) :
    ∃ b ∈ String.utf8EncodeChar c, 128 ≤ b.toNat := by
  have last : 128 ≤ (UInt8.ofNat (c.toNat % 64 + 128)).toNat := by
    rw [UInt8.toNat_ofNat']
    omega
  refine ⟨_, ?_, last⟩
  have large : ¬ c.val.toNat ≤ 127 := Nat.not_le.mpr beyond
  unfold String.utf8EncodeChar
  simp only [if_neg large]
  split
  · simp
  · split <;> simp

theorem ofString_ascii {s : String} (ascii : ∀ c ∈ s.toList, c.toNat < 128) :
    ofString s = s.toList.map fun c => UInt8.ofNat c.toNat := by
  rw [ofString, List.map_eq_flatMap]
  exact List.flatMap_congr fun c mem => encode_ascii (ascii c mem)

theorem chars_ofString {s : String} (ascii : ∀ c ∈ s.toList, c.toNat < 128) :
    (ofString s).chars = s.toList := by
  rw [ofString_ascii ascii, chars, List.map_map]
  conv_rhs => rw [← List.map_id s.toList]
  apply List.map_congr_left
  intro c mem
  have small : c.toNat % 256 = c.toNat := Nat.mod_eq_of_lt (Nat.lt_trans (ascii c mem) (by decide))
  rw [Function.comp_apply, UInt8.toNat_ofNat', small, Char.ofNat_toNat, id]

end Bytes

theorem ascii_of_isTokenChar {c : Char} (token : isTokenChar c = true) : c.toNat < 128 :=
  Nat.lt_trans (isTokenChar_range token).2 (by decide)

namespace HeaderName

theorem isNameChar_toLower (b : UInt8) :
    isNameChar (Char.ofNat b.toNat).toLower = isTokenChar (Char.ofNat b.toNat) := by
  have each : ∀ n : Fin 256,
      isNameChar (Char.ofNat n).toLower = isTokenChar (Char.ofNat n) := by decide +kernel
  exact each ⟨b.toNat, b.toNat_lt⟩

/-- That a text is a token and not too long for the name of a field. -/
def Accepts (s : String) : Prop :=
  s ≠ "" ∧ s.toList.length ≤ 65535 ∧ ∀ c ∈ s.toList, isTokenChar c = true

-- Only the characters of the text are tried: a search through all there are does not end in time.
instance (s : String) : Decidable (Accepts s) :=
  decidable_of_iff (s ≠ "" ∧ s.toList.length ≤ 65535 ∧ s.toList.all isTokenChar = true)
    (by rw [Accepts, List.all_eq_true])

theorem isFieldName_ofBytes (b : Bytes) :
    isFieldName (String.ofList (Text.lower b.chars)) = true ↔
      b ≠ [] ∧ b.length ≤ 65535 ∧ ∀ x ∈ b, isTokenChar (Char.ofNat x.toNat) = true := by
  simp [isFieldName, Text.lower, Bytes.chars, isNameChar_toLower, and_assoc]

theorem isFieldName_ofString (s : String) :
    isFieldName (String.ofList (Text.lower (Bytes.ofString s).chars)) = true ↔ Accepts s := by
  have nonempty : s ≠ "" ↔ s.toList ≠ [] := by simp
  rw [isFieldName_ofBytes, Accepts, nonempty]
  by_cases ascii : ∀ c ∈ s.toList, c.toNat < 128
  · have same : (∀ x ∈ Bytes.ofString s, isTokenChar (Char.ofNat x.toNat) = true) ↔
        ∀ c ∈ (Bytes.ofString s).chars, isTokenChar c = true := by
      simp [Bytes.chars]
    rw [same, Bytes.chars_ofString ascii, Bytes.ofString_ascii ascii, List.length_map, ne_eq,
      List.map_eq_nil_iff]
  · -- Neither side has room for a character beyond ASCII.
    constructor
    · rintro ⟨-, -, tokens⟩
      refine absurd (fun c mem => ?_) ascii
      by_contra beyond
      obtain ⟨b, among, large⟩ := Bytes.exists_beyond_ascii (Nat.le_of_not_lt beyond)
      have small := ascii_of_isTokenChar (tokens b (List.mem_flatMap.mpr ⟨c, mem, among⟩))
      have valid : b.toNat.isValidChar := .inl (Nat.lt_trans b.toNat_lt (by decide))
      rw [Char.toNat_ofNat, if_pos valid] at small
      exact absurd small (Nat.not_lt.mpr large)
    · rintro ⟨-, -, tokens⟩
      exact absurd (fun c mem => ascii_of_isTokenChar (tokens c mem)) ascii

theorem ofString?_of_accepts {s : String} (accepts : Accepts s) :
    ∃ n, ofString? s = some n ∧ n.text = Text.lowerString s := by
  have ascii : ∀ c ∈ s.toList, c.toNat < 128 := fun c mem => ascii_of_isTokenChar (accepts.2.2 c mem)
  have legal := (isFieldName_ofString s).mpr accepts
  have made : ofString? s = some ⟨String.ofList (Text.lower (Bytes.ofString s).chars), legal⟩ := by
    rw [ofString?, ofBytes?, dif_pos legal]
  exact ⟨_, made, congrArg (fun l => String.ofList (Text.lower l)) (Bytes.chars_ofString ascii)⟩

theorem accepts_of_ofString? {s : String} {n : HeaderName} (made : ofString? s = some n) :
    Accepts s := by
  by_contra refused
  rw [ofString?, ofBytes?, dif_neg (mt (isFieldName_ofString s).mp refused)] at made
  cases made

end HeaderName

namespace HeaderValue

/-- That a text holds no control character but TAB. -/
def Accepts (s : String) : Prop :=
  ∀ b ∈ Bytes.ofString s, 0x20 ≤ b ∧ b ≠ 0x7F ∨ b = 0x09

theorem isFieldByte_iff {b : UInt8} : isFieldByte b = true ↔ 0x20 ≤ b ∧ b ≠ 0x7F ∨ b = 0x09 := by
  simp [isFieldByte]

instance (s : String) : Decidable (Accepts s) :=
  decidable_of_iff ((Bytes.ofString s).all isFieldByte = true)
    (by simp only [Accepts, List.all_eq_true, isFieldByte_iff])

theorem ofString?_of_accepts {s : String} (accepts : Accepts s) :
    ∃ v, ofString? s = some v ∧ v.bytes = Bytes.ofString s := by
  have legal : (Bytes.ofString s).all isFieldByte = true :=
    List.all_eq_true.mpr fun b mem => isFieldByte_iff.mpr (accepts b mem)
  have made : ofString? s = some ⟨Bytes.ofString s, legal⟩ := by
    rw [ofString?, ofBytes?, dif_pos legal]
  exact ⟨_, made, rfl⟩

theorem accepts_of_ofString? {s : String} {v : HeaderValue} (made : ofString? s = some v) :
    Accepts s := by
  by_contra refused
  have illegal : ¬ (Bytes.ofString s).all isFieldByte = true := fun legal =>
    refused fun b mem => isFieldByte_iff.mp (List.all_eq_true.mp legal b mem)
  rw [ofString?, ofBytes?, dif_neg illegal] at made
  cases made

end HeaderValue

namespace Origin

variable {o : Origin}

/-- That every field the settings have for an origin can stand in a request. -/
def Legal (o : Origin) : Prop :=
  ∀ e ∈ o.headers.entries, HeaderName.Accepts e.1 ∧ HeaderValue.Accepts e.2
  deriving Decidable

theorem ownFields?_of_legal (legal : o.Legal) : ∃ own, o.ownFields? = some own ∧
    own.map (fun f => (f.1.text, f.2.bytes)) =
      o.headers.entries.map fun e => (Text.lowerString e.1, Bytes.ofString e.2) := by
  rw [ownFields?]
  unfold Legal at legal
  generalize o.headers.entries = es at legal ⊢
  induction es with
  | nil => exact ⟨[], rfl, rfl⟩
  | cons e r ih =>
    obtain ⟨⟨name, value⟩, rest⟩ := List.forall_mem_cons.mp legal
    obtain ⟨n, madeName, text⟩ := HeaderName.ofString?_of_accepts name
    obtain ⟨v, madeValue, bytes⟩ := HeaderValue.ofString?_of_accepts value
    obtain ⟨own, made, same⟩ := ih rest
    refine ⟨(n, v) :: own, ?_, ?_⟩
    · rw [List.mapM_cons, made]
      simp [madeName, madeValue]
    · rw [List.map_cons, List.map_cons, same, text, bytes]

theorem legal_of_ownFields? {own : Headers} (made : o.ownFields? = some own) : o.Legal := by
  rw [ownFields?] at made
  unfold Legal
  generalize o.headers.entries = es at made ⊢
  induction es generalizing own with
  | nil => simp
  | cons e r ih =>
    rw [List.mapM_cons] at made
    obtain ⟨f, first, made⟩ := Option.bind_eq_some_iff.mp made
    obtain ⟨fs, rest, -⟩ := Option.bind_eq_some_iff.mp made
    obtain ⟨n, name, first⟩ := Option.bind_eq_some_iff.mp first
    obtain ⟨v, value, -⟩ := Option.bind_eq_some_iff.mp first
    refine List.forall_mem_cons.mpr ⟨⟨?_, ?_⟩, ih rest⟩
    · exact HeaderName.accepts_of_ofString? name
    · exact HeaderValue.accepts_of_ofString? value

/-- The same origin with no fields of its own. -/
def bare (o : Origin) : Origin := { o with headers := .empty }

theorem call_of_legal {own : Headers} (made : o.ownFields? = some own) (path : String)
    (request : Headers) :
    o.call path request =
      (o.bare.call path request).map fun c => { c with headers := own ++ c.headers } := by
  have none_own : o.bare.ownFields? = some [] := rfl
  have address : o.bare.address path = o.address path := rfl
  simp only [call, made, none_own, address]
  generalize Url.parse (o.address path) = parsed
  cases parsed with
  | error e => rfl
  | ok u =>
    dsimp only
    split
    · rfl
    · split
      · rfl
      · split <;> rfl

theorem call_of_illegal (illegal : o.ownFields? = none) (path : String) (request : Headers) :
    ∃ f, o.call path request = .error f := by
  simp only [call, illegal]
  generalize Url.parse (o.address path) = parsed
  cases parsed with
  | error e => exact ⟨_, rfl⟩
  | ok u =>
    dsimp only
    split <;> exact ⟨_, rfl⟩

end Origin

namespace CacheSettings

theorem new_of_check {ω : Type} {s : CacheSettings} (checked : s.check = .ok ()) :
    ∃ c : Cache ω, Cache.new s = .ok c := by
  have positive : 0 < s.capacity := by
    unfold check at checked
    split at checked
    · next fits => exact fits.1
    · cases checked
  refine ⟨{ store := ⟨s.capacity, positive, .empty, 0, 0, 0, 0⟩ }, ?_⟩
  rw [Cache.new, checked, Store.new, dif_pos positive]
  rfl

end CacheSettings

namespace Settings

/-- For all checked settings and any number of processors: the cache and the run loops can be set up,
and so can the service. A request to an origin is built whenever it could be built without the fields
that the settings have for the origin, and then carries these, their names in lower case, before the
others, if they are legal. If one of them is not, then no request to the origin is ever built. -/
theorem ready_but_for_fields {s : Settings} (checked : s.check = .ok ()) {processors : Nat}
    (running : 0 < processors) :
    (∃ c : Cache WaiterId, Cache.new s.cache = .ok c) ∧
    (∃ p : Pool (WaiterId × Task), Pool.new (s.server.loops.getD processors) = .ok p) ∧
    (∃ v, Service.new s processors = .ok v) ∧
    ∀ name o, s.origins.get? name = some o →
      (o.Legal → ∃ own : Headers,
        own.map (fun f => (f.1.text, f.2.bytes)) =
          o.headers.entries.map (fun e => (Text.lowerString e.1, Bytes.ofString e.2)) ∧
        ∀ path request, o.call path request =
          (o.bare.call path request).map fun c => { c with headers := own ++ c.headers }) ∧
      (¬ o.Legal → ∀ path request, ∃ f, o.call path request = .error f) := by
  obtain ⟨cache, loops, -⟩ := check_iff.mp checked
  obtain ⟨c, made⟩ := CacheSettings.new_of_check (ω := WaiterId) cache
  have some_loop : 0 < s.server.loops.getD processors := by
    cases count : s.server.loops with
    | none => exact running
    | some n =>
      cases n with
      | zero => exact absurd count loops
      | succ n => exact Nat.succ_pos n
  have pool : ∃ p : Pool (WaiterId × Task), Pool.new (s.server.loops.getD processors) = .ok p :=
    ⟨_, dif_pos some_loop⟩
  refine ⟨⟨c, made⟩, pool, ?_, fun name o _ => ⟨fun legal => ?_, fun illegal => ?_⟩⟩
  · obtain ⟨p, pooled⟩ := pool
    let desk : Desk := { cache := c, pool := p }
    refine ⟨{ origins := s.origins, merging := s.cache.merging, desk }, ?_⟩
    rw [Service.new, made]
    simp only [Desk.new, pooled]
    rfl
  · obtain ⟨own, found, same⟩ := Origin.ownFields?_of_legal legal
    exact ⟨own, same, Origin.call_of_legal found⟩
  · apply Origin.call_of_illegal
    cases found : o.ownFields? with
    | none => rfl
    | some own => exact absurd (Origin.legal_of_ownFields? found) illegal

def keyed : Settings where
  origins :=
    (Assoc.empty.set "a.com"
      { url := "http://127.0.0.1:1", headers := Assoc.empty.set "X-Key" "a\tb" }).set "b.com"
      { url := "http://127.0.0.1:1", headers := Assoc.empty.set "bad name" "1" }

theorem ready_but_for_fields_of_two :
    keyed.check = .ok () ∧ (∃ v, Service.new keyed 4 = .ok v) ∧
    (∀ o, keyed.origins.get? "a.com" = some o → ∃ own : Headers,
      own.map (fun f => (f.1.text, f.2.bytes)) = [("x-key", Bytes.ofString "a\tb")] ∧
      ∀ path request, o.call path request =
        (o.bare.call path request).map fun c => { c with headers := own ++ c.headers }) ∧
    ∀ o, keyed.origins.get? "b.com" = some o →
      ∀ path request, ∃ f, o.call path request = .error f := by
  have checked : keyed.check = .ok () := rfl
  obtain ⟨-, -, service, each⟩ := ready_but_for_fields checked (by decide : 0 < 4)
  refine ⟨checked, service, fun o named => ?_, fun o named => ?_⟩
  · have first := (each "a.com" o named).1
    cases named
    exact first (by decide)
  · have second := (each "b.com" o named).2
    cases named
    exact second (by decide)

/-- Checked settings whose fields keep a request from being built. -/
theorem unbuildable_for_fields :
    keyed.check = .ok () ∧ ∃ o, keyed.origins.get? "b.com" = some o ∧
      (∃ c, o.bare.call "/a" [] = .ok c) ∧ o.call "/a" [] = .error ⟨.origin, "builder error"⟩ := by
  refine ⟨rfl, _, rfl, ⟨?_, ?_⟩, rfl⟩
  · exact ⟨⟨"http", "", none, some (.ipv4 2130706433), some 1, .segments ["a"], none, none⟩, []⟩
  · decide +kernel

end Settings
end CachingProxy
