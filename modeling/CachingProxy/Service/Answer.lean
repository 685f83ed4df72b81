import CachingProxy.Failure

namespace CachingProxy

namespace HeaderValue

theorem digit_isFieldByte {n : Nat} (h : n < 10) : isFieldByte (UInt8.ofNat (48 + n)) := by
  have : ∀ m : Fin 10, isFieldByte (UInt8.ofNat (48 + m.1)) := by decide
  exact this ⟨n, h⟩

def digits (n : Nat) : Bytes :=
  if n < 10 then [UInt8.ofNat (48 + n)] else digits (n / 10) ++ [UInt8.ofNat (48 + n % 10)]
termination_by n

theorem digits_isValue (n : Nat) : (digits n).all isFieldByte := by
  induction n using Nat.strongRecOn with
  | _ n ih =>
    rw [digits]
    split
    · next h => simp only [List.all_cons, digit_isFieldByte h, List.all_nil, Bool.and_self]
    · next h =>
      simp only [List.all_append, List.all_cons, List.all_nil, Bool.and_true]
      rw [ih (n / 10) (by omega), digit_isFieldByte (Nat.mod_lt n (by omega))]
      rfl

def natural (n : Nat) : HeaderValue := ⟨digits n, digits_isValue n⟩

def ofText (s : String) (h : (Bytes.ofString s).all isFieldByte := by decide) : HeaderValue :=
  ⟨Bytes.ofString s, h⟩

end HeaderValue

/-- A head and a body as far as it came. -/
structure Answer where
  head : Head
  body : Bytes
  sized : Bool := true
  /-- Why the body broke off, if it did. -/
  broken : Option String := none

namespace Answer

def ofResponse (r : Response) : Answer := ⟨r.head, r.body, true, none⟩

def empty (s : Status) (headers : Headers) : Answer := ⟨⟨s, headers⟩, [], true, none⟩

def text (s : Status) (t : String) : Answer :=
  ⟨⟨s, [(.contentType, .ofText "text/plain; charset=utf-8")]⟩, Bytes.ofString t, true, none⟩

/-- The answer with the size of its body among its fields, if that is known and not there yet. -/
def measured (a : Answer) : Answer :=
  if a.sized ∧ a.head.headers.values .contentLength = [] then
    { a with head := { a.head with
        headers := a.head.headers ++ [(.contentLength, .natural a.body.length)] } }
  else a

/-- The answer to a `HEAD` request: the body is left out, and the fields stay. -/
def withoutBody (a : Answer) : Answer := { a with body := [], broken := none }

end Answer
end CachingProxy
