import CachingProxy.Decimal.Overflow
import CachingProxy.Bytes
import CachingProxy.Text.Plain

namespace CachingProxy.Json

inductive ReadError
  /-- The text is not JSON. -/
  | malformed
  /-- The text may be JSON, but a value is not of the type that is asked for. -/
  | mismatched
  deriving DecidableEq

abbrev Reader (α : Type) := Bytes → Except ReadError (α × Bytes)

def code (c : Char) : UInt8 := UInt8.ofNat c.toNat

def isBlank (b : UInt8) : Bool := b == 0x20 || b == 0x0A || b == 0x09 || b == 0x0D

def skipBlanks (l : Bytes) : Bytes := l.dropWhile isBlank

def isDigit (b : UInt8) : Bool := code '0' ≤ b && b ≤ code '9'

def peek (l : Bytes) : Except ReadError (UInt8 × Bytes) :=
  match skipBlanks l with
  | [] => .error .malformed
  | b :: r => .ok (b, b :: r)

def expect (b : UInt8) : Reader Unit
  | c :: r => if c = b then .ok ((), r) else .error .malformed
  | [] => .error .malformed

def word (w : String) : Reader Unit := fun l =>
  let bs := Bytes.ofString w
  if bs.isPrefixOf l then .ok ((), l.drop bs.length) else .error .malformed

def hex4 : Reader Nat
  | a :: b :: c :: d :: r =>
    match [a, b, c, d].mapM fun x => Text.hexDigit? (Char.ofNat x.toNat) with
    | some ds => .ok (ds.foldl (fun n d => 16 * n + d) 0, r)
    | none => .error .malformed
  | _ => .error .malformed

def utf8 (n : Nat) : Bytes := String.utf8EncodeChar (Char.ofNat n)

def codeUnits : Reader Bytes := fun l => do
  let (n, r) ← hex4 l
  if 0xDC00 ≤ n ∧ n ≤ 0xDFFF then throw .malformed
  else if 0xD800 ≤ n ∧ n ≤ 0xDBFF then
    let (_, r) ← word "\\u" r
    let (m, r) ← hex4 r
    if 0xDC00 ≤ m ∧ m ≤ 0xDFFF then
      return (utf8 (0x10000 + (n - 0xD800) * 0x400 + (m - 0xDC00)), r)
    else throw .malformed
  else return (utf8 n, r)

def escaped? (b : UInt8) : Option UInt8 :=
  if b = code '"' ∨ b = code '\\' ∨ b = code '/' then some b
  else if b = code 'b' then some 0x08
  else if b = code 'f' then some 0x0C
  else if b = code 'n' then some 0x0A
  else if b = code 'r' then some 0x0D
  else if b = code 't' then some 0x09
  else none

/-- The bytes of a text after its opening quote. With `lax` it is only passed over, and code units
need not make characters. -/
def quotedBytes (lax : Bool) : Nat → Reader Bytes
  | 0, _ => .error .malformed
  | _, [] => .error .malformed
  | fuel + 1, b :: r => do
    if b = code '"' then return ([], r)
    else if b = code '\\' then
      match r with
      | [] => throw .malformed
      | c :: r =>
        let (s, r) ← if c = code 'u' then
            if lax then (hex4 r).map fun (_, r) => (([] : Bytes), r) else codeUnits r
          else match escaped? c with
            | some e => pure ([e], r)
            | none => throw .malformed
        let (t, r) ← quotedBytes lax fuel r
        return (s ++ t, r)
    else if b < 0x20 then throw .malformed
    else
      let (t, r) ← quotedBytes lax fuel r
      return (b :: t, r)

def quoted : Reader String := fun l => do
  let (b, r) ← quotedBytes false (l.length + 1) l
  match b.text? with
  | some s => return (s, r)
  | none => throw .malformed

def digits : Reader Bytes := fun l =>
  match l.takeWhile isDigit with
  | [] => .error .malformed
  | ds => .ok (ds, l.dropWhile isDigit)

/-- A number: its digits without the point, and the power of ten that they are multiplied by. -/
def number : Reader (Nat × Int) := fun l => do
  let l := if l.head? = some (code '-') then l.drop 1 else l
  let (whole, r) ← digits l
  if whole.head? = some (code '0') ∧ 1 < whole.length then throw .malformed
  let (fraction, r) ← if r.head? = some (code '.') then digits (r.drop 1) else pure ([], r)
  let value (ds : Bytes) : Nat := ds.foldl (fun n d => 10 * n + (d.toNat - 48)) 0
  let isMark := fun b => b == code 'e' || b == code 'E'
  let (exponent, r) ← if r.head?.any isMark then do
      let r := r.drop 1
      let negative := r.head? = some (code '-')
      let r := if negative ∨ r.head? = some (code '+') then r.drop 1 else r
      let (ds, r) ← digits r
      pure (if negative then -(value ds : Int) else (value ds : Int), r)
    else pure (0, r)
  return ((value (whole ++ fraction), exponent - fraction.length), r)

def skip : Nat → Reader Unit
  | 0, _ => .error .malformed
  | fuel + 1, l => do
    let (b, l) ← peek l
    if b = code '"' then (quotedBytes true l.length (l.drop 1)).map fun (_, r) => ((), r)
    else if b = code '-' ∨ isDigit b then (number l).map fun (_, r) => ((), r)
    else if b = code 'n' then word "null" l
    else if b = code 't' then word "true" l
    else if b = code 'f' then word "false" l
    else if b = code '[' then
      let (c, r) ← peek (l.drop 1)
      if c = code ']' then return ((), r.drop 1) else items fuel r
    else if b = code '\x7b' then
      let (c, r) ← peek (l.drop 1)
      if c = code '\x7d' then return ((), r.drop 1) else members fuel r
    else throw .malformed
where
  items : Nat → Reader Unit
    | 0, _ => .error .malformed
    | fuel + 1, l => do
      let (_, r) ← skip fuel l
      let (b, r) ← peek r
      if b = code ',' then items fuel (r.drop 1)
      else if b = code ']' then return ((), r.drop 1)
      else throw .malformed
  members : Nat → Reader Unit
    | 0, _ => .error .malformed
    | fuel + 1, l => do
      let (q, l) ← peek l
      if q ≠ code '"' then throw .malformed
      let (_, r) ← quotedBytes true l.length (l.drop 1)
      let (_, r) ← expect (code ':') (skipBlanks r)
      let (_, r) ← skip fuel r
      let (b, r) ← peek r
      if b = code ',' then members fuel (r.drop 1)
      else if b = code '\x7d' then return ((), r.drop 1)
      else throw .malformed

/-- A value that is not of the type asked for. If it is a text, a number or a word, it is read to
its end first, so that one that is not JSON counts as that. -/
def refuse {α : Type} : Reader α := fun l => do
  let (b, l) ← peek l
  if b = code '"' then let _ ← quoted (l.drop 1)
  else if b = code '-' ∨ isDigit b then
    let ((n, e), _) ← number l
    if Decimal.overflows n e then throw .malformed
  else if b = code 'n' then let _ ← word "null" l
  else if b = code 't' then let _ ← word "true" l
  else if b = code 'f' then let _ ← word "false" l
  else if b ≠ code '[' ∧ b ≠ code '\x7b' then throw .malformed
  throw .mismatched

def readText : Reader String := fun l => do
  let (b, l) ← peek l
  if b = code '"' then quoted (l.drop 1) else refuse l

def readOptionalText : Reader (Option String) := fun l => do
  let (b, l) ← peek l
  if b = code 'n' then (word "null" l).map fun (_, r) => (none, r)
  else (readText l).map fun (s, r) => (some s, r)

def readBoolean : Reader Bool := fun l => do
  let (b, l) ← peek l
  if b = code 't' then (word "true" l).map fun (_, r) => (true, r)
  else if b = code 'f' then (word "false" l).map fun (_, r) => (false, r)
  else refuse l

end CachingProxy.Json
