import CachingProxy.Decimal.Overflow
import CachingProxy.Text.Plain
import CachingProxy.Toml.Moment
import CachingProxy.Toml.Value

namespace CachingProxy.Toml

/-- The digits of a numeral to some base, without the underscores, each of which stands between two
digits. -/
def numeral? (isDigit : Char → Bool) : List Char → Option (List Char)
  | [] => none
  | [c] => if isDigit c then some [c] else none
  | c :: '_' :: r => if isDigit c then (numeral? isDigit r).map (c :: ·) else none
  | c :: r => if isDigit c then (numeral? isDigit r).map (c :: ·) else none

def valueOf (base : Nat) (ds : List Char) : Nat :=
  ds.foldl (fun n c => base * n + (Text.hexDigit? c).getD 0) 0

def isBelow (base : Nat) (c : Char) : Bool := (Text.hexDigit? c).any (· < base)

def decimal? (l : List Char) : Option Nat := do
  let ds ← numeral? Text.isDigit l
  if l.head? = some '0' ∧ 1 < l.length then none else some (valueOf 10 ds)

def cutSign : List Char → Bool × List Char
  | '-' :: r => (true, r)
  | '+' :: r => (false, r)
  | l => (false, l)

/-- Integers must fit into 128 bits, with a sign or without. -/
def fits (n : Int) : Bool := -(Nat.pow 2 127 : Int) ≤ n && n < (Nat.pow 2 128 : Int)

def integer? (l : List Char) : Option Int := do
  let n ← match l with
    | '0' :: 'x' :: r => (numeral? (isBelow 16) r).map fun ds => (valueOf 16 ds : Int)
    | '0' :: 'o' :: r => (numeral? (isBelow 8) r).map fun ds => (valueOf 8 ds : Int)
    | '0' :: 'b' :: r => (numeral? (isBelow 2) r).map fun ds => (valueOf 2 ds : Int)
    | l =>
      let (negative, r) := cutSign l
      (decimal? r).map fun n => if negative then -(n : Int) else (n : Int)
  if fits n then some n else none

/-- Whether a text is a float: a whole part, and after it a fraction, an exponent, or both. -/
def isFloat (l : List Char) : Bool :=
  let (_, l) := cutSign l
  if l = "inf".toList ∨ l = "nan".toList then true
  else
    let isMark (c : Char) := c == 'e' || c == 'E'
    let (mantissa, mark) := l.span (!isMark ·)
    let (whole, point) := mantissa.span (· ≠ '.')
    let fraction : Option (List Char) := match point with
      | [] => some []
      | _ :: r => numeral? Text.isDigit r
    let exponent : Option Int := match mark with
      | [] => some 0
      | _ :: r =>
        let (negative, r) := cutSign r
        (numeral? Text.isDigit r).map fun ds =>
          if negative then -(valueOf 10 ds : Int) else (valueOf 10 ds : Int)
    match decimal? whole, fraction, exponent with
    | some w, some f, some e =>
      let digits := w * Nat.pow 10 f.length + valueOf 10 f
      (point ≠ [] || mark ≠ []) && !Decimal.overflows digits (e - f.length)
    | _, _, _ => false

def scalar? (l : List Char) : Option Toml :=
  if l = "true".toList then some (.boolean true)
  else if l = "false".toList then some (.boolean false)
  else match integer? l with
    | some n => some (.integer n)
    | none =>
      if isFloat l then some .float
      else (Moment.parse? l).map .moment

def isScalarChar (c : Char) : Bool :=
  Text.isAlpha c || Text.isDigit c || c == '+' || c == '-' || c == '_' || c == '.' || c == ':'

/-- An unquoted value and what follows it. A date and a time may have a space between them. -/
def readScalar (l : List Char) : Option (Toml × List Char) :=
  let (first, rest) := l.span isScalarChar
  match rest with
  | ' ' :: d :: r =>
    if (Moment.readDay? first).any (·.2 = []) ∧ Text.isDigit d then do
      let (second, rest) := (d :: r).span isScalarChar
      return (← scalar? (first ++ ' ' :: second), rest)
    else (scalar? first).map fun v => (v, rest)
  | _ => (scalar? first).map fun v => (v, rest)

end CachingProxy.Toml
