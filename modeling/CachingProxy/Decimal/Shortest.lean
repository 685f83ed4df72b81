namespace CachingProxy.Decimal

/-- A positive number m · 2^q with the sizes of the steps to its neighbours; `low` says that the
step down is half the step up. -/
structure Dyadic where
  m : Nat
  q : Int
  low : Bool
  deriving DecidableEq

/-- The digits `digits` with the decimal point `point` places after the first digit's left edge:
the number is 0.d₁d₂… · 10^point. -/
structure Digits where
  digits : List Nat
  point : Int
  deriving DecidableEq

def Dyadic.ofBits? (bits : Nat) : Option Dyadic :=
  let e : Nat := bits / Nat.pow 2 52 % 2048
  let f : Nat := bits % Nat.pow 2 52
  if e = 0 then if f = 0 then none else some ⟨f, -1074, false⟩
  else some ⟨f + Nat.pow 2 52, (e : Int) - 1075, f = 0 && 1 < e⟩

def scale (a : Nat) (q k : Int) : Nat × Nat :=
  let (n, d) := if 0 ≤ q then (a * Nat.pow 2 q.toNat, 1) else (a, Nat.pow 2 (-q).toNat)
  if 0 ≤ k then (n, d * Nat.pow 10 k.toNat) else (n * Nat.pow 10 (-k).toNat, d)

/-- Whether c · 10^k rounds to the double. Everything is counted in quarters of a step. -/
def Dyadic.covers (x : Dyadic) (c : Nat) (k : Int) : Bool :=
  let (nLow, dLow) := scale (4 * x.m - if x.low then 1 else 2) (x.q - 2) k
  let (nHigh, dHigh) := scale (4 * x.m + 2) (x.q - 2) k
  if x.m % 2 = 0 then nLow ≤ c * dLow && c * dHigh ≤ nHigh
  else nLow < c * dLow && c * dHigh < nHigh

/-- The multiple of 10^k in the interval that is nearest to the double, if there is one; of two
equally near ones the upper. -/
def Dyadic.onGrid? (x : Dyadic) (k : Int) : Option Nat :=
  let (n, d) := scale x.m x.q k
  let c := n / d
  let up := d ≤ 2 * (n % d)
  match x.covers c k, x.covers (c + 1) k with
  | true, true => some (if up then c + 1 else c)
  | true, false => some c
  | false, true => some (c + 1)
  | false, false => none

/-- The first grid, from coarse to fine, that meets the interval. -/
def Dyadic.search (x : Dyadic) : Nat → Int → Nat × Int
  | 0, k => ((x.onGrid? k).getD 0, k)
  | fuel + 1, k =>
    match x.onGrid? k with
    | some c => if c = 0 then search x fuel (k - 1) else (c, k)
    | none => search x fuel (k - 1)

def digitsOf : Nat → Nat → List Nat
  | 0, _ => []
  | fuel + 1, n => if n < 10 then [n] else digitsOf fuel (n / 10) ++ [n % 10]

def Dyadic.bound (x : Dyadic) : Int :=
  let top : Int := x.q + (Nat.log2 x.m : Int) + 1
  if 0 ≤ top then top * 31 / 100 + 1 else top * 30 / 100 + 1

def Dyadic.shortest (x : Dyadic) : Digits :=
  let k₀ := x.bound
  let (c, k) := x.search (k₀ + 345).toNat k₀
  let ds := digitsOf 20 c
  ⟨(ds.reverse.dropWhile (· = 0)).reverse, (ds.length : Int) + k⟩

structure Layout where
  leastPoint : Option Int
  greatestPoint : Option Int
  fraction : Bool

def digitText (ds : List Nat) : String := String.ofList (ds.map fun d => Char.ofNat (48 + d))

def zeros (n : Nat) : String := String.ofList (List.replicate n '0')

def Layout.positional (y : Layout) (x : Digits) : String :=
  if x.point ≤ 0 then "0." ++ zeros (-x.point).toNat ++ digitText x.digits
  else
    let p := x.point.toNat
    if x.digits.length ≤ p then
      digitText x.digits ++ zeros (p - x.digits.length) ++ if y.fraction then ".0" else ""
    else digitText (x.digits.take p) ++ "." ++ digitText (x.digits.drop p)

def Layout.scientific (x : Digits) : String :=
  let e := x.point - 1
  let tail := if x.digits.length ≤ 1 then "" else "." ++ digitText (x.digits.drop 1)
  digitText (x.digits.take 1) ++ tail ++ "e" ++ toString e

def Layout.digits (y : Layout) (x : Digits) : String :=
  if y.leastPoint.all (· ≤ x.point) && y.greatestPoint.all (x.point ≤ ·) then y.positional x
  else Layout.scientific x

def Layout.ofBits (y : Layout) (bits : Nat) : String :=
  let sign := if bits / Nat.pow 2 63 = 1 then "-" else ""
  match Dyadic.ofBits? (bits % Nat.pow 2 63) with
  | none => sign ++ if y.fraction then "0.0" else "0"
  | some x => sign ++ y.digits x.shortest

def Layout.render (y : Layout) (x : Float) : String := y.ofBits x.toBits.toNat

end CachingProxy.Decimal
