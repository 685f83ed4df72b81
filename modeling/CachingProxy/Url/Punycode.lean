namespace CachingProxy.Punycode

/-- The digit that adds this value: a letter below 26, a decimal digit from there on. -/
def digit (n : Nat) : Char := if n < 26 then Char.ofNat (97 + n) else Char.ofNat (22 + n)

def digit? (c : Char) : Option Nat :=
  if 'a' ≤ c ∧ c ≤ 'z' then some (c.toNat - 97)
  else if 'A' ≤ c ∧ c ≤ 'Z' then some (c.toNat - 65)
  else if '0' ≤ c ∧ c ≤ '9' then some (c.toNat - 22)
  else none

/-- A digit at position `k` ends a number if it is smaller than this. -/
def threshold (k bias : Nat) : Nat :=
  if k ≤ bias then 1 else if bias + 26 ≤ k then 26 else k - bias

def adaptLoop : Nat → Nat → Nat → Nat
  | 0, _, k => k
  | fuel + 1, delta, k =>
    if 455 < delta then adaptLoop fuel (delta / 35) (k + 36) else k + 36 * delta / (delta + 38)

def adapt (delta count : Nat) (first : Bool) : Nat :=
  let halved := if first then delta / 700 else delta / 2
  adaptLoop 64 (halved + halved / count) 0

def digits (bias : Nat) : Nat → Nat → Nat → List Char
  | 0, _, _ => []
  | fuel + 1, k, q =>
    let t := threshold k bias
    if q < t then [digit q]
    else digit (t + (q - t) % (36 - t)) :: digits bias fuel (k + 36) ((q - t) / (36 - t))

/-- Where writing stands: the text so far, the count of steps since the last number, the bias, and
how many characters are written. -/
structure Writer where
  out : List Char
  delta : Nat
  bias : Nat
  written : Nat

def Writer.visit (basic m : Nat) (w : Writer) (c : Char) : Writer :=
  if c.toNat < m then { w with delta := w.delta + 1 }
  else if c.toNat = m then
    { out := w.out ++ digits w.bias 64 36 w.delta
      delta := 0
      bias := adapt w.delta (w.written + 1) (w.written == basic)
      written := w.written + 1 }
  else w

def Writer.run (label : List Char) (basic : Nat) : List Nat → Nat → Writer → Writer
  | [], _, w => w
  | m :: r, n, w =>
    let w := { w with delta := w.delta + (m - n) * (w.written + 1) }
    let w := label.foldl (Writer.visit basic m) w
    run label basic r (m + 1) { w with delta := w.delta + 1 }

def encode (label : List Char) : List Char :=
  let basic := label.filter fun c => c.toNat < 128
  let others := (label.filter fun c => 128 ≤ c.toNat).map Char.toNat
  let codes := (others.mergeSort (· ≤ ·)).eraseDups
  let w : Writer := ⟨[], 0, 72, basic.length⟩
  basic ++ (if basic = [] then [] else ['-']) ++ (w.run label basic.length codes 128).out

def number (bias : Nat) : List Char → Nat → Nat → Nat → Option (Nat × List Char)
  | [], _, _, _ => none
  | c :: r, k, weight, sum =>
    match digit? c with
    | none => none
    | some d =>
      let t := threshold k bias
      let sum := sum + d * weight
      if 0xFFFFFFFF < sum then none
      else if d < t then some (sum, r)
      else number bias r (k + 36) (weight * (36 - t)) sum

/-- Inserts the characters that the numbers name. `n` and `i` are the code point and the place
where the last one went; before the first number the place is zero, and after it never again. -/
def insertAll : Nat → List Char → List Char → Nat → Nat → Nat → Option (List Char)
  | _, [], out, _, _, _ => some out
  | 0, _, _, _, _, _ => none
  | fuel + 1, text, out, n, i, bias => do
    let (delta, rest) ← number bias text 36 1 0
    let count := out.length + 1
    let n := n + (i + delta) / count
    let place := (i + delta) % count
    if n < 0xD800 ∨ (0xE000 ≤ n ∧ n ≤ 0x10FFFF) then
      insertAll fuel rest (out.take place ++ Char.ofNat n :: out.drop place) n (place + 1)
        (adapt delta count (i == 0))
    else none

def decode? (text : List Char) : Option (List Char) :=
  let after := (text.reverse.takeWhile (· ≠ '-')).reverse
  let basic := text.take (text.length - after.length - 1)
  if basic.any (fun c => 128 ≤ c.toNat) || (basic = [] && after ≠ text) then none
  else insertAll (after.length + 1) after basic 128 0 72

end CachingProxy.Punycode
