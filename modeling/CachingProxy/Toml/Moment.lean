import CachingProxy.Text.Plain

namespace CachingProxy

structure Day where
  year : Nat
  month : Nat
  day : Nat
  deriving DecidableEq

/-- A time of day. The fraction of the second has up to nine digits and no zero at its end. -/
structure Clock where
  hour : Nat
  minute : Nat
  second : Nat := 0
  fraction : List Char := []
  deriving DecidableEq

inductive Offset
  | universal
  | ahead (minutes : Int)
  deriving DecidableEq

inductive Moment
  | day (d : Day)
  | clock (t : Clock)
  | both (d : Day) (t : Clock) (offset : Option Offset)
  deriving DecidableEq

namespace Moment

def fixed? (n : Nat) (l : List Char) : Option (Nat × List Char) :=
  let ds := l.take n
  if ds.length = n then (ds.mapM Text.digit?).map fun ds => (ds.foldl (10 * · + ·) 0, l.drop n)
  else none

def isLeap (y : Nat) : Bool := y % 4 == 0 && (y % 100 != 0 || y % 400 == 0)

def daysIn (y m : Nat) : Nat :=
  if m = 2 then if isLeap y then 29 else 28
  else if [4, 6, 9, 11].contains m then 30
  else 31

def cutChar? (c : Char) : List Char → Option (List Char)
  | d :: r => if d = c then some r else none
  | [] => none

def readDay? (l : List Char) : Option (Day × List Char) := do
  let (y, r) ← fixed? 4 l
  let (m, r) ← fixed? 2 (← cutChar? '-' r)
  let (d, r) ← fixed? 2 (← cutChar? '-' r)
  if 1 ≤ m ∧ m ≤ 12 ∧ 1 ≤ d ∧ d ≤ daysIn y m then some (⟨y, m, d⟩, r) else none

/-- The digits of a fraction that count: at most nine, and no zeros at the end. -/
def fractionDigits (l : List Char) : List Char := ((l.take 9).reverse.dropWhile (· = '0')).reverse

def readSecond? (hour minute : Nat) : List Char → Option (Clock × List Char)
  | ':' :: r => do
    let (s, r) ← fixed? 2 r
    if 60 < s then none
    else match r with
      | '.' :: r =>
        let (ds, r) := r.span Text.isDigit
        if ds = [] then none else some (⟨hour, minute, s, fractionDigits ds⟩, r)
      | r => some (⟨hour, minute, s, []⟩, r)
  | r => some (⟨hour, minute, 0, []⟩, r)

def readClock? (l : List Char) : Option (Clock × List Char) := do
  let (h, r) ← fixed? 2 l
  let (m, r) ← fixed? 2 (← cutChar? ':' r)
  if h ≤ 23 ∧ m ≤ 59 then readSecond? h m r else none

def offset? : List Char → Option Offset
  | [z] => if z = 'Z' ∨ z = 'z' then some .universal else none
  | sign :: r => do
    let (h, r) ← fixed? 2 r
    let (m, r) ← fixed? 2 (← cutChar? ':' r)
    let minutes : Int := 60 * h + m
    if h ≤ 23 ∧ m ≤ 59 ∧ r = [] then
      if sign = '+' then some (.ahead minutes)
      else if sign = '-' then some (.ahead (-minutes))
      else none
    else none
  | [] => none

def isBetween (c : Char) : Bool := c == 'T' || c == 't' || c == ' '

/-- A text that is a date, a time, or a date with a time and perhaps an offset. -/
def parse? (l : List Char) : Option Moment :=
  match readDay? l with
  | some (d, []) => some (.day d)
  | some (d, c :: r) => do
    let (t, r) ← readClock? r
    if !isBetween c then none
    else if r = [] then some (.both d t none)
    else (offset? r).map fun o => .both d t (some o)
  | none =>
    match readClock? l with
    | some (t, []) => some (.clock t)
    | _ => none

def padded (width n : Nat) : List Char :=
  let ds := (toString n).toList
  List.replicate (width - ds.length) '0' ++ ds

def renderDay (d : Day) : List Char :=
  padded 4 d.year ++ '-' :: padded 2 d.month ++ '-' :: padded 2 d.day

def renderClock (t : Clock) : List Char :=
  padded 2 t.hour ++ ':' :: padded 2 t.minute ++ ':' :: padded 2 t.second ++
    if t.fraction = [] then [] else '.' :: t.fraction

/-- An offset of no minutes is written with a plus sign. -/
def renderOffset : Offset → List Char
  | .universal => ['Z']
  | .ahead m =>
    (if m < 0 then '-' else '+') :: padded 2 (m.natAbs / 60) ++ ':' :: padded 2 (m.natAbs % 60)

def render : Moment → List Char
  | day d => renderDay d
  | clock t => renderClock t
  | both d t o => renderDay d ++ 'T' :: renderClock t ++ (o.map renderOffset).getD []

end Moment
end CachingProxy
