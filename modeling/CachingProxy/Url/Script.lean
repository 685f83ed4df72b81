import CachingProxy.Text.Plain
import CachingProxy.Url.Canonical
import CachingProxy.Url.ScriptTable

namespace CachingProxy.Script

def isAscii (c : Char) : Bool := c.toNat < 128

def inRanges (c : Char) (rs : List (Nat × Nat)) : Bool :=
  rs.any fun r => r.1 ≤ c.toNat && c.toNat ≤ r.2

def isNonspacing (c : Char) : Bool := !isAscii c && inRanges c ScriptTable.nonspacing

def isMark (c : Char) : Bool :=
  isNonspacing c || (!isAscii c && inRanges c ScriptTable.spacing)

def nonJoiner : Char := '\u200c'

def joiner : Char := '\u200d'

def isPassed (c : Char) : Bool :=
  (isNonspacing c && c.toNat ≠ ScriptTable.parting) || inRanges c ScriptTable.passed

/-- Whether a non-joiner stands between letters that would be joined; the characters before it come
in reverse. -/
def separates (before after : List Char) : Bool :=
  (before.dropWhile isPassed).head?.any (fun c => inRanges c ScriptTable.joinsNext) &&
    (after.dropWhile isPassed).head?.any fun c => inRanges c ScriptTable.joinsLast

def viramaClass : Nat := 9

/-- Whether every joiner follows a virama and every non-joiner follows one or separates letters. -/
def joinsWell (before : List Char) : List Char → Bool
  | [] => true
  | c :: r =>
    ((c ≠ joiner && c ≠ nonJoiner) || before.head?.any (Canonical.classOf · == viramaClass) ||
        (c == nonJoiner && separates before r)) &&
      joinsWell (c :: before) r

inductive Direction
  | leftToRight
  | rightToLeft
  | digit
  | arabicDigit
  | neutral
  | mark
  deriving DecidableEq

def direction (c : Char) : Direction :=
  if isAscii c then
    if Text.isAlpha c then .leftToRight else if Text.isDigit c then .digit else .neutral
  else if isNonspacing c then .mark
  else if inRanges c ScriptTable.neutral then .neutral
  else if inRanges c ScriptTable.digits then .digit
  else if inRanges c ScriptTable.arabicDigits then .arabicDigit
  else if inRanges c ScriptTable.rightToLeft then .rightToLeft
  else .leftToRight

def Direction.isReverse (d : Direction) : Bool := d == .rightToLeft || d == .arabicDigit

def endsIn (allowed l : List Direction) : Bool :=
  (l.reverse.dropWhile (· = .mark)).head?.any allowed.contains

/-- Whether a label begins with a letter, ends with a letter or a digit of the same direction, and
holds no letter of the other direction; digits of one kind only may run from right to left. -/
def runsOneWay (l : List Direction) : Bool :=
  match l.head? with
  | none => true
  | some .leftToRight => !l.any Direction.isReverse && endsIn [.leftToRight, .digit] l
  | some .rightToLeft =>
    !l.contains .leftToRight && !(l.contains .digit && l.contains .arabicDigit) &&
      endsIn [.rightToLeft, .digit, .arabicDigit] l
  | some _ => false

def directionsAgree (labels : List (List Char)) : Bool :=
  let ds := labels.map fun l => l.map direction
  !ds.any (fun l => l.any Direction.isReverse) || ds.all runsOneWay

end CachingProxy.Script
