import CachingProxy.Url.CanonicalTable

namespace CachingProxy.Canonical

def classOf (c : Char) : Nat :=
  let n := c.toNat
  if n < 0x300 then 0
  else ((CanonicalTable.classes.find? fun k => k.2.any fun r => r.1 ≤ n && n ≤ r.2).map
    Prod.fst).getD 0

def parts? (c : Char) : Option (Char × Char) :=
  if c.toNat < 0xC0 then none
  else
    (CanonicalTable.composites.findSome? fun (second, firsts, wholes) =>
      ((firsts.toList.zip wholes.toList).find? fun p => p.2 == c).map fun p =>
        (p.1, Char.ofNat second)) <|>
    ((CanonicalTable.otherComposites.find? fun t => t.2.2 == c.toNat).map fun t =>
      (Char.ofNat t.2.1, Char.ofNat t.1))

/-- What is left when marks are taken off a character, at most so many, and these marks. -/
def decompose : Nat → Char → List Char
  | 0, c => [c]
  | marks + 1, c =>
    match parts? c with
    | some (a, b) => decompose marks a ++ [b]
    | none => [c]

def mostMarks : Nat := 2

def insert (c : Char) : List Char → List Char
  | [] => [c]
  | d :: r =>
    if 0 < classOf d ∧ classOf d < classOf c then d :: insert c r else c :: d :: r

/-- Marks that follow each other come in the order of their classes. -/
def order (l : List Char) : List Char := l.foldr insert []

/-- The syllable of Hangul that a consonant and a vowel make, or such a syllable and the consonant
after it. -/
def syllable? (a b : Nat) : Option Nat :=
  if 0x1100 ≤ a ∧ a < 0x1113 ∧ 0x1161 ≤ b ∧ b < 0x1176 then
    some (0xAC00 + 588 * (a - 0x1100) + 28 * (b - 0x1161))
  else if 0xAC00 ≤ a ∧ a < 0xD7A4 ∧ (a - 0xAC00) % 28 = 0 ∧ 0x11A7 < b ∧ b < 0x11C3 then
    some (a + (b - 0x11A7))
  else none

def whole? (a b : Char) : Option Char :=
  if b.toNat < 0x300 then none
  else match syllable? a.toNat b.toNat with
    | some n => some (Char.ofNat n)
    | none =>
      ((CanonicalTable.composites.find? fun row => row.1 == b.toNat).bind fun (_, firsts, wholes) =>
        ((firsts.toList.zip wholes.toList).find? fun p => p.1 == a).map Prod.snd) <|>
      ((CanonicalTable.otherComposites.find? fun t => t.1 == b.toNat && t.2.1 == a.toNat).map
        fun t => Char.ofNat t.2.2)

/-- Composes a character with what follows it. The marks in `held`, the last one first, do not go
together with it; they keep from it what has no higher class than they have. -/
def combineFrom (a : Char) (held : List Char) : List Char → List Char
  | [] => a :: held.reverse
  | b :: r =>
    match if held.head?.all (classOf · < classOf b) then whole? a b else none with
    | some c => combineFrom c held r
    | none =>
      if classOf b = 0 then a :: held.reverse ++ combineFrom b [] r
      else combineFrom a (b :: held) r

def combine : List Char → List Char
  | [] => []
  | a :: r => if classOf a = 0 then combineFrom a [] r else a :: combine r

def compose (l : List Char) : List Char :=
  combine (order (l.flatMap (decompose mostMarks)))

end CachingProxy.Canonical
