import CachingProxy.Bytes
import CachingProxy.Text.Plain
import CachingProxy.Url.DomainTable
import CachingProxy.Url.Punycode
import CachingProxy.Url.Script
import CachingProxy.Url.SpellingTable
import CachingProxy.Url.VariantTable

namespace CachingProxy.Domain

open Script

def isForbidden (c : Char) : Bool :=
  c.toNat ≤ 0x20 || c.toNat == 0x7F || "%#/:<>?@[\\]^|".toList.contains c

def spelling? (n : Nat) : Option (List Char) :=
  SpellingTable.words.findSome? fun (first, s) =>
    if first ≤ n ∧ n < first + s.length then
      (Text.split ' ' s.toList)[n - first]?.filter (· ≠ [])
    else none

def foldOf? (n : Nat) : Option Char :=
  (VariantTable.folds.find? fun f =>
    f.first ≤ n && n ≤ f.last && (n - f.first) % f.step == 0).map fun f =>
      Char.ofNat (f.target + (n - f.first))

def letter? (n : Nat) : Option Char :=
  VariantTable.letters.findSome? fun (first, s) =>
    if first ≤ n then s.toList[n - first]?.filter (· ≠ ' ') else none

/-- What a character stands for in a name, unless it is refused. -/
def fold? (c : Char) : Option (List Char) :=
  let n := c.toNat
  if isAscii c then some [c.toLower]
  else if inRanges c DomainTable.dropped then some []
  else if inRanges c DomainTable.refused then none
  else match spelling? n with
    | some s => some s
    | none => some [(foldOf? n <|> letter? n).getD c]

def longestLabel : Nat := 1000

/-- Whether a label may stand in a name: its characters stand for themselves and are composed, and
each of them may stand where it does. -/
def isSettled (l : List Char) : Bool :=
  l.length ≤ longestLabel && l.all (fun c => fold? c == some [c] && !isForbidden c) &&
    Canonical.compose l == l && !l.head?.any isMark && joinsWell [] l

def punycodeMark : List Char := "xn--".toList

def longestCode : Nat := 2000

def encode (l : List Char) : List Char :=
  if l.all isAscii then l else punycodeMark ++ Punycode.encode l

/-- What a label that claims to be in Punycode spells: it has to be the ASCII form of a proper label
that has characters beyond ASCII. -/
def decode? (l : List Char) : Option (List Char) :=
  let code := l.drop punycodeMark.length
  if longestCode < code.length then none
  else (Punycode.decode? code).filter fun d => !d.all isAscii && isSettled d && encode d == l

def label? (l : List Char) : Option (List Char) :=
  if l.any isForbidden then none
  else if Text.startsWith punycodeMark l then decode? l
  else if l.all isAscii || isSettled l then some l
  else none

def join (ls : List (List Char)) : List Char := ['.'].intercalate ls

/-- The ASCII form of a name, if it is one. A letter and the marks on it count as one character where
there is one for them. -/
def ascii? (name : Bytes) : Option (List Char) := do
  let s ← name.text?
  let folded ← s.toList.mapM fold?
  let labels ← (Text.split '.' (Canonical.compose folded.flatten)).mapM label?
  if directionsAgree labels then some (join (labels.map encode)) else none

end CachingProxy.Domain
