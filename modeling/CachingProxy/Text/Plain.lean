namespace CachingProxy.Text

/-- The Unicode characters with the property White_Space. -/
def isBlank (c : Char) : Bool :=
  let n := c.toNat
  (9 ≤ n && n ≤ 13) || n == 0x20 || n == 0x85 || n == 0xA0 || n == 0x1680 ||
    (0x2000 ≤ n && n ≤ 0x200A) || n == 0x2028 || n == 0x2029 || n == 0x202F || n == 0x205F ||
    n == 0x3000

/-- The pieces between the occurrences of `sep`; one more than there are occurrences. -/
def split (sep : Char) : List Char → List (List Char)
  | [] => [[]]
  | c :: r =>
    match split sep r with
    | [] => [[c]]
    | p :: ps => if c = sep then [] :: p :: ps else (c :: p) :: ps

theorem split_ne_nil (sep : Char) (l : List Char) : split sep l ≠ [] := by
  cases l with
  | nil => simp [split]
  | cons c r => simp only [split]; split <;> (try split) <;> simp

def trimStart (l : List Char) : List Char := l.dropWhile isBlank

def trimEnd (l : List Char) : List Char := (l.reverse.dropWhile isBlank).reverse

def trim (l : List Char) : List Char := trimEnd (trimStart l)

def lower (l : List Char) : List Char := l.map Char.toLower

def lowerString (s : String) : String := String.ofList (lower s.toList)

/-- The elements of a comma-separated list, trimmed, ASCII letters in lower case. -/
def elements (s : String) : List (List Char) :=
  (split ',' s.toList).map fun p => lower (trim p)

def startsWith (p l : List Char) : Bool := p.isPrefixOf l

def digit? (c : Char) : Option Nat :=
  if '0' ≤ c ∧ c ≤ '9' then some (c.toNat - '0'.toNat) else none

def hexDigit? (c : Char) : Option Nat :=
  if '0' ≤ c ∧ c ≤ '9' then some (c.toNat - '0'.toNat)
  else if 'a' ≤ c ∧ c ≤ 'f' then some (c.toNat - 'a'.toNat + 10)
  else if 'A' ≤ c ∧ c ≤ 'F' then some (c.toNat - 'A'.toNat + 10)
  else none

def isAlpha (c : Char) : Bool := ('a' ≤ c && c ≤ 'z') || ('A' ≤ c && c ≤ 'Z')

def isDigit (c : Char) : Bool := '0' ≤ c && c ≤ '9'

end CachingProxy.Text
