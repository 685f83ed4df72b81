import CachingProxy.Text.Plain

namespace CachingProxy.Toml

def isControl (c : Char) : Bool := (c.toNat < 0x20 && c != '\t') || c.toNat == 0x7F

def cutNewline? : List Char → Option (List Char)
  | '\n' :: r => some r
  | '\r' :: '\n' :: r => some r
  | _ => none

/-- The character with the code point that `n` hexadecimal digits name, and what follows them. -/
def codePoint? (n : Nat) (l : List Char) : Option (Char × List Char) :=
  let ds := l.take n
  if ds.length = n ∧ ds.all (fun c => (Text.hexDigit? c).isSome) then
    let v := ds.foldl (fun v c => 16 * v + (Text.hexDigit? c).getD 0) 0
    if v < 0xD800 ∨ (0xE000 ≤ v ∧ v ≤ 0x10FFFF) then some (Char.ofNat v, l.drop n) else none
  else none

def escape? : List Char → Option (Char × List Char)
  | 'b' :: r => some ('\x08', r)
  | 't' :: r => some ('\t', r)
  | 'n' :: r => some ('\n', r)
  | 'f' :: r => some ('\x0c', r)
  | 'r' :: r => some ('\r', r)
  | 'e' :: r => some ('\x1b', r)
  | '"' :: r => some ('"', r)
  | '\\' :: r => some ('\\', r)
  | 'x' :: r => codePoint? 2 r
  | 'u' :: r => codePoint? 4 r
  | 'U' :: r => codePoint? 8 r
  | _ => none

def basic : Nat → List Char → Option (List Char × List Char)
  | 0, _ => none
  | _, [] => none
  | fuel + 1, c :: r =>
    if c = '"' then some ([], r)
    else if c = '\\' then do
      let (d, r) ← escape? r
      let (s, r) ← basic fuel r
      return (d :: s, r)
    else if isControl c then none
    else do
      let (s, r) ← basic fuel r
      return (c :: s, r)

def literal : List Char → Option (List Char × List Char)
  | [] => none
  | c :: r =>
    if c = '\'' then some ([], r)
    else if isControl c then none
    else (literal r).map fun (s, r) => (c :: s, r)

def skipLines (l : List Char) : List Char :=
  l.dropWhile fun c => c == ' ' || c == '\t' || c == '\n' || c == '\r'

def continued? (l : List Char) : Option (List Char) :=
  (cutNewline? (l.dropWhile fun c => c == ' ' || c == '\t')).map skipLines

/-- Whether the line breaks among the skipped characters are proper ones. -/
def properLines : List Char → Bool
  | [] => true
  | '\r' :: '\n' :: r => properLines r
  | '\r' :: _ => false
  | c :: r => !(c == ' ' || c == '\t' || c == '\n') || properLines r

/-- The end of a text over several lines: up to two quotes before the closing three belong to it. -/
def closing? (quote : Char) : List Char → Option (List Char × List Char)
  | a :: b :: c :: r =>
    if a = quote ∧ b = quote ∧ c = quote then
      let more := (r.takeWhile (· = quote)).take 2
      some (more, r.drop more.length)
    else none
  | _ => none

/-- A text over several lines, up to its closing quotes; with `escapes` a backslash is special. -/
def lines (quote : Char) (escapes : Bool) : Nat → List Char → Option (List Char × List Char)
  | 0, _ => none
  | _, [] => none
  | fuel + 1, c :: r =>
    match closing? quote (c :: r) with
    | some ended => some ended
    | none =>
      if c = '\\' ∧ escapes then
        match continued? r with
        | some rest =>
          if properLines (r.dropWhile fun c => c == ' ' || c == '\t') then
            lines quote escapes fuel rest
          else none
        | none => do
          let (d, r) ← escape? r
          let (s, r) ← lines quote escapes fuel r
          return (d :: s, r)
      else
        match cutNewline? (c :: r) with
        | some rest => do
          let (s, r) ← lines quote escapes fuel rest
          return ((c :: r).take ((c :: r).length - rest.length) ++ s, r)
        | none =>
          if isControl c then none
          else do
            let (s, r) ← lines quote escapes fuel r
            return (c :: s, r)

def readLines (quote : Char) (escapes : Bool) (l : List Char) : Option (List Char × List Char) :=
  lines quote escapes (l.length + 1) ((cutNewline? l).getD l)

def readLine? : List Char → Option (Option (List Char × List Char))
  | '"' :: r => some (basic (r.length + 1) r)
  | '\'' :: r => some (literal r)
  | _ => none

/-- A quoted text, and what follows it; the outer option says whether a quote comes first. -/
def readQuoted? : List Char → Option (Option (List Char × List Char))
  | '"' :: '"' :: '"' :: r => some (readLines '"' true r)
  | '\'' :: '\'' :: '\'' :: r => some (readLines '\'' false r)
  | l => readLine? l

end CachingProxy.Toml
