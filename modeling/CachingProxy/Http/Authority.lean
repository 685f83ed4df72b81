import CachingProxy.Text.Plain

namespace CachingProxy

inductive TargetError
  | empty
  | format
  | character
  | authority
  | tooLong
  | schemeTooLong
  deriving DecidableEq

namespace TargetError

def message : TargetError → String
  | empty => "empty string"
  | format => "invalid format"
  | character => "invalid uri character"
  | authority => "invalid authority"
  | tooLong => "uri too long"
  | schemeTooLong => "scheme too long"

end TargetError

structure Authority where
  text : List Char
  deriving DecidableEq

namespace Authority

def isAuthorityChar (c : Char) : Bool :=
  Text.isAlpha c || Text.isDigit c || "!$&'()*+,-.:;=@[]_~".toList.contains c

/-- What has been seen since the last `@` or the last closing bracket (`colons`, `percent`), since
the beginning (`opened`, `closed`), and whether the last character was `@`. -/
structure Seen where
  colons : Nat := 0
  opened : Bool := false
  closed : Bool := false
  percent : Bool := false
  atSign : Bool := false

/-- Reads on to the first `/`, `?` or `#`, or to the end, and returns what it passed and the rest. -/
def scan (s : Seen) : List Char → Except TargetError (Seen × List Char × List Char)
  | [] => .ok (s, [], [])
  | c :: r =>
    let onward (s : Seen) := (scan s r).map fun (s, passed, rest) => (s, c :: passed, rest)
    if c = '/' ∨ c = '?' ∨ c = '#' then .ok (s, [], c :: r)
    else if c = ':' then
      if 8 ≤ s.colons then .error .authority
      else onward { s with colons := s.colons + 1, atSign := false }
    else if c = '[' then
      if s.percent || s.opened then .error .authority
      else onward { s with opened := true, atSign := false }
    else if c = ']' then
      if !s.opened || s.closed then .error .authority
      else onward { s with closed := true, colons := 0, percent := false, atSign := false }
    else if c = '@' then onward { s with colons := 0, percent := false, atSign := true }
    else if c = '%' then onward { s with percent := true, atSign := false }
    else if isAuthorityChar c then onward { s with atSign := false }
    else .error .character

/-- Brackets come in a pair, at most one colon follows the host, user information is followed by
something, and a percent sign stands in user information or in brackets only. -/
def Seen.acceptable (s : Seen) : Bool :=
  s.opened == s.closed && s.colons ≤ 1 && !s.atSign && !s.percent

def read (l : List Char) : Except TargetError (Authority × List Char) :=
  if l = [] then .error .empty
  else do
    let (s, passed, rest) ← scan {} l
    if s.acceptable then .ok (⟨passed⟩, rest) else .error .authority

def parse (l : List Char) : Except TargetError Authority := do
  let (a, rest) ← read l
  if rest = [] then .ok a else .error .character

def afterUser (l : List Char) : List Char := (l.reverse.takeWhile (· ≠ '@')).reverse

/-- The host: in brackets up to the closing one, otherwise up to the first colon. -/
def host (a : Authority) : List Char :=
  let l := afterUser a.text
  if l.head? = some '[' then l.takeWhile (· ≠ ']') ++ [']'] else l.takeWhile (· ≠ ':')

end Authority
end CachingProxy
