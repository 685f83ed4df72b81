import CachingProxy.Http.Authority
import CachingProxy.Http.Message

namespace CachingProxy

structure Target where
  authority : Option Authority
  pathAndQuery : Option String
  deriving DecidableEq

namespace Target

/-- Path characters; the double quote and the braces are let through though they should come
percent-encoded, and so is everything beyond ASCII. -/
def isPathByte (b : UInt8) : Bool :=
  b == 0x21 || b == 0x22 || (0x24 ≤ b && b ≤ 0x3B) || b == 0x3D || (0x40 ≤ b && b ≤ 0x5F) ||
    (0x61 ≤ b && b != 0x7F)

def isQueryByte (b : UInt8) : Bool :=
  b == 0x21 || (0x24 ≤ b && b ≤ 0x3B) || b == 0x3D || (0x3F ≤ b && b != 0x7F)

/-- Path and query as one text, without the fragment. -/
def readPath (b : Bytes) : Except TargetError String :=
  let isEnd (x : UInt8) := x == 0x3F || x == 0x23
  let path := b.takeWhile (!isEnd ·)
  let rest := b.dropWhile (!isEnd ·)
  let query := if rest.head? = some 0x3F then rest.takeWhile (· != 0x23) else []
  if path.all isPathByte && (query.drop 1).all isQueryByte then
    match Bytes.text? (path ++ query) with
    | some s => .ok s
    | none => .error .character
  else .error .character

def isSchemeChar (c : Char) : Bool :=
  Text.isAlpha c || Text.isDigit c || c == '+' || c == '-' || c == '.' || c == '~'

def schemeLength (l : List Char) : Except TargetError (Option Nat) :=
  let name := l.takeWhile isSchemeChar
  if 3 < l.length ∧ Text.startsWith "://".toList (l.dropWhile isSchemeChar) then
    if 64 < name.length then .error .schemeTooLong else .ok (some (name.length + 3))
  else .ok none

def readFull (b : Bytes) : Except TargetError Target := do
  let l := b.chars
  match ← schemeLength l with
  | none =>
    let (a, rest) ← Authority.read l
    if rest = [] then .ok ⟨some a, none⟩ else .error .format
  | some n =>
    let (a, rest) ← Authority.read (l.drop n)
    if a.text = [] then .error .format
    else .ok ⟨some a, some (← readPath (b.drop (n + (l.drop n).length - rest.length)))⟩

def parse (b : Bytes) : Except TargetError Target :=
  if 65534 < b.length then .error .tooLong
  else match b with
  | [] => .error .empty
  | [0x2F] => .ok ⟨none, some "/"⟩
  | [0x2A] => .ok ⟨none, some "*"⟩
  | [x] => (Authority.parse [Char.ofNat x.toNat]).map fun a => ⟨some a, none⟩
  | 0x2F :: _ => (readPath b).map fun p => ⟨none, some p⟩
  | _ => readFull b

/-- The path alone: `/` when there is a scheme but no path, nothing for an authority alone. -/
def path (t : Target) : String :=
  match t.pathAndQuery with
  | none => ""
  | some s =>
    let p := s.toList.takeWhile (· ≠ '?')
    if p = [] then "/" else String.ofList p

def resource (t : Target) : String :=
  match t.pathAndQuery with
  | none => "/"
  | some s => if s = "" then "/" else s

end Target

/-- The host a request is for, in lower case and without the number of the TCP port: what its
first `host` field names, or its target when there is no such field. -/
def requestHost? (h : Headers) (t : Target) : Option String :=
  let authority := match h.first? .host with
    | some v => v.text?.bind fun s => (Authority.parse s.toList).toOption
    | none => t.authority
  match authority.map fun a => Text.lower a.host with
  | some (c :: r) => some (String.ofList (c :: r))
  | _ => none

end CachingProxy
