import CachingProxy.Url.Domain
import CachingProxy.Url.Percent

namespace CachingProxy

inductive UrlError
  | emptyHost
  | domain
  | port
  | ipv4
  | ipv6
  | hostCharacter
  | relative
  deriving DecidableEq

namespace UrlError

def message : UrlError → String
  | emptyHost => "empty host"
  | domain => "invalid international domain name"
  | port => "invalid port number"
  | ipv4 => "invalid IPv4 address"
  | ipv6 => "invalid IPv6 address"
  | hostCharacter => "invalid domain character"
  | relative => "relative URL without a base"

end UrlError

namespace Ipv4

def ofDigits (base : Nat) (l : List Char) : Option Nat :=
  l.foldl (fun n c => n.bind fun n =>
    (Text.hexDigit? c).bind fun d => if d < base then some (base * n + d) else none) (some 0)

/-- A number in decimal, after a zero in octal, after `0x` in hexadecimal notation. -/
def number? : List Char → Option Nat
  | [] => none
  | '0' :: 'x' :: r => ofDigits 16 r
  | '0' :: 'X' :: r => ofDigits 16 r
  | '0' :: c :: r => ofDigits 8 (c :: r)
  | l => ofDigits 10 l

def parts (l : List Char) : List (List Char) :=
  let ps := Text.split '.' l
  if 1 < ps.length ∧ ps.getLast? = some [] then ps.dropLast else ps

/-- Whether a domain ends in a number, so that it has to be an address. -/
def isMeant (l : List Char) : Bool :=
  match (parts l).getLast? with
  | some p => p ≠ [] && (p.all Text.isDigit || (number? p).isSome)
  | none => false

/-- The value of the numbers from place `k` on, of four places. The last number fills all the places
that are left. -/
def value? (k : Nat) : List Nat → Option Nat
  | [] => none
  | [n] => if n < Nat.pow 256 (4 - k) then some n else none
  | n :: r => if n ≤ 255 then (value? (k + 1) r).map (n * Nat.pow 256 (3 - k) + ·) else none

def parse? (l : List Char) : Option Nat :=
  let ps := parts l
  if 4 < ps.length then none else (ps.mapM number?).bind (value? 0)

def render (a : Nat) : String :=
  ".".intercalate ([3, 2, 1, 0].map fun k => toString (a / Nat.pow 256 k % 256))

end Ipv4

namespace Ipv6

/-- The pieces read so far, and how many of them came before the `::`. -/
structure Reading where
  pieces : List Nat := []
  gap : Option Nat := none

def digits : Nat → Nat → List Char → Nat × List Char
  | 0, n, l => (n, l)
  | _, n, [] => (n, [])
  | k + 1, n, c :: r =>
    match Text.hexDigit? c with
    | some d => digits k (16 * n + d) r
    | none => (n, c :: r)

def octet? (l : List Char) : Option (Nat × List Char) :=
  let ds := l.takeWhile Text.isDigit
  match Ipv4.ofDigits 10 ds with
  | some n =>
    if ds = [] ∨ 255 < n ∨ (1 < ds.length ∧ ds.head? = some '0') then none
    else some (n, l.dropWhile Text.isDigit)
  | none => none

def octets? : Nat → List Char → Option (List Nat)
  | 0, [] => some []
  | 0, _ => none
  | k + 1, l => do
    let (n, r) ← octet? l
    if k = 0 then if r = [] then return [n] else none
    else match r with
      | '.' :: r => return n :: (← octets? k r)
      | _ => none

def read : Nat → Reading → List Char → Option Reading
  | _, s, [] => some s
  | 0, _, _ => none
  | fuel + 1, s, c :: r => do
    if s.pieces.length = 8 then none
    else if c = ':' then
      if s.gap.isSome then none
      else read fuel { pieces := s.pieces ++ [0], gap := some (s.pieces.length + 1) } r
    else
      let l := c :: r
      let (n, rest) := digits 4 0 l
      match rest with
      | [] => return { s with pieces := s.pieces ++ [n] }
      | '.' :: _ =>
        if rest.length = l.length ∨ 6 < s.pieces.length then none
        else match ← octets? 4 l with
          | [a, b, c, d] => return { s with pieces := s.pieces ++ [256 * a + b, 256 * c + d] }
          | _ => none
      | ':' :: rest =>
        if rest = [] then none else read fuel { s with pieces := s.pieces ++ [n] } rest
      | _ => none

def Reading.complete (s : Reading) : Option (List Nat) :=
  match s.gap with
  | some g =>
    if s.pieces.length ≤ 8 then
      some (s.pieces.take g ++ List.replicate (8 - s.pieces.length) 0 ++ s.pieces.drop g)
    else none
  | none => if s.pieces.length = 8 then some s.pieces else none

def parse? (l : List Char) : Option (List Nat) := do
  let s ← match l with
    | ':' :: ':' :: r => read (r.length + 1) { pieces := [0], gap := some 1 } r
    | ':' :: _ => none
    | [_] => none
    | [] => none
    | l => read (l.length + 1) {} l
  s.complete

def hexText (n : Nat) : String := String.ofList (Nat.toDigits 16 n)

/-- The place and the length of the longest run of zeros; the first of equally long ones. -/
def longestZeros (ps : List Nat) : Nat × Nat :=
  (List.range ps.length).foldl
    (fun best i =>
      let n := ((ps.drop i).takeWhile (· = 0)).length
      if best.2 < n then (i, n) else best)
    (0, 0)

/-- The pieces in hexadecimal; the longest run of zeros, if it is longer than one, as `::`. -/
def render (ps : List Nat) : String :=
  let (i, n) := longestZeros ps
  let text (ps : List Nat) := ":".intercalate (ps.map hexText)
  if 1 < n then text (ps.take i) ++ "::" ++ text (ps.drop (i + n)) else text ps

end Ipv6

inductive UrlHost
  | domain (name : String)
  | ipv4 (address : Nat)
  | ipv6 (pieces : List Nat)
  deriving DecidableEq

namespace UrlHost

def render : UrlHost → String
  | domain name => name
  | ipv4 a => Ipv4.render a
  | ipv6 ps => "[" ++ Ipv6.render ps ++ "]"

def bracketed (l : List Char) : Except UrlError UrlHost :=
  if l.getLast? = some ']' then
    match Ipv6.parse? (l.drop 1).dropLast with
    | some ps => .ok (.ipv6 ps)
    | none => .error .ipv6
  else .error .ipv6

def parse (l : List Char) : Except UrlError UrlHost :=
  if l.head? = some '[' then bracketed l
  else match Domain.ascii? (Percent.decode l) with
    | none => .error .domain
    | some [] => .error .emptyHost
    | some d =>
      if Ipv4.isMeant d then
        match Ipv4.parse? d with
        | some a => .ok (.ipv4 a)
        | none => .error .ipv4
      else .ok (.domain (String.ofList d))

def isForbidden (c : Char) : Bool :=
  "\x00\t\n\r #/:<>?@[\\]^|".toList.contains c

/-- The host of another scheme; it may be empty. -/
def parseOther (l : List Char) : Except UrlError UrlHost :=
  if l.head? = some '[' then bracketed l
  else if l.any isForbidden then .error .hostCharacter
  else .ok (.domain (String.ofList (Percent.encode [] l)))

end UrlHost
end CachingProxy
