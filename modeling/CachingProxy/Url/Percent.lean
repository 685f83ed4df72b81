import CachingProxy.Bytes
import CachingProxy.Text.Plain

namespace CachingProxy.Percent

def upperHex (n : Nat) : Char := if n < 10 then Char.ofNat (48 + n) else Char.ofNat (55 + n)

def byte (b : UInt8) : List Char := ['%', upperHex (b.toNat / 16), upperHex (b.toNat % 16)]

def isControl (c : Char) : Bool := c.toNat < 0x20 || 0x7F ≤ c.toNat

/-- Replaces those in `set`, the control characters and everything beyond ASCII by their UTF-8 bytes. -/
def encode (set : List Char) (l : List Char) : List Char :=
  l.flatMap fun c =>
    if isControl c || set.contains c then (String.utf8EncodeChar c).flatMap byte else [c]

def fragmentSet : List Char := [' ', '"', '<', '>', '`']

def pathSet : List Char := fragmentSet ++ ['#', '?', '{', '}']

def userSet : List Char := pathSet ++ ['/', ':', ';', '=', '@', '[', '\\', ']', '^', '|']

def querySet : List Char := [' ', '"', '#', '<', '>']

def specialQuerySet : List Char := querySet ++ ['\'']

def decode : List Char → Bytes
  | '%' :: a :: b :: r =>
    match Text.hexDigit? a, Text.hexDigit? b with
    | some x, some y => UInt8.ofNat (16 * x + y) :: decode r
    | _, _ => UInt8.ofNat '%'.toNat :: decode (a :: b :: r)
  | c :: r => String.utf8EncodeChar c ++ decode r
  | [] => []

end CachingProxy.Percent
