namespace CachingProxy

abbrev Bytes := List UInt8

namespace Bytes

def ofString (s : String) : Bytes := s.toList.flatMap String.utf8EncodeChar

/-- The text whose UTF-8 bytes these are, if there is one. -/
def text? (b : Bytes) : Option String := String.fromUTF8? ⟨b.toArray⟩

def chars (b : Bytes) : List Char := b.map fun x => Char.ofNat x.toNat

end Bytes
end CachingProxy
