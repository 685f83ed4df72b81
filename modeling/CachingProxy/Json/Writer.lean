namespace CachingProxy.Json

def hexDigit (n : Nat) : Char := if n < 10 then Char.ofNat (48 + n) else Char.ofNat (87 + n)

/-- A character inside a quoted text: quote, backslash and control characters are escaped, the
latter by a letter where JSON has one. -/
def escape (c : Char) : List Char :=
  if c = '"' then ['\\', '"']
  else if c = '\\' then ['\\', '\\']
  else if c = '\x08' then ['\\', 'b']
  else if c = '\x0c' then ['\\', 'f']
  else if c = '\n' then ['\\', 'n']
  else if c = '\r' then ['\\', 'r']
  else if c = '\t' then ['\\', 't']
  else if c.toNat < 32 then ['\\', 'u', '0', '0', hexDigit (c.toNat / 16), hexDigit (c.toNat % 16)]
  else [c]

def text (s : String) : String := "\"" ++ String.ofList (s.toList.flatMap escape) ++ "\""

def natural (n : Nat) : String := toString n

def boolean (b : Bool) : String := if b then "true" else "false"

def array (items : List String) : String := "[" ++ ",".intercalate items ++ "]"

def object (members : List (String × String)) : String :=
  "\x7b" ++ ",".intercalate (members.map fun m => text m.1 ++ ":" ++ m.2) ++ "\x7d"

end CachingProxy.Json
