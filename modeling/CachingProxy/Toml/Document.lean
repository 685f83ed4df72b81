import CachingProxy.Toml.Quoted
import CachingProxy.Toml.Scalar

namespace CachingProxy.Toml

def skipBlanks (l : List Char) : List Char := l.dropWhile fun c => c == ' ' || c == '\t'

def skipComment? : List Char → Option (List Char)
  | '#' :: r =>
    let (body, rest) := r.span fun c => c != '\n' && c != '\r'
    if body.any isControl then none else some rest
  | l => some l

def endLine? (l : List Char) : Option (List Char) := do
  match ← skipComment? (skipBlanks l) with
  | [] => return []
  | r => cutNewline? r

def skipSpace? : Nat → List Char → Option (List Char)
  | 0, l => some l
  | fuel + 1, l => do
    let r := skipBlanks l
    match ← skipComment? r with
    | [] => return []
    | rest =>
      match cutNewline? rest with
      | some next => skipSpace? fuel next
      | none => if rest.head? = some '\r' then none else return rest

def isKeyChar (c : Char) : Bool := Text.isAlpha c || Text.isDigit c || c == '-' || c == '_'

def readKey (l : List Char) : Option (String × List Char) :=
  match readLine? l with
  | some quoted => quoted.map fun (s, r) => (String.ofList s, r)
  | none =>
    let (name, r) := l.span isKeyChar
    if name = [] then none else some (String.ofList name, r)

/-- How deep arrays and tables in braces may be nested, and how many parts a key may have. -/
def deepest : Nat := 80

/-- A key of at most so many parts with dots between them: those before the last one, the last one,
and what follows it and the blanks after it. -/
def readPath : Nat → List Char → Option (List String × String × List Char)
  | 0, _ => none
  | parts + 1, l => do
    let (key, r) ← readKey (skipBlanks l)
    match skipBlanks r with
    | '.' :: r =>
      let (path, last, r) ← readPath parts r
      return (key :: path, last, r)
    | r => return ([], key, r)

mutual

def readValue : Nat → Nat → List Char → Option (Toml × List Char)
  | 0, _, _ => none
  | fuel + 1, depth, l =>
    match readQuoted? l with
    | some quoted => quoted.map fun (s, r) => (.text (String.ofList s), r)
    | none =>
      match l with
      | '[' :: r =>
        if depth = 0 then none
        else (readItems fuel (depth - 1) r).map fun (vs, r) => (.array vs, r)
      | '{' :: r =>
        if depth = 0 then none
        else (readEntries fuel (depth - 1) [] r).map fun (es, r) => (.table .inline es, r)
      | l => readScalar l

def readItems : Nat → Nat → List Char → Option (List Toml × List Char)
  | 0, _, _ => none
  | fuel + 1, depth, l => do
    match ← skipSpace? l.length l with
    | ']' :: r => return ([], r)
    | l =>
      let (v, r) ← readValue fuel depth l
      match ← skipSpace? r.length r with
      | ',' :: r =>
        let (vs, r) ← readItems fuel depth r
        return (v :: vs, r)
      | ']' :: r => return ([v], r)
      | _ => none

/-- The rest of a table in braces after the brace or a comma, with the entries before it. Unlike the
lines of a document its entries may have line breaks and comments around the equals sign. -/
def readEntries : Nat → Nat → Entries → List Char → Option (Entries × List Char)
  | 0, _, _, _ => none
  | fuel + 1, depth, es, l => do
    match ← skipSpace? l.length l with
    | '}' :: r => return (es, r)
    | l =>
      let (path, key, r) ← readPath deepest l
      match ← skipSpace? r.length r with
      | '=' :: r =>
        let (v, r) ← readValue fuel depth (← skipSpace? r.length r)
        let (_, es) ← addValue path key v .header es
        match ← skipSpace? r.length r with
        | ',' :: r => readEntries fuel depth es r
        | '}' :: r => return (es, r)
        | _ => none
      | _ => none

end

/-- The table that a document describes, as far as it was read, and the path of the table that the
lines that follow add to. -/
structure Draft where
  entries : Entries := []
  current : List String := []

namespace Draft

def change (d : Draft) (path : List String) (f : Change) : Option Draft := do
  let (_, es) ← changeAt false f path .header d.entries
  return { d with entries := es }

end Draft

def readLineOf (d : Draft) (l : List Char) : Option (Draft × List Char) :=
  match l with
  | '[' :: '[' :: r => do
    let (path, key, r) ← readPath deepest r
    match r with
    | ']' :: ']' :: r =>
      let d ← d.change [] (openNext path key)
      return ({ d with current := path ++ [key] }, ← endLine? r)
    | _ => none
  | '[' :: r => do
    let (path, key, r) ← readPath deepest r
    match r with
    | ']' :: r =>
      let d ← d.change [] (openTable path key)
      return ({ d with current := path ++ [key] }, ← endLine? r)
    | _ => none
  | l => do
    let (path, key, r) ← readPath deepest l
    match r with
    | '=' :: r =>
      let (v, r) ← readValue (2 * r.length + 2) deepest (skipBlanks r)
      return (← d.change d.current (addValue path key v), ← endLine? r)
    | _ => none

def readDraft : Nat → Draft → List Char → Option Draft
  | 0, d, _ => some d
  | fuel + 1, d, l => do
    match ← skipSpace? l.length l with
    | [] => return d
    | l =>
      let (d, r) ← readLineOf d l
      readDraft fuel d r

/-- The table that a document describes, unless the document is malformed. A byte order mark at the
beginning does not count. -/
def Entries.parse? (document : String) : Option Entries :=
  let l := match document.toList with
    | '\ufeff' :: r => r
    | l => l
  (readDraft (l.length + 1) {} l).map Draft.entries

end CachingProxy.Toml
