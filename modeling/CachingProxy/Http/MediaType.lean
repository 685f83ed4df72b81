import CachingProxy.Http.Header

namespace CachingProxy

/-- The type before the slash, the subtype, and what follows the subtype's last `+`. -/
structure MediaType where
  main : List Char
  subtype : List Char
  suffix : Option (List Char)
  deriving DecidableEq

namespace MediaType

def isQuotedChar (c : Char) : Bool := 0x1F < c.toNat && c.toNat ≠ 0x7F

inductive Place
  | name (begun : Bool)
  | value (begun : Bool)
  | quoted (begun : Bool)
  | closed

def parametersOk : Place → List Char → Bool
  | .name begun, [] => !begun
  | .value _, [] => true
  | .quoted _, [] => false
  | .closed, [] => true
  | .name begun, c :: r =>
    if c = ' ' ∧ !begun then parametersOk (.name false) r
    else if isTokenChar c then parametersOk (.name true) r
    else if c = '=' ∧ begun then parametersOk (.value false) r
    else false
  | .value begun, c :: r =>
    if c = '"' ∧ !begun then parametersOk (.quoted false) r
    else if isTokenChar c then parametersOk (.value true) r
    else if c = ';' ∧ begun then parametersOk (.name false) r
    else false
  | .quoted begun, c :: r =>
    if c = '"' ∧ begun then parametersOk .closed r
    else if isQuotedChar c then parametersOk (.quoted true) r
    else false
  | .closed, c :: r =>
    if c = ';' then parametersOk (.name false) r
    else if c = ' ' then parametersOk .closed r
    else false

def cutSuffix (l : List Char) : List Char × Option (List Char) :=
  let after := (l.reverse.takeWhile (· ≠ '+')).reverse
  let before := l.take (l.length - after.length - 1)
  if after.length < l.length ∧ before ≠ [] then (before, some after) else (l, none)

/-- The subtype is followed by the end or at once by a `;`: a blank before it is refused. -/
def parse? (s : String) : Option MediaType :=
  let l := Text.lower s.toList
  let main := l.takeWhile isTokenChar
  match l.dropWhile isTokenChar with
  | '/' :: r =>
    let sub := r.takeWhile isTokenChar
    let (name, suffix) := cutSuffix sub
    let type : MediaType := ⟨main, name, suffix⟩
    if main = [] then none
    else match r.dropWhile isTokenChar with
    | [] => some type
    | c :: ps =>
      if sub ≠ [] ∧ c = ';' ∧ parametersOk (.name false) ps then some type else none
  | _ => none

def isJson (t : MediaType) : Bool :=
  t.main == "application".toList &&
    (t.subtype == "json".toList || t.suffix == some "json".toList)

end MediaType

def Headers.sayJson (h : Headers) : Bool :=
  match (h.first? .contentType).bind HeaderValue.text? with
  | some s => (MediaType.parse? s).any MediaType.isJson
  | none => false

end CachingProxy
