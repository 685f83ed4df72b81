import CachingProxy.Url.Host
import CachingProxy.Url.Path

namespace CachingProxy

structure Url where
  scheme : String
  username : String := ""
  password : Option String := none
  host : Option UrlHost := none
  tcpPort : Option Nat := none
  path : UrlPath := .segments []
  query : Option String := none
  fragment : Option String := none
  deriving DecidableEq

namespace Url

open UrlPath (isSlash)

/-- The port number that a scheme implies; only the schemes that the web knows have one. -/
def impliedPort? (scheme : String) : Option Nat :=
  if scheme = "http" ∨ scheme = "ws" then some 80
  else if scheme = "https" ∨ scheme = "wss" then some 443
  else if scheme = "ftp" then some 21
  else none

def isSpecial (scheme : String) : Bool := (impliedPort? scheme).isSome || scheme == "file"

/-- Blanks and control characters at both ends do not count, and line breaks and tabs nowhere. -/
def clean (l : List Char) : List Char :=
  let outside (c : Char) := c.toNat ≤ 0x20
  let l := ((l.dropWhile outside).reverse.dropWhile outside).reverse
  l.filter fun c => !(c == '\t' || c == '\n' || c == '\r')

def cutScheme? (l : List Char) : Option (String × List Char) :=
  let isSchemeChar (c : Char) :=
    Text.isAlpha c || Text.isDigit c || c == '+' || c == '-' || c == '.'
  let name := l.takeWhile isSchemeChar
  match l.dropWhile isSchemeChar with
  | ':' :: r =>
    if name.head?.any Text.isAlpha then some (String.ofList (Text.lower name), r) else none
  | _ => none

def cutUser (l : List Char) : Option (List Char) × List Char :=
  let after := (l.reverse.takeWhile (· ≠ '@')).reverse
  if after.length < l.length then (some (l.take (l.length - after.length - 1)), after)
  else (none, l)

def cutColon (l : List Char) : List Char × Option (List Char) :=
  match l.dropWhile (· ≠ ':') with
  | [] => (l, none)
  | _ :: r => (l.takeWhile (· ≠ ':'), some r)

/-- The host, up to the first colon that is not in brackets, and the rest. -/
def cutHost (inBrackets : Bool) : List Char → List Char × List Char
  | [] => ([], [])
  | c :: r =>
    if c = ':' ∧ !inBrackets then ([], c :: r)
    else
      let (h, rest) := cutHost (if c = '[' then true else if c = ']' then false else inBrackets) r
      (c :: h, rest)

/-- Decimal digits up to 65535, at the end or before a backslash, and the rest; none is no number,
and neither is the one that the scheme implies. -/
def readPort (scheme : String) (l : List Char) : Except UrlError (Option Nat × List Char) :=
  let (ds, rest) := l.span (· ≠ '\\')
  match Ipv4.ofDigits 10 ds with
  | some n =>
    if 65535 < n then .error .port
    else .ok (if ds = [] ∨ impliedPort? scheme = some n then none else some n, rest)
  | none => .error .port

/-- The part of a URL from the double slash to the path. -/
structure Authority where
  username : String := ""
  password : Option String := none
  host : UrlHost
  tcpPort : Option Nat := none

def readUser (l : List Char) : String × Option String :=
  let (name, password) := cutColon l
  let text (l : List Char) := String.ofList (Percent.encode Percent.userSet l)
  (text name, (password.filter (· ≠ [])).map text)

/-- The authority a text spells, and what is left of the text; `more` says that the URL goes on
after it. -/
def readAuthority (scheme : String) (more : Bool) (l : List Char) :
    Except UrlError (Authority × List Char) := do
  let (user, l) := cutUser l
  let (username, password) := readUser (user.getD [])
  let (h, rest) := cutHost false l
  if h = [] ∧ (isSpecial scheme ∨ rest ≠ [] ∨ (user = some [] ∧ more)) then throw .emptyHost
  let host ← if isSpecial scheme then UrlHost.parse h else UrlHost.parseOther h
  let (tcpPort, rest) ← readPort scheme (rest.drop 1)
  if h = [] ∧ (username ≠ "" ∨ password.isSome) then throw .emptyHost
  return ({ username, password, host, tcpPort }, rest)

def assemble (scheme : String) (a : Option Authority) (path : UrlPath) (query fragment : List Char) :
    Url where
  scheme
  username := (a.map Authority.username).getD ""
  password := a.bind Authority.password
  host := a.map Authority.host
  tcpPort := a.bind Authority.tcpPort
  path
  query :=
    let set := if isSpecial scheme then Percent.specialQuerySet else Percent.querySet
    match query with
    | [] => none
    | _ :: q => some (String.ofList (Percent.encode set q))
  fragment := match fragment with
    | [] => none
    | _ :: f => some (String.ofList (Percent.encode Percent.fragmentSet f))

/-- Text from a double slash on: authority and path. `more` says that a query or a fragment
follows. -/
def readHierarchy (scheme : String) (more : Bool) (l : List Char) :
    Except UrlError (Authority × UrlPath) := do
  let special := isSpecial scheme
  let rest := l.dropWhile (!isSlash special ·)
  let (authority, left) ←
    readAuthority scheme (more || rest ≠ []) (l.takeWhile (!isSlash special ·))
  return (authority, UrlPath.read special (left ++ rest))

/-- The host of a file, which is mostly left out. -/
def readFileHost (l : List Char) : Except UrlError (Option Authority) :=
  if l = [] then .ok none
  else do
    let host ← UrlHost.parse l
    return if host = .domain "localhost" then none else some { host }

/-- Host and path of a file, after the double slash. A drive is no host, and in front of a path that
begins with a drive a host does not count. -/
def readFileHierarchy (l : List Char) : Except UrlError (Option Authority × UrlPath) := do
  let h := l.takeWhile (!isSlash true ·)
  let rest := l.dropWhile (!isSlash true ·)
  if UrlPath.isDrive h then return (none, .ofFile (UrlPath.readFile l))
  match ← readFileHost h with
  | none => return (none, .ofFile (UrlPath.readFile rest))
  | some a =>
    let path := UrlPath.readFile (rest.drop 1)
    return (if UrlPath.beginsWithDrive path then none else some a, .ofFile path)

def readFile (l : List Char) : Except UrlError (Option Authority × UrlPath) :=
  let slashes := (l.takeWhile (isSlash true)).length
  if slashes < 2 then .ok (none, .ofFile (UrlPath.readFile (l.drop slashes)))
  else readFileHierarchy (l.drop 2)

def readMain (scheme : String) (more : Bool) (l : List Char) :
    Except UrlError (Option Authority × UrlPath) :=
  if scheme = "file" then readFile l
  else if isSpecial scheme then
    (readHierarchy scheme more (l.dropWhile (isSlash true))).map fun (a, p) => (some a, p)
  else match l with
  | '/' :: '/' :: r => (readHierarchy scheme more r).map fun (a, p) => (some a, p)
  | '/' :: r => .ok (none, UrlPath.read false ('/' :: r))
  | l => .ok (none, .opaqueText (String.ofList (Percent.encode [] l)))

def parse (s : String) : Except UrlError Url :=
  match cutScheme? (clean s.toList) with
  | none => .error .relative
  | some (scheme, l) => do
    let (beforeFragment, fragment) := l.span (· ≠ '#')
    let (beforeQuery, query) := beforeFragment.span (· ≠ '?')
    let (a, path) ← readMain scheme (query ≠ [] || fragment ≠ []) beforeQuery
    return assemble scheme a path query fragment

def renderUser (u : Url) : String :=
  if u.username = "" ∧ u.password = none then ""
  else u.username ++ (u.password.map (":" ++ ·)).getD "" ++ "@"

/-- Authority and path. A path that begins with two slashes is kept apart from an authority. -/
def renderMain (u : Url) : String :=
  match u.host with
  | some h =>
    "//" ++ u.renderUser ++ h.render ++ (u.tcpPort.map (":" ++ toString ·)).getD "" ++
      u.path.render
  | none =>
    if u.scheme = "file" then "//" ++ u.path.render
    else match u.path with
    | .segments ("" :: _ :: _) => "/." ++ u.path.render
    | p => p.render

def render (u : Url) : String :=
  u.scheme ++ ":" ++ u.renderMain ++ (u.query.map ("?" ++ ·)).getD "" ++
    (u.fragment.map ("#" ++ ·)).getD ""

end Url
end CachingProxy
