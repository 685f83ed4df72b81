import CachingProxy.Url.Percent

namespace CachingProxy

inductive UrlPath
  | opaqueText (s : String)
  | segments (l : List String)
  deriving DecidableEq

namespace UrlPath

def render : UrlPath → String
  | opaqueText s => s
  | segments l => String.join (l.map fun s => "/" ++ s)

def isSlash (special : Bool) (c : Char) : Bool := c == '/' || (special && c == '\\')

def doubleDots : List String :=
  ["..", "%2e%2e", "%2e%2E", "%2E%2e", "%2E%2E", "%2e.", "%2E.", ".%2e", ".%2E"]

def singleDots : List String := [".", "%2e", "%2E"]

/-- The pieces between slashes, of which the first is what comes before the first slash. -/
def pieces (special : Bool) : List Char → List (List Char)
  | [] => [[]]
  | c :: r =>
    match pieces special r with
    | [] => [[c]]
    | p :: ps => if isSlash special c then [] :: p :: ps else (c :: p) :: ps

/-- A letter and a colon or a bar. -/
def isDrive : List Char → Bool
  | [a, b] => Text.isAlpha a && (b == ':' || b == '|')
  | _ => false

/-- The segments without the last one. A drive stays, also one with a backslash after it. -/
def dropLast (done : List String) : List String :=
  match done.getLast? with
  | some s => if isDrive (s.toList.takeWhile (· ≠ '\\')) then done else done.dropLast
  | none => []

/-- The segments with one more. A drive at the beginning of the path of a file gets a colon. -/
def place (isFile : Bool) (done : List String) (s : String) : List String :=
  match s.toList with
  | [a, b] =>
    if isFile && done.isEmpty && isDrive [a, b] then [String.ofList [a, ':']] else done ++ [s]
  | _ => done ++ [s]

/-- The segments of a path: a double dot takes the one before it away, and a dot of either kind at
the end leaves an empty segment. -/
def resolveDots (isFile : Bool) : List String → List String → List String
  | done, [] => done
  | done, s :: r =>
    if doubleDots.contains s then
      resolveDots isFile (dropLast done ++ if r = [] then [""] else []) r
    else if singleDots.contains s then resolveDots isFile (done ++ if r = [] then [""] else []) r
    else resolveDots isFile (place isFile done s) r

def encodePieces (l : List (List Char)) : List String :=
  l.map fun p => String.ofList (Percent.encode Percent.pathSet p)

def dropSlash (special : Bool) : List Char → List Char
  | [] => []
  | c :: r => if isSlash special c then r else c :: r

/-- The path after a host; in the schemes that the web knows it has at least one segment. -/
def read (special : Bool) (l : List Char) : UrlPath :=
  if l = [] then .segments (if special then [""] else [])
  else .segments (resolveDots false [] (encodePieces (pieces special (dropSlash special l))))

def readFile (l : List Char) : List String := resolveDots true [] (encodePieces (pieces true l))

def beginsWithDrive (l : List String) : Bool := l.head?.any fun s => isDrive s.toList

/-- The path of a file has no empty segments at the beginning, unless nothing follows them. -/
def ofFile (l : List String) : UrlPath :=
  match l.dropWhile (· = "") with
  | [] => .segments [""]
  | l => .segments l

end UrlPath
end CachingProxy
