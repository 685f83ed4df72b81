import CachingProxy.Assoc
import CachingProxy.Failure

namespace CachingProxy

structure Origin where
  url : String
  timeoutSecs : Nat := 30
  maxRetries : Nat := 3
  headers : Assoc String String := .empty

abbrev Origins := Assoc String Origin

namespace Origins

/-- The origin of a host with the name it has in the settings. A single origin serves every host. -/
def resolve (o : Origins) (host : String) : Except Failure (String × Origin) :=
  match o.get? host with
  | some a => .ok (host, a)
  | none =>
    match o.entries with
    | [only] => .ok only
    | _ => .error ⟨.notFound, "Unknown host: " ++ host⟩

end Origins

namespace Origin

def trimSlashes (l : List Char) : List Char := (l.reverse.dropWhile (· = '/')).reverse

/-- The address of a path at the origin: the origin's own without slashes at its end, and the path,
after a slash if it does not begin with one. -/
def address (o : Origin) (path : String) : String :=
  let base := String.ofList (trimSlashes o.url.toList)
  if path.toList.head? = some '/' then base ++ path else base ++ "/" ++ path

/-- How often a request is tried in all: at least once. -/
def attempts (o : Origin) : Nat := max 1 o.maxRetries

end Origin
end CachingProxy
