import CachingProxy.Http.Message

namespace CachingProxy

structure Directives where
  noCache : Bool := false
  noStore : Bool := false
  deriving DecidableEq

/-- The directives in one `cache-control` text: comma-separated, blanks around them ignored, in any
letter case. Only ASCII letters have a letter of either directive as their lower case. -/
def Directives.ofString (s : String) : Directives :=
  let es := Text.elements s
  ⟨es.contains "no-cache".toList, es.contains "no-store".toList⟩

/-- A `pragma` text that consists of `no-cache` alone. -/
def pragmaForbids (s : String) : Bool :=
  Text.lower (Text.trim s.toList) == "no-cache".toList

/-- Whether the fields of a request ask for the store to be passed by. -/
def Headers.forbidStored (h : Headers) : Bool :=
  ((h.texts .cacheControl).map Directives.ofString).any (fun d => d.noCache || d.noStore) ||
    (h.texts .pragma).any pragmaForbids

end CachingProxy
