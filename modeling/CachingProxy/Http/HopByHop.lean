import CachingProxy.Http.Message

namespace CachingProxy

/-- The names that always concern one connection only. -/
def HeaderName.hopByHop : List HeaderName :=
  [.connection, .proxyAuthenticate, .proxyAuthorization, .te, .trailer, .transferEncoding,
    .upgrade, .keepAlive]

def Headers.connectionNames (h : Headers) : List (List Char) :=
  (h.texts .connection).flatMap fun s => (Text.elements s).filter fun e => e ≠ []

/-- The fields that are passed on. -/
def Headers.endToEnd (h : Headers) : Headers :=
  let named := h.connectionNames
  h.filter fun f => !HeaderName.hopByHop.contains f.1 && !named.contains f.1.text.toList

end CachingProxy
