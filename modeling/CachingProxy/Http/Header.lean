import CachingProxy.Bytes
import CachingProxy.Text.Plain

namespace CachingProxy

def isTokenChar (c : Char) : Bool :=
  Text.isAlpha c || Text.isDigit c || "!#$%&'*+-.^_`|~".toList.contains c

def isNameChar (c : Char) : Bool := isTokenChar c && c.toLower == c

/-- Whether `s` is a field name: a token in lower case, at most 65535 characters long. -/
def isFieldName (s : String) : Bool :=
  !s.toList.isEmpty && decide (s.toList.length ≤ 65535) && s.toList.all isNameChar

structure HeaderName where
  text : String
  isName : isFieldName text
  deriving DecidableEq

namespace HeaderName

def ofBytes? (b : Bytes) : Option HeaderName :=
  let s := String.ofList (Text.lower b.chars)
  if h : isFieldName s then some ⟨s, h⟩ else none

def ofString? (s : String) : Option HeaderName := ofBytes? (Bytes.ofString s)

def accept : HeaderName := ⟨"accept", by decide⟩
def acceptLanguage : HeaderName := ⟨"accept-language", by decide⟩
def allow : HeaderName := ⟨"allow", by decide⟩
def cacheControl : HeaderName := ⟨"cache-control", by decide⟩
def connection : HeaderName := ⟨"connection", by decide⟩
def contentLength : HeaderName := ⟨"content-length", by decide⟩
def contentType : HeaderName := ⟨"content-type", by decide⟩
def host : HeaderName := ⟨"host", by decide⟩
def keepAlive : HeaderName := ⟨"keep-alive", by decide⟩
def pragma : HeaderName := ⟨"pragma", by decide⟩
def proxyAuthenticate : HeaderName := ⟨"proxy-authenticate", by decide⟩
def proxyAuthorization : HeaderName := ⟨"proxy-authorization", by decide⟩
def te : HeaderName := ⟨"te", by decide⟩
def trailer : HeaderName := ⟨"trailer", by decide⟩
def transferEncoding : HeaderName := ⟨"transfer-encoding", by decide⟩
def upgrade : HeaderName := ⟨"upgrade", by decide⟩
def userAgent : HeaderName := ⟨"user-agent", by decide⟩
def xCache : HeaderName := ⟨"x-cache", by decide⟩

end HeaderName

def isFieldByte (b : UInt8) : Bool := (0x20 ≤ b && b != 0x7F) || b == 0x09

structure HeaderValue where
  bytes : Bytes
  isValue : bytes.all isFieldByte
  deriving DecidableEq

namespace HeaderValue

def ofBytes? (b : Bytes) : Option HeaderValue :=
  if h : b.all isFieldByte then some ⟨b, h⟩ else none

def ofString? (s : String) : Option HeaderValue := ofBytes? (Bytes.ofString s)

def isVisible (b : UInt8) : Bool := (0x20 ≤ b && b ≤ 0x7E) || b == 0x09

/-- The value as a text, unless a byte is neither visible ASCII, the space nor TAB. -/
def text? (v : HeaderValue) : Option String :=
  if v.bytes.all isVisible then some (String.ofList v.bytes.chars) else none

end HeaderValue

/-- The fields of a message, in the order in which they were added. -/
abbrev Headers := List (HeaderName × HeaderValue)

namespace Headers

def values (h : Headers) (n : HeaderName) : List HeaderValue :=
  (h.filter fun f => f.1 = n).map Prod.snd

def first? (h : Headers) (n : HeaderName) : Option HeaderValue := (values h n).head?

def texts (h : Headers) (n : HeaderName) : List String :=
  (values h n).filterMap HeaderValue.text?

def without (h : Headers) (n : HeaderName) : Headers := h.filter fun f => f.1 ≠ n

def replace (h : Headers) (n : HeaderName) (v : HeaderValue) : Headers := without h n ++ [(n, v)]

theorem values_replace (h : Headers) (n m : HeaderName) (v : HeaderValue) :
    values (replace h n v) m = if n = m then [v] else values h m := by
  by_cases e : n = m
  · subst e; simp [values, replace, without, List.filter_filter]
  · simp only [values, replace, without, List.filter_append, List.filter_filter, e, if_false]
    simp only [List.filter_cons, e, decide_false, List.filter_nil]
    simp only [Bool.false_eq_true, if_false, List.append_nil]
    congr 1
    apply List.filter_congr
    intro f _
    by_cases hf : f.1 = m
    · simp [hf, Ne.symm e]
    · simp [hf]

end Headers
end CachingProxy
