import CachingProxy.Http.Header

namespace CachingProxy

structure Status where
  code : Nat
  inRange : 100 ≤ code ∧ code ≤ 999 := by decide
  deriving DecidableEq

namespace Status

def ofNat? (n : Nat) : Option Status := if h : 100 ≤ n ∧ n ≤ 999 then some ⟨n, h⟩ else none

def ok : Status := ⟨200, by decide⟩
def badRequest : Status := ⟨400, by decide⟩
def notFound : Status := ⟨404, by decide⟩
def methodNotAllowed : Status := ⟨405, by decide⟩
def contentTooLarge : Status := ⟨413, by decide⟩
def unsupportedMediaType : Status := ⟨415, by decide⟩
def unprocessable : Status := ⟨422, by decide⟩
def internal : Status := ⟨500, by decide⟩
def badGateway : Status := ⟨502, by decide⟩
def unavailable : Status := ⟨503, by decide⟩

instance : Inhabited Status := ⟨ok⟩

def isSuccess (s : Status) : Bool := 200 ≤ s.code && s.code < 300

end Status

def isToken (s : String) : Bool := !s.toList.isEmpty && s.toList.all isTokenChar

structure Method where
  text : String
  isMethod : isToken text
  deriving DecidableEq

namespace Method

def ofBytes? (b : Bytes) : Option Method :=
  let s := String.ofList b.chars
  if h : isToken s then some ⟨s, h⟩ else none

def get : Method := ⟨"GET", by decide⟩
def head : Method := ⟨"HEAD", by decide⟩
def post : Method := ⟨"POST", by decide⟩
def connect : Method := ⟨"CONNECT", by decide⟩

end Method

structure Head where
  status : Status
  headers : Headers
  deriving DecidableEq

structure Response where
  head : Head
  body : Bytes
  deriving DecidableEq

namespace Response

def size (r : Response) : Nat := r.body.length

end Response

namespace Head

/-- Only successful answers may be stored. -/
def isStorable (h : Head) : Bool := h.status.isSuccess

end Head

/-- How an answer came about. -/
inductive Provenance
  | hit
  | miss
  | coalesced
  | bypass
  deriving DecidableEq

namespace Provenance

def text : Provenance → String
  | hit => "HIT"
  | miss => "MISS"
  | coalesced => "COALESCED"
  | bypass => "BYPASS"

theorem text_isValue (p : Provenance) : (Bytes.ofString p.text).all isFieldByte := by
  cases p <;> decide

def value (p : Provenance) : HeaderValue := ⟨Bytes.ofString p.text, text_isValue p⟩

end Provenance

/-- The head with `x-cache` naming where the answer came from, and nothing else under that name. -/
def Head.marked (h : Head) (p : Provenance) : Head :=
  { h with headers := h.headers.replace .xCache p.value }

theorem Head.values_marked (h : Head) (p : Provenance) (n : HeaderName) :
    (h.marked p).headers.values n =
      if HeaderName.xCache = n then [p.value] else h.headers.values n :=
  Headers.values_replace _ _ _ _

end CachingProxy
