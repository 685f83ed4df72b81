import CachingProxy.Http.Message
import CachingProxy.Json.Writer

namespace CachingProxy

inductive Fault
  /-- The origin answered badly or stopped in the middle. -/
  | origin
  /-- The origin could not be reached, or not in time. -/
  | unreachable
  /-- The request asks for something impossible. -/
  | request
  | notFound
  | settings
  | internal
  deriving DecidableEq

namespace Fault

def status : Fault → Status
  | origin => .badGateway
  | unreachable => .unavailable
  | request => .badRequest
  | notFound => .notFound
  | settings => .internal
  | internal => .internal

def label : Fault → String
  | origin => "Upstream error: "
  | unreachable => "Upstream unreachable: "
  | request => "Invalid request: "
  | notFound => "Resource not found: "
  | settings => "Configuration error: "
  | internal => "Internal server error: "

end Fault

structure Failure where
  fault : Fault
  detail : String
  deriving DecidableEq

namespace HeaderValue

theorem json_isValue : (Bytes.ofString "application/json").all isFieldByte := by decide

def json : HeaderValue := ⟨Bytes.ofString "application/json", json_isValue⟩

end HeaderValue

def Response.json (s : Status) (text : String) : Response :=
  ⟨⟨s, [(.contentType, .json)]⟩, Bytes.ofString text⟩

namespace Failure

def status (f : Failure) : Status := f.fault.status

/-- The message for a log or for an operator. -/
def message (f : Failure) : String := f.fault.label ++ f.detail

/-- What a client is sent: the detail without the label, and the status once more. -/
def response (f : Failure) : Response :=
  .json f.status
    (Json.object [("error", Json.text f.detail), ("status", Json.natural f.status.code)])

end Failure
end CachingProxy
