import CachingProxy.Failure
import CachingProxy.Flight.Delivery

namespace CachingProxy.Follower

/-- The head of the follower's answer, and whether a body follows. The follower is given its first
delivery, or nothing if none will ever come. -/
def answer : Option Delivery → Except Failure (Head × Bool)
  | some (.head h last) => .ok (h.marked .coalesced, !last)
  | some (.chunk _ _) => .error ⟨.internal, "Coalesced body arrived before headers"⟩
  | some .reset => .error ⟨.origin, "Coalesced upstream fetch failed"⟩
  | none => .error ⟨.origin, "Coalesced upstream fetch failed"⟩

/-- A piece of the body or the error in its place, and whether the body goes on. -/
def piece : Option Delivery → Except String Bytes × Bool
  | some (.chunk b last) => (.ok b, !last)
  | some (.head _ _) => (.error "duplicate coalesced headers", false)
  | some .reset => (.error "coalesced upstream fetch aborted", false)
  | none => (.error "coalesced upstream fetch aborted", false)

/-- The bytes read from these deliveries, and how the body ended: well, with an error, or not yet.
Nothing comes after the last delivery once `closed`. -/
def readBody (closed : Bool) : List Delivery → Bytes × Option (Except String Unit)
  | [] => ([], if closed then some (.error "coalesced upstream fetch aborted") else none)
  | d :: r =>
    match piece (some d) with
    | (.error e, _) => ([], some (.error e))
    | (.ok b, false) => (b, some (.ok ()))
    | (.ok b, true) => let (bs, ending) := readBody closed r; (b ++ bs, ending)

end CachingProxy.Follower
