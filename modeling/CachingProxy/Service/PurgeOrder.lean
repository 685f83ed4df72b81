import CachingProxy.Json.Reader

namespace CachingProxy

structure PurgeOrder where
  host : Option String := none
  all : Bool := false
  deriving DecidableEq

namespace PurgeOrder

open Json

/-- The members of an object from the first name on. A name that is not known is passed over with
its value; neither of the known ones may come twice. -/
def members : Nat → Option (Option String) → Option Bool → Reader PurgeOrder
  | 0, _, _, _ => .error .malformed
  | fuel + 1, host, all, l => do
    let (q, l) ← peek l
    if q ≠ code '"' then throw .malformed
    let (name, r) ← quoted (l.drop 1)
    if (name = "host" ∧ host.isSome) ∨ (name = "all" ∧ all.isSome) then throw .mismatched
    let (_, r) ← expect (code ':') (skipBlanks r)
    let (host, all, r) ← if name = "host" then
        (readOptionalText r).map fun (h, r) => (some h, all, r)
      else if name = "all" then (readBoolean r).map fun (a, r) => (host, some a, r)
      else (skip (2 * r.length + 2) r).map fun (_, r) => (host, all, r)
    let (b, r) ← peek r
    if b = code ',' then members fuel host all (r.drop 1)
    else if b = code '\x7d' then return (⟨host.getD none, all.getD false⟩, r.drop 1)
    else throw .malformed

/-- The items of an array after its bracket: host and `all`, of which the last may be missing. -/
def items : Reader PurgeOrder := fun l => do
  let (b, l) ← peek l
  if b = code ']' then return ({}, l.drop 1)
  let (host, r) ← readOptionalText l
  let (b, r) ← peek r
  if b = code ']' then return ({ host }, r.drop 1)
  let (_, r) ← expect (code ',') r
  let (b, r) ← peek r
  if b = code ']' then throw .malformed
  let (all, r) ← readBoolean r
  let (_, r) ← expect (code ']') (skipBlanks r)
  return (⟨host, all⟩, r)

def parse (l : Bytes) : Except ReadError PurgeOrder := do
  let (b, l) ← peek l
  let (order, r) ← if b = code '[' then items (l.drop 1)
    else if b = code '\x7b' then do
      let (c, r) ← peek (l.drop 1)
      if c = code '\x7d' then pure ({}, r.drop 1) else members l.length none none r
    else refuse l
  if skipBlanks r = [] then return order else throw .malformed

end PurgeOrder
end CachingProxy
