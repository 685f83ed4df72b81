import CachingProxy.Follower
import CachingProxy.Proofs.Flight.Transcript
import Mathlib.Data.List.Induction

namespace CachingProxy

/-- What a client has been told: the head of its answer or why there is none, and the pieces of the
body, or an error instead of a piece. -/
structure Client where
  answer : Option (Except Failure Head) := none
  pieces : List (Except String Bytes) := []
  /-- Whether it has stopped asking. -/
  ended : Bool := false

namespace Client

def take (c : Client) (d : Option Delivery) : Client :=
  if c.ended then c
  else match c.answer with
  | none =>
    match Follower.answer d with
    | .ok (h, more) => { c with answer := some (.ok h), ended := !more }
    | .error f => { c with answer := some (.error f), ended := true }
  | some _ =>
    let (p, more) := Follower.piece d
    { c with pieces := c.pieces ++ [p], ended := !more }

def takeAll (c : Client) (ds : List Delivery) : Client := ds.foldl (fun c d => c.take (some d)) c

def body (c : Client) : Bytes :=
  c.pieces.flatMap fun
    | .ok b => b
    | .error _ => []

/-- Whether the client takes its answer for a complete one. -/
def isSatisfied (c : Client) : Prop :=
  c.ended = true ∧ (∃ h, c.answer = some (.ok h)) ∧ ∀ p ∈ c.pieces, ∃ b, p = .ok b

theorem takeAll_append (c : Client) (ds es : List Delivery) :
    c.takeAll (ds ++ es) = (c.takeAll ds).takeAll es := List.foldl_append

end Client

namespace Transcript

def client : Transcript → Client
  | nothing => {}
  | refused => ⟨some (.error ⟨.origin, "Coalesced upstream fetch failed"⟩), [], true⟩
  | bare h => ⟨some (.ok (h.marked .coalesced)), [], true⟩
  | begun h ps => ⟨some (.ok (h.marked .coalesced)), ps.map fun p => .ok p.bytes, false⟩
  | ended h ps b =>
    ⟨some (.ok (h.marked .coalesced)), (ps.map fun p => .ok p.bytes) ++ [.ok b], true⟩
  | broken h ps =>
    ⟨some (.ok (h.marked .coalesced)),
      (ps.map fun p => .ok p.bytes) ++ [.error "coalesced upstream fetch aborted"], true⟩

/-- What the loss of the sender makes of a transcript, as its client sees it. -/
def cut : Transcript → Transcript
  | nothing => refused
  | begun h ps => broken h ps
  | t => t

theorem takeAll_opening (h : Head) (ps : List Piece) :
    Client.takeAll {} (opening h ps) = (begun h ps).client := by
  induction ps using List.reverseRecOn with
  | nil => rfl
  | append_singleton ps p ih =>
    rw [opening_concat, Client.takeAll_append, ih]
    simp [Client.takeAll, client, Client.take, Follower.piece]

theorem takeAll_deliveries (t : Transcript) : Client.takeAll {} t.deliveries = t.client := by
  cases t with
  | nothing | refused | bare h => rfl
  | begun h ps => exact takeAll_opening h ps
  | ended h ps b =>
    rw [deliveries, Client.takeAll_append, takeAll_opening]
    simp [Client.takeAll, client, Client.take, Follower.piece]
  | broken h ps =>
    rw [deliveries, Client.takeAll_append, takeAll_opening]
    simp [Client.takeAll, client, Client.take, Follower.piece]

theorem take_none (t : Transcript) : t.client.take none = t.cut.client := by
  cases t <;> rfl

theorem head?_cut (t : Transcript) : t.cut.head? = t.head? := by cases t <;> rfl

theorem bytes_cut (t : Transcript) : t.cut.bytes = t.bytes := by cases t <;> rfl

theorem isComplete_cut (t : Transcript) : t.cut.isComplete = t.isComplete := by cases t <;> rfl

theorem isOver_cut (t : Transcript) : t.cut.isOver = true := by cases t <;> rfl

theorem client_ended (t : Transcript) : t.client.ended = t.isOver := by cases t <;> rfl

theorem client_body (t : Transcript) : t.client.body = t.bytes := by
  cases t <;> simp [client, Client.body, bytes, List.flatMap_map]

theorem client_isSatisfied_iff (t : Transcript) : t.client.isSatisfied ↔ t.isComplete = true := by
  cases t with
  | ended h ps b =>
    have told : ∀ p ∈ (ended h ps b).client.pieces, ∃ b, p = .ok b := by
      simp only [client, List.mem_append, List.mem_map, List.mem_singleton]
      rintro p (⟨a, -, rfl⟩ | rfl) <;> exact ⟨_, rfl⟩
    exact ⟨fun _ => rfl, fun _ => ⟨rfl, ⟨_, rfl⟩, told⟩⟩
  | nothing | refused | bare _ | begun _ _ | broken _ _ =>
    simp [client, Client.isSatisfied, isComplete]

theorem client_answer_ok {t : Transcript} {h : Head} (answer : t.client.answer = some (.ok h)) :
    ∃ g, t.head? = some g ∧ h = g.marked .coalesced := by
  cases t <;> simp_all [client, head?]

theorem client_answer_of_head {t : Transcript} {g : Head} (named : t.head? = some g) :
    t.client.answer = some (.ok (g.marked .coalesced)) := by
  cases t <;> simp_all [client, head?]

theorem client_answer_error {t : Transcript} {e : Failure}
    (answer : t.client.answer = some (.error e)) :
    e = ⟨.origin, "Coalesced upstream fetch failed"⟩ ∧ t.head? = none ∧ t.isReset = true := by
  cases t <;> simp_all [client, head?, isReset]

theorem client_pieces (t : Transcript) :
    ∃ bs : List Bytes, t.client.pieces = bs.map .ok ∨
      t.client.pieces = bs.map .ok ++ [.error "coalesced upstream fetch aborted"] ∧
        t.isReset = true := by
  cases t with
  | nothing | refused | bare _ => exact ⟨[], .inl rfl⟩
  | begun _ ps => exact ⟨ps.map Piece.bytes, .inl (by simp [client])⟩
  | ended _ ps b => exact ⟨ps.map Piece.bytes ++ [b], .inl (by simp [client])⟩
  | broken _ ps => exact ⟨ps.map Piece.bytes, .inr ⟨by simp [client], rfl⟩⟩

theorem client_orderly (t : Transcript) :
    t.client.answer ≠ some (.error ⟨.internal, "Coalesced body arrived before headers"⟩) ∧
      .error "duplicate coalesced headers" ∉ t.client.pieces := by
  cases t <;> simp [client]

theorem exists_of_prefix {t : Transcript} {ds : List Delivery} (h : ds <+: t.deliveries) :
    ∃ u : Transcript, u.deliveries = ds := by
  have opened {g : Head} {ps : List Piece} (part : ds <+: opening g ps) :
      ∃ u : Transcript, u.deliveries = ds := by
    rcases List.prefix_cons_iff.mp part with rfl | ⟨es, rfl, more⟩
    · exact ⟨.nothing, rfl⟩
    · obtain ⟨qs, -, rfl⟩ := List.prefix_map_iff.mp more
      exact ⟨.begun g qs, rfl⟩
  cases t with
  | nothing => exact ⟨.nothing, (List.prefix_nil.mp h).symm⟩
  | refused =>
    rcases List.prefix_cons_iff.mp h with rfl | ⟨es, rfl, more⟩
    · exact ⟨.nothing, rfl⟩
    · exact ⟨.refused, by rw [List.prefix_nil.mp more]; rfl⟩
  | bare g =>
    rcases List.prefix_cons_iff.mp h with rfl | ⟨es, rfl, more⟩
    · exact ⟨.nothing, rfl⟩
    · exact ⟨.bare g, by rw [List.prefix_nil.mp more]; rfl⟩
  | begun g ps => exact opened h
  | ended g ps b =>
    rcases List.prefix_concat_iff.mp h with rfl | part
    · exact ⟨.ended g ps b, rfl⟩
    · exact opened part
  | broken g ps =>
    rcases List.prefix_concat_iff.mp h with rfl | part
    · exact ⟨.broken g ps, rfl⟩
    · exact opened part

end Transcript
end CachingProxy
