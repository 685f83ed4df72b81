import CachingProxy.Proofs.Relay.Precedence

namespace CachingProxy

namespace Relay

variable {ω : Type} {c c' : Cache ω} {r r' : Relay} {ps : Postings ω} {h : Head}
  {sent upcoming : List Fed} {taken : List Bytes} {lead : Option FlightId}

/-- The relay as if it led no flight and had kept this body all along. -/
def plain (body : Bytes) (r : Relay) : Relay := { r with lead := none, kept := body }

theorem ops_of_bound {g : Head} (bound : r.Bound c lead h sent upcoming taken)
    (stage : r.stage = .storing g) :
    r.ops c =
      if h.isStorable then [.store r.host r.path ⟨h, (Fed.chunks sent).flatten⟩] else [] := by
  have account := bound.account
  simp only [Account, stage] at account
  obtain ⟨rfl, -⟩ := account
  cases storable : g.isStorable with
  | true =>
    have gathered := (gathered_of_bound bound storable stage).2
    simp [ops, stage, gathered, storable]
  | false => cases gathered : r.gathered? c g <;> simp [ops, stage, gathered, storable]

end Relay

namespace Visit

variable {ω : Type} [DecidableEq ω] {s : Exchange ω} {e : Event ω} {es : List (Event ω)} {h : Head}
  {sent : List Fed} {taken : List Bytes} {lead : Option FlightId} {host path : String}

theorem name_step (named : s.relay.host = host ∧ s.relay.path = path) (e : Event ω) :
    (step s e).relay.host = host ∧ (step s e).relay.path = path := by
  obtain ⟨same, rfl⟩ | rfl | ⟨x, rfl, same, -⟩ := step_cases s e
  · rwa [same]
  · exact named
  · rw [same]
    exact Exchange.name_step named x

/-- A relay and the table that its flight is in, whatever the store holds. -/
structure Sails (host path : String) (lead : Option FlightId) (h : Head) (sent : List Fed)
    (s : Exchange ω) (taken : List Bytes) : Prop where
  named : s.relay.host = host ∧ s.relay.path = path
  tidy : s.cache.flights.Tidy
  bound : s.relay.Bound s.cache lead h sent s.upcoming taken

theorem sails_step (sails : Sails host path lead h sent s taken) (e : Event ω)
    (others : ∀ id ∈ lead, ∀ m, e = .exchange (.flights m) → m.drives id = false) :
    Sails host path lead h sent (step s e) (taken ++ taking s e) := by
  obtain ⟨named, tidy, bound⟩ := id sails
  refine ⟨name_step named e, tidy_step tidy e, ?_⟩
  obtain ⟨same, rfl⟩ | rfl | ⟨x, rfl, same, -⟩ := step_cases s e
  · simpa only [taking, List.append_nil, same] using bound
  · simp only [taking, List.append_nil]
    exact ⟨bound.account, bound.leads, bound.shows, bound.kept⟩
  · rw [same]
    cases x with
    | send =>
      simp only [taking, List.append_nil]
      cases upcoming : s.upcoming with
      | nil => simpa only [Exchange.step, upcoming] using bound
      | cons y rest =>
        simp only [Exchange.step, upcoming]
        refine ⟨?_, bound.leads, bound.shows, bound.kept⟩
        have account := bound.account
        rw [upcoming, ← List.singleton_append, ← List.append_assoc] at account
        exact account
    | advance =>
      cases stepped : s.relay.step s.cache with
      | none => simpa only [taking, Exchange.step, stepped, List.append_nil] using bound
      | some y =>
        simp only [taking, Exchange.step, stepped]
        exact Relay.bound_step bound tidy.sound stepped
    | read =>
      obtain ⟨client, read⟩ := s.relay.exists_read s.client
      simp only [taking, List.append_nil, Exchange.step, read]
      exact ⟨bound.account, bound.leads, bound.shows, bound.kept⟩
    | flights m =>
      simp only [taking, List.append_nil]
      have undriven : ∀ id ∈ lead, ∀ n ∈ [m], n.drives id = false := fun id own n mem =>
        List.mem_singleton.mp mem ▸ others id own m rfl
      exact Relay.bound_others bound tidy.sound undriven rfl
    | store _ | execute _ | listen _ =>
      simp only [taking, List.append_nil]
      exact ⟨bound.account, bound.leads, bound.shows, bound.kept⟩

theorem sails_start (prior : List (FlightTable.Move ω)) (store : Store) (host path : String)
    (lead : Option FlightId) (h : Head) (sent : List Fed)
    (known : ∀ id ∈ lead, ((FlightTable.after {} prior).flight? id).isSome = true)
    (undriven : ∀ id ∈ lead, ∀ m ∈ prior, m.drives id = false) :
    Sails host path lead h sent (start prior store host path lead h sent) [] := by
  refine ⟨⟨rfl, rfl⟩, FlightTable.tidy_after prior, ⟨rfl, rfl, rfl⟩, fun _ => rfl, fun id own => ?_,
    fun _ _ => rfl⟩
  obtain ⟨f, there⟩ := Option.isSome_iff_exists.mp (known id own)
  exact ⟨f, there, FlightTable.carries_of_undriven (undriven id own) there⟩

/-- What is seen of an exchange if one looks away from the flights and the followers, and the relay is
taken for one that leads no flight and has kept the body all along. -/
def plain (body : Bytes) (s : Exchange ω) : Exchange ω where
  cache := { store := s.cache.store }
  relay := s.relay.plain body
  upcoming := s.upcoming
  client := s.client
  lines := fun _ => {}

def storing (s : Exchange ω) : Event ω → List Store.Op
  | .exchange .advance => if s.relay.next?.isSome then s.relay.ops s.cache else []
  | _ => []

/-- What the relay itself gives to the store. -/
def stored (s : Exchange ω) (es : List (Event ω)) : List Store.Op := Course.noted step storing s es

theorem store_step (e : Event ω) (alone : ∀ o, e ≠ .exchange (.store o)) :
    (step s e).cache.store = s.cache.store.after (storing s e) := by
  obtain x | _ := e
  · cases x with
    | send => cases upcoming : s.upcoming <;> simp [step, Exchange.step, upcoming, storing]
    | advance => cases becomes : s.relay.next? <;> simp [step_advance, storing, becomes, Exchange.post]
    | read =>
      simp only [step]
      split <;> rfl
    | store o => exact absurd rfl (alone o)
    | flights _ | execute _ | listen _ => rfl
  · rfl

end Visit
end CachingProxy
