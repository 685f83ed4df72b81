import CachingProxy.Desk.Relays
import CachingProxy.Proofs.Relay.Moves
import CachingProxy.Proofs.Relay.Turns

namespace CachingProxy.Desk

variable {α β : Type} {asked : String → String → Prop} {d e : Desk}

/-- Every relay is for a host and a path that were asked for. -/
def Asked (asked : String → String → Prop) (d : Desk) : Prop :=
  ∀ id r, d.relays.get? id = some r → asked r.host r.path

structure Aside (asked : String → String → Prop) (d e : Desk) : Prop where
  store : e.cache.store = d.cache.store
  asked : e.Asked asked

theorem Aside.refl (asks : d.Asked asked) : Aside asked d d := ⟨rfl, asks⟩

theorem Aside.trans {f : Desk} (first : Aside asked d e) (second : Aside asked e f) : Aside asked d f :=
  ⟨second.store.trans first.store, second.asked⟩

theorem aside_of_eq (asks : d.Asked asked) (store : e.cache.store = d.cache.store)
    (relays : e.relays = d.relays) : Aside asked d e :=
  ⟨store, fun id r there => asks id r (relays ▸ there)⟩

theorem asked_set {id : RelayId} {r : Relay} (asks : d.Asked asked)
    (relays : e.relays = d.relays.set id r) (own : asked r.host r.path) : e.Asked asked := by
  intro j q there
  rw [relays, Assoc.get?_set] at there
  split at there
  · cases there
    exact own
  · exact asks j q there

/-- The store is left alone meanwhile, and no relay is for anything else than was asked for. -/
def Quiet (asked : String → String → Prop) (a : Run α) : Prop :=
  ∀ d, d.Asked asked → Aside asked d (StateT.run a d).2

theorem run_modify (f : Desk → Desk) (d : Desk) : (StateT.run (modify f : Run Unit) d).2 = f d := rfl

namespace Quiet

theorem pure (x : α) : Quiet asked (pure x) := fun _ => .refl

theorem get : Quiet asked get := fun _ => .refl

theorem modify {f : Desk → Desk}
    (same : ∀ d, (f d).cache.store = d.cache.store ∧ (f d).relays = d.relays) :
    Quiet asked (modify f) := fun d asks => aside_of_eq asks (same d).1 (same d).2

theorem bind {a : Run α} {f : α → Run β} (first : Quiet asked a) (rest : ∀ x, Quiet asked (f x)) :
    Quiet asked (a >>= f) := fun d asks => (first d asks).trans (rest _ _ (first d asks).asked)

end Quiet

theorem run_bind (a : Act α) (f : α → Act β) (d : Desk) :
    StateT.run (ExceptT.run (a >>= f)) d =
      match StateT.run (ExceptT.run a) d with
      | (.ok x, e) => StateT.run (ExceptT.run (f x)) e
      | (.error r, e) => (Except.error r, e) := by
  have run : StateT.run (ExceptT.run (a >>= f)) d =
      let (r, e) : Except Refusal α × Desk := StateT.run (ExceptT.run a) d
      StateT.run (ExceptT.bindCont f r) e := rfl
  rw [run]
  generalize StateT.run (ExceptT.run a) d = y
  obtain ⟨_ | _, e⟩ := y <;> rfl

theorem run_get (d : Desk) : StateT.run (ExceptT.run (get : Act Desk)) d = (Except.ok d, d) := rfl

theorem run_named (table : Desk → Assoc String α) (name : String) (d : Desk) :
    StateT.run (ExceptT.run (named table name)) d =
      (match (table d).get? name with
        | some a => Except.ok a
        | none => Except.error (.gone name), d) := by
  rw [named, run_bind, run_get]
  cases here : (table d).get? name <;> simp only [here] <;> rfl

def QuietAct (asked : String → String → Prop) (a : Act α) : Prop := Quiet asked (ExceptT.run a)

namespace QuietAct

theorem pure (x : α) : QuietAct asked (pure x) := Quiet.pure _

theorem throw (e : Refusal) : QuietAct asked (throw e : Act α) := Quiet.pure _

theorem lift {a : Run α} (quiet : Quiet asked a) : QuietAct asked (liftM a) := fun d => quiet d

theorem get : QuietAct asked get := Quiet.get

theorem bind_of {P : α → Prop} {a : Act α} {f : α → Act β} (first : QuietAct asked a)
    (brings : ∀ d x, d.Asked asked → (StateT.run (ExceptT.run a) d).1 = .ok x → P x)
    (rest : ∀ x, P x → QuietAct asked (f x)) : QuietAct asked (a >>= f) := by
  intro d asks
  have aside := first d asks
  have brought := brings d
  rw [run_bind]
  generalize StateT.run (ExceptT.run a) d = y at aside brought ⊢
  obtain ⟨_ | x, e⟩ := y
  · exact aside
  · exact aside.trans (rest x (brought x asks rfl) e aside.asked)

theorem bind {a : Act α} {f : α → Act β} (first : QuietAct asked a)
    (rest : ∀ x, QuietAct asked (f x)) : QuietAct asked (a >>= f) :=
  first.bind_of (fun _ _ _ _ => trivial) fun x _ => rest x

theorem named {table : Desk → Assoc String α} {name : String} :
    QuietAct asked (named table name) := by
  refine .bind .get fun d => ?_
  split
  · exact .pure _
  · exact .throw _

end QuietAct

theorem hand_eq (d : Desk) (w : WaiterId) (ds : List Delivery) :
    (d.hand w ds).cache = d.cache ∧ (d.hand w ds).relays = d.relays := by
  unfold hand
  split <;> exact ⟨rfl, rfl⟩

theorem post_eq (d : Desk) (w : WaiterId) (t : Task) :
    (d.post w t).cache = d.cache ∧ (d.post w t).relays = d.relays := by
  unfold post
  split
  · split
    · exact d.hand_eq w t.deliveries
    · exact ⟨rfl, rfl⟩
    · exact ⟨rfl, rfl⟩
  · exact ⟨rfl, rfl⟩

theorem postAll_eq (d : Desk) (ps : Postings WaiterId) :
    (d.postAll ps).cache = d.cache ∧ (d.postAll ps).relays = d.relays := by
  unfold postAll
  induction ps generalizing d with
  | nil => exact ⟨rfl, rfl⟩
  | cons p ps ih =>
    rw [List.foldl_cons, (ih _).1, (ih _).2]
    exact d.post_eq p.1 p.2

theorem aside_dropReader (asks : d.Asked asked) (r : Reader) : Aside asked d (d.dropReader r) := by
  have leaving (id : RelayId) : Aside asked d (dropReader.leaveRelay d id) := by
    unfold dropReader.leaveRelay
    split
    · next r there => exact ⟨rfl, asked_set asks rfl (asks id r there)⟩
    · exact .refl asks
  unfold dropReader
  split
  · exact leaving _
  · exact leaving _
  · exact .refl asks

theorem quiet_addReader (name : String) (r : Reader) : Quiet asked (addReader name r) := by
  intro d asks
  have named : Asked asked { d with readers := d.readers.set name r } := asks
  cases there : d.readers.get? name with
  | none =>
    rw [addReader, run_modify, there]
    exact ⟨rfl, named⟩
  | some old =>
    rw [addReader, run_modify, there]
    exact ⟨(aside_dropReader named _).store, (aside_dropReader named _).asked⟩

theorem quiet_removeReader (name : String) : Quiet asked (removeReader name) :=
  .modify fun _ => ⟨rfl, rfl⟩

theorem quiet_replaceReader (name : String) (r : Reader) : Quiet asked (replaceReader name r) :=
  .modify fun _ => ⟨rfl, rfl⟩

theorem quiet_onFlights (f : FlightTable WaiterId → FlightTable WaiterId × Postings WaiterId) :
    Quiet asked (onFlights f) := by
  refine .modify fun d => ?_
  dsimp only
  rw [(postAll_eq _ _).1, (postAll_eq _ _).2]
  exact ⟨rfl, rfl⟩

theorem quiet_addLead (name : String) (id : FlightId) : Quiet asked (addLead name id) := by
  refine .bind .get fun d => .bind (.modify fun _ => ⟨rfl, rfl⟩) fun _ => ?_
  split
  · exact quiet_onFlights _
  · exact .pure _

theorem quiet_dismiss (name : String) : Quiet asked (dismiss name) := by
  refine .bind .get fun d => ?_
  split
  · refine .bind (quiet_removeReader name) fun _ => .bind (fun d asks => ?_) fun _ => .pure _
    exact aside_dropReader asks _
  · exact .pure _

theorem quiet_nextDelivery (w : WaiterId) : Quiet asked (nextDelivery w) := by
  intro d asks
  simp only [nextDelivery, StateT.run_bind, StateT.run_get, pure_bind]
  split <;> exact ⟨rfl, asks⟩

def handle (name : String) (w : WaiterId) : Arrival Delivery → Act (Option Head)
  | .pending => do replaceReader name (.responding w); return none
  | .item d => respond.conclude name w (some d)
  | .closed => respond.conclude name w none

theorem quiet_respond (name : String) : QuietAct asked (respond name) := by
  have concluding (w : WaiterId) (d : Option Delivery) : QuietAct asked (respond.conclude name w d) := by
    unfold respond.conclude
    split
    · exact .bind (.lift (quiet_replaceReader _ _)) fun _ => .pure _
    · exact .bind (.lift (quiet_removeReader _)) fun _ => .throw _
  have delivered (w : WaiterId) (a : Arrival Delivery) : QuietAct asked (handle name w a) := by
    cases a with
    | item d => exact concluding w _
    | pending => exact .bind (.lift (quiet_replaceReader _ _)) fun _ => .pure _
    | closed => exact concluding w _
  have onward (w : WaiterId) := QuietAct.bind (.lift (quiet_nextDelivery w)) (delivered w)
  refine .bind .named fun r => ?_
  cases r with
  | stream w => exact .bind (.pure w) onward
  | responding w => exact .bind (.pure w) onward
  | pendingHead id => exact .bind (.throw _) onward
  | body s => exact .bind (.throw _) onward

theorem quiet_takeHead (name : String) : QuietAct asked (takeHead name) := by
  refine .bind .named fun r => ?_
  cases r with
  | stream w => exact .throw _
  | responding w => exact .throw _
  | body s => exact .throw _
  | pendingHead id =>
    refine .bind .get fun d => ?_
    split
    · exact .bind (.lift (quiet_replaceReader _ _)) fun _ => .pure _
    · exact .bind (.lift (quiet_removeReader _)) fun _ => .throw _
    · exact .pure _
    · exact .bind (.lift (quiet_removeReader _)) fun _ => .pure _

theorem quiet_nextPiece (s : Source) : Quiet asked (nextPiece s) := by
  cases s with
  | ended => exact .pure _
  | follower w =>
    refine .bind (quiet_nextDelivery w) fun a => ?_
    cases a <;> exact .pure _
  | client id =>
    intro d asks
    simp only [nextPiece, StateT.run_bind, StateT.run_get, pure_bind]
    split
    · next r there =>
      have same : Asked asked { d with relays := d.relays.set id { r with client := r.client.read.1 } } :=
        asked_set asks rfl (asks id r there)
      split <;> exact ⟨rfl, same⟩
    · exact .refl asks

theorem quiet_takePiece (name : String) : QuietAct asked (takePiece name) := by
  have source : QuietAct asked (bodyNamed name "chunk") := by
    refine .bind .named fun r => ?_
    cases r with
    | body s => exact .pure s
    | _ => exact .throw _
  refine .bind source fun s => .bind (.lift (quiet_nextPiece s)) fun x =>
    .bind (.lift (quiet_replaceReader _ _)) fun _ => ?_
  split
  · exact .pure _
  · exact .throw _
  · exact .pure _
  · exact .pure _

theorem quiet_relayAt (name : String) (p : Progress) : QuietAct asked (relayAt name p) := by
  refine .bind .named fun f => .bind .get fun d => ?_
  split
  · split
    · exact .pure _
    · exact .throw _
  · exact .throw _

theorem asked_relayAt {name : String} {p : Progress} (d : Desk) (x : RelayId × Relay)
    (asks : d.Asked asked) (found : (StateT.run (ExceptT.run (relayAt name p)) d).1 = .ok x) :
    asked x.2.host x.2.path := by
  rw [relayAt, run_bind, run_named] at found
  cases fetch : d.fetches.get? name with
  | none =>
    rw [fetch] at found
    cases found
  | some f =>
    rw [fetch] at found
    simp only [run_bind, run_get] at found
    split at found
    · next r there =>
      split at found
      · cases found
        exact asks f.relay r there
      · cases found
    · cases found

theorem quiet_setRelay (id : RelayId) {r : Relay} (own : asked r.host r.path) :
    Quiet asked (setRelay id r) := fun _ asks => ⟨rfl, asked_set asks rfl own⟩

theorem quiet_setProgress (name : String) (id : RelayId) (p : Progress) :
    Quiet asked (setProgress name id p) := .modify fun _ => ⟨rfl, rfl⟩

theorem quiet_completeFetch (name : String) (f : Fetched) : QuietAct asked (completeFetch name f) := by
  refine .bind_of (quiet_relayAt name .asked) asked_relayAt fun x own =>
    .bind (.lift ?_) fun _ => .lift (quiet_setProgress _ _ _)
  exact quiet_setRelay _ own

theorem quiet_feed (name : String) (fs : List Fed) : QuietAct asked (feed name fs) := by
  refine .bind_of (quiet_relayAt name .sending) asked_relayAt fun x own => ?_
  dsimp only
  split
  · refine .bind (.lift ?_) fun _ => .pure _
    exact quiet_setRelay _ own
  · exact .pure _

theorem quiet_feedEnd (name : String) : QuietAct asked (feedEnd name) := by
  refine .bind_of (quiet_relayAt name .sending) asked_relayAt fun x own =>
    .bind (.lift ?_) fun _ => .lift (quiet_setProgress _ _ _)
  exact quiet_setRelay _ own

theorem aside_dropFetch (asks : d.Asked asked) (f : Fetch) : Aside asked d (d.dropFetch f) := by
  unfold dropFetch
  split
  · next r there =>
    have own := asks f.relay r there
    split
    · exact ⟨rfl, asked_set asks rfl own⟩
    · exact ⟨rfl, asked_set asks rfl own⟩
    · exact .refl asks
  · exact .refl asks

theorem quiet_takeLead (name : String) : QuietAct asked (takeLead name) :=
  .bind .named fun _ => .bind (.lift (.modify fun _ => ⟨rfl, rfl⟩)) fun _ => .pure _

def letGo (d : Desk) (name : String) : Desk :=
  match d.fetches.get? name with
  | some f => d.dropFetch f
  | none => d

theorem aside_letGo (asks : d.Asked asked) (name : String) : Aside asked d (d.letGo name) := by
  unfold letGo
  split
  · exact aside_dropFetch asks _
  · exact .refl asks

theorem quiet_addRelay {host path : String} (asks : asked host path) (name : String)
    (lead : Option String) : QuietAct asked (addRelay name host path lead) := by
  have onward (led : Option FlightId) : QuietAct asked (do
      let d ← get
      let id := d.nextRelay
      let d := d.letGo name
      set { d with
        relays := d.relays.set id { host, path, lead := led }
        nextRelay := id + 1
        fetches := d.fetches.set name { relay := id } }
      addReader name (.pendingHead id)) := by
    intro d all
    have gone := aside_letGo all name
    have added : Aside asked d { d.letGo name with
        relays := (d.letGo name).relays.set d.nextRelay { host, path, lead := led }
        nextRelay := d.nextRelay + 1
        fetches := (d.letGo name).fetches.set name { relay := d.nextRelay } } :=
      ⟨gone.store, asked_set gone.asked rfl asks⟩
    exact added.trans (quiet_addReader name (.pendingHead d.nextRelay) _ added.asked)
  cases lead with
  | none => exact .bind (.pure _) onward
  | some n => exact .bind (.bind (quiet_takeLead n) fun _ => .pure _) onward

/-- That whatever is brought is like this. -/
def Brings (P : α → Prop) (a : Act α) : Prop :=
  ∀ d x, (StateT.run (ExceptT.run a) d).1 = .ok x → P x

namespace Brings

variable {P : α → Prop}

theorem pure {x : α} (holds : P x) : Brings P (pure x) := by
  intro d y same
  cases same
  exact holds

theorem throw (e : Refusal) : Brings P (throw e : Act α) := by
  intro d x same
  cases same

theorem bind {a : Act β} {f : β → Act α} (rest : ∀ x, Brings P (f x)) : Brings P (a >>= f) := by
  intro d x same
  rw [run_bind] at same
  generalize StateT.run (ExceptT.run a) d = y at same
  obtain ⟨_ | y, e⟩ := y
  · cases same
  · exact rest y e x same

end Brings

theorem respond_marked (name : String) :
    Brings (fun o => ∀ h, o = some h → ∃ h', h = Head.marked h' .coalesced) (respond name) := by
  have concluding (w : WaiterId) (d : Option Delivery) :
      Brings (fun o => ∀ h, o = some h → ∃ h', h = Head.marked h' .coalesced)
        (respond.conclude name w d) := by
    have marked (h : Head) (more : Bool) (answer : Follower.answer d = .ok (h, more)) :
        ∃ h', h = Head.marked h' .coalesced := by
      unfold Follower.answer at answer
      split at answer <;> cases answer
      exact ⟨_, rfl⟩
    unfold respond.conclude
    split
    · next h more answer =>
      refine .bind fun _ => .pure ?_
      rintro _ ⟨⟩
      exact marked h more answer
    · exact .bind fun _ => .throw _
  have delivered (w : WaiterId) (a : Arrival Delivery) :
      Brings (fun o => ∀ h, o = some h → ∃ h', h = Head.marked h' .coalesced) (handle name w a) := by
    cases a with
    | item d => exact concluding w _
    | pending => exact .bind fun _ => .pure (by rintro _ ⟨⟩)
    | closed => exact concluding w _
  have onward (w : WaiterId) := Brings.bind (a := liftM (nextDelivery w)) (delivered w)
  refine .bind fun r => ?_
  cases r with
  | stream w => exact .bind onward
  | responding w => exact .bind onward
  | pendingHead id => exact .bind onward
  | body s => exact .bind onward

end CachingProxy.Desk
