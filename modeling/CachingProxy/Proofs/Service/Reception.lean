import CachingProxy.Proofs.Course
import CachingProxy.Proofs.Desk.Stock
import CachingProxy.Proofs.Service.Naming
import CachingProxy.Proofs.Service.Tally
import CachingProxy.Service.Router

namespace CachingProxy

open Desk (hits)

namespace Service

variable {v v' w : Service} {name host : String} {nanos : Nat}

structure Kept (v v' : Service) : Prop where
  telemetry : v'.telemetry = v.telemetry
  hits : v'.desk.hits = v.desk.hits

/-- That a request for the host is counted once, and in the store if and only if it was a hit there, under
what the head says about it. -/
def Counts (v v' : Service) (host : String) (h : Head) : Prop :=
  ∃ (w : Service) (p : Provenance) (h' : Head) (nanos : Nat), w.telemetry = v.telemetry ∧
    w.desk.hits = v.desk.hits + (if p = .hit then 1 else 0) ∧
    h = h'.marked p ∧ v' = w.count host p h'.status nanos

/-- That a request is counted just in case it is answered. -/
def Tells (v : Service) (host : String) (r : Service × Step Head) : Prop :=
  match r.2 with
  | .answered h => Counts v r.1 host h
  | _ => Kept v r.1

theorem Kept.trans (first : Kept v w) (second : Kept w v') : Kept v v' :=
  ⟨second.telemetry.trans first.telemetry, second.hits.trans first.hits⟩

theorem Kept.refl (v : Service) : Kept v v := ⟨rfl, rfl⟩

def anything (_ _ : String) : Prop := True

theorem asked_anything (d : Desk) : d.Asked anything := fun _ _ _ => trivial

theorem kept_run {α : Type} {a : Desk.Run α} (quiet : Desk.Quiet anything a) (v : Service) :
    Kept v (v.run a).1 :=
  ⟨rfl, congrArg Store.hits (quiet v.desk (asked_anything _)).store⟩

theorem kept_act {α : Type} {a : Desk.Act α} (quiet : Desk.QuietAct anything a) (v : Service) :
    Kept v (v.act a).1 :=
  ⟨rfl, congrArg Store.hits (quiet v.desk (asked_anything _)).store⟩

theorem kept_of_served {v : Service} {d : Desk} (served : Desk.Served anything v.desk d) :
    Kept v { v with desk := d } :=
  ⟨rfl, served.hits⟩

theorem kept_settle (v : Service) : Kept v v.settle :=
  kept_of_served (Desk.served_settle (asked_anything _))

end Service

def Step.head : Step Response → Step Head
  | .answered a => .answered a.head
  | .failed f => .failed f
  | .pending p => .pending p

namespace Service

theorem tells_accept (v : Service) (name : String) (q : Inquiry) (nanos : Nat) :
    Tells v q.host ((v.accept name q nanos).1, (v.accept name q nanos).2.head) := by
  have counted := Desk.hits_judge v.desk name v.merging q
  have judged : v.run (Desk.judge name v.merging q) =
      ({ v with desk := (StateT.run (Desk.judge name v.merging q) v.desk).2 },
        (StateT.run (Desk.judge name v.merging q) v.desk).1) := rfl
  rw [accept, judged]
  generalize StateT.run (Desk.judge name v.merging q) v.desk = x at counted
  obtain ⟨verdict, d⟩ := x
  cases verdict with
  | bypass => exact ⟨rfl, counted⟩
  | hit a => exact ⟨{ v with desk := d }, .hit, a.head, nanos, rfl, counted, rfl, rfl⟩
  | wait id => exact ⟨rfl, counted⟩
  | lead id =>
    have kept : Kept v { v with desk := d } := ⟨rfl, counted⟩
    exact kept.trans (kept_act (Desk.quiet_addRelay trivial name (some name)) _)
  | fetch =>
    have kept : Kept v { v with desk := d } := ⟨rfl, counted⟩
    exact kept.trans (kept_act (Desk.quiet_addRelay trivial name none) _)

theorem tells_endBypass (v : Service) (host : String) (outcome : Except Failure Head) (nanos : Nat) :
    Tells v host (v.endBypass host outcome nanos) := by
  cases outcome with
  | ok h => exact ⟨v, .bypass, h, nanos, rfl, rfl, rfl, rfl⟩
  | error f => exact Kept.refl v

theorem tells_pollRelay (v : Service) (name host : String) (nanos : Nat) :
    Tells v host (v.pollRelay name host nanos) := by
  have kept := kept_act (Desk.quiet_takeHead name) v
  unfold pollRelay
  generalize v.act (Desk.takeHead name) = x at kept
  obtain ⟨w, r⟩ := x
  split
  · next looked =>
    cases looked
    exact ⟨w, .miss, _, nanos, kept.telemetry, kept.hits, rfl, rfl⟩
  all_goals
    next looked =>
    cases looked
    exact kept

theorem tells_pollFlight (v : Service) (name host : String) (nanos : Nat) :
    Tells v host (v.pollFlight name host nanos) := by
  have kept := kept_act (Desk.quiet_respond name) v
  have marked : ∀ h, (v.act (Desk.respond name)).2 = .ok (some h) →
      ∃ h', h = Head.marked h' .coalesced :=
    fun h brought => Desk.respond_marked name v.desk (some h) brought h rfl
  unfold pollFlight
  generalize v.act (Desk.respond name) = x at kept marked
  obtain ⟨w, r⟩ := x
  split
  · next h looked =>
    cases looked
    obtain ⟨h', rfl⟩ := marked _ rfl
    exact ⟨w, .coalesced, h', nanos, kept.telemetry, kept.hits, rfl, rfl⟩
  all_goals
    next looked =>
    cases looked
    exact kept

theorem tells_expire (v : Service) (name host : String) : Tells v host (v.expire name) :=
  kept_run (Desk.quiet_dismiss name) v

/-- What origins, relays, run loops, readers of bodies and the operator do. -/
inductive Work
  | reply (name : String) (f : Fetched)
  | send (name : String) (fs : List Fed)
  | sendEnd (name : String)
  | relay (id : RelayId) (steps : Nat)
  | execute (loop : Nat)
  | settle
  | read (name : String)
  | obey (o : PurgeOrder)

def work (v : Service) : Work → Service
  | .reply name f => (v.act (Desk.completeFetch name f)).1
  | .send name fs => (v.act (Desk.feed name fs)).1
  | .sendEnd name => (v.act (Desk.feedEnd name)).1
  | .relay id steps => { v with desk := v.desk.runRelay id steps }
  | .execute loop => { v with desk := v.desk.executeTask loop }
  | .settle => v.settle
  | .read name => (v.act (Desk.takePiece name)).1
  | .obey o => (v.obey o).1

theorem kept_work (v : Service) (w : Work) : Kept v (v.work w) := by
  cases w with
  | reply name f => exact kept_act (Desk.quiet_completeFetch name f) v
  | send name fs => exact kept_act (Desk.quiet_feed name fs) v
  | sendEnd name => exact kept_act (Desk.quiet_feedEnd name) v
  | relay id steps => exact kept_of_served (Desk.served_runRelay (asked_anything _) id steps)
  | execute loop => exact kept_of_served (Desk.aside_executeTask (asked_anything _) loop).served
  | settle => exact kept_settle v
  | read name => exact kept_act (Desk.quiet_takePiece name) v
  | obey o =>
    simp only [work, obey]
    split
    · exact ⟨rfl, rfl⟩
    · split <;> exact ⟨rfl, rfl⟩

end Service

/-- A service and its requests that have no answer yet, with their hosts. -/
structure Reception where
  service : Service
  waiting : Assoc String (String × Pending) := .empty

namespace Reception

open Service (Kept Counts Tells Work)

inductive Event
  | arrive (name : String) (r : Request) (nanos : Nat)
  /-- The origin answers a request that bypasses the cache, or cannot be had. -/
  | bypassed (name : String) (outcome : Except Failure Head) (nanos : Nat)
  /-- A request looks for its head. -/
  | look (name : String) (nanos : Nat)
  /-- A request has waited too long for another's fetch. -/
  | expire (name : String)
  | leave (name : String)
  | beside (w : Work)

/-- What an event brings a request. -/
inductive Brought
  | answered (name host : String) (h : Head)
  | failed (name : String) (f : Failure)
  | pending (name host : String) (p : Pending)

def brought (name host : String) : Step Head → Brought
  | .answered h => .answered name host h
  | .failed f => .failed name f
  | .pending p => .pending name host p

/-- The service after an event, and what this brings a request. A request cannot come under a name that is
taken, and what concerns no request that waits does nothing. -/
def perform (x : Reception) : Event → Service × Option Brought
  | .arrive name r nanos =>
    if x.waiting.contains name then (x.service, none)
    else match Service.inquiry? r with
    | .error f => (x.service, some (.failed name f))
    | .ok q =>
      let (v, step) := x.service.accept name q nanos
      (v, some (brought name q.host step.head))
  | .bypassed name outcome nanos =>
    match x.waiting.get? name with
    | some (host, .bypass) => tell name host (x.service.endBypass host outcome nanos)
    | _ => (x.service, none)
  | .look name nanos =>
    match x.waiting.get? name with
    | some (host, .relay) => tell name host (x.service.pollRelay name host nanos)
    | some (host, .flight) => tell name host (x.service.pollFlight name host nanos)
    | _ => (x.service, none)
  | .expire name =>
    match x.waiting.get? name with
    | some (host, .flight) => tell name host (x.service.expire name)
    | _ => (x.service, none)
  | .leave name =>
    if x.waiting.contains name then ((x.service.run (Desk.dismiss name)).1, none)
    else (x.service, none)
  | .beside w => (x.service.work w, none)
where
  tell (name host : String) (r : Service × Step Head) : Service × Option Brought :=
    (r.1, some (brought name host r.2))

def remaining (x : Reception) (e : Event) : Assoc String (String × Pending) :=
  match e, (x.perform e).2 with
  | _, some (.answered name _ _) => x.waiting.erase name
  | _, some (.failed name _) => x.waiting.erase name
  | _, some (.pending name host p) => x.waiting.set name (host, p)
  | .leave name, none => x.waiting.erase name
  | _, none => x.waiting

def step (x : Reception) (e : Event) : Reception := ⟨(x.perform e).1, x.remaining e⟩

abbrev after (x : Reception) (es : List Event) : Reception := Course.after step x es

def given : Option Brought → List (String × Head)
  | some (.answered _ host h) => [(host, h)]
  | _ => []

def answers (x : Reception) (e : Event) : List (String × Head) := given (x.perform e).2

/-- The answers that have been given, in order. -/
abbrev answered (x : Reception) (es : List Event) : List (String × Head) :=
  Course.noted step answers x es

/-- That an answer was given and counted, or none was and the counters are as before. -/
def Accounts (v : Service) (r : Service × Option Brought) : Prop :=
  (∃ host h, given r.2 = [(host, h)] ∧ Counts v r.1 host h) ∨ given r.2 = [] ∧ Kept v r.1

theorem accounts_tell {v : Service} {host : String} {r : Service × Step Head} (tells : Tells v host r)
    (name : String) : Accounts v (perform.tell name host r) := by
  obtain ⟨w, step⟩ := r
  cases step with
  | answered h => exact .inl ⟨host, h, rfl, tells⟩
  | failed f => exact .inr ⟨rfl, tells⟩
  | pending p => exact .inr ⟨rfl, tells⟩

theorem accounts_perform (x : Reception) (e : Event) : Accounts x.service (x.perform e) := by
  have idle : Accounts x.service (x.service, none) := .inr ⟨rfl, Kept.refl _⟩
  cases e with
  | arrive name r nanos =>
    simp only [perform]
    split
    · exact idle
    · split
      · exact .inr ⟨rfl, Kept.refl _⟩
      · exact accounts_tell (x.service.tells_accept name _ nanos) name
  | bypassed name outcome nanos =>
    simp only [perform]
    split
    · exact accounts_tell (x.service.tells_endBypass _ outcome nanos) name
    · exact idle
  | look name nanos =>
    simp only [perform]
    split
    · exact accounts_tell (x.service.tells_pollRelay name _ nanos) name
    · exact accounts_tell (x.service.tells_pollFlight name _ nanos) name
    · exact idle
  | expire name =>
    simp only [perform]
    split
    · exact accounts_tell (x.service.tells_expire name _) name
    · exact idle
  | leave name =>
    simp only [perform]
    split
    · exact .inr ⟨rfl, Service.kept_run (Desk.quiet_dismiss name) x.service⟩
    · exact idle
  | beside w => exact .inr ⟨rfl, Service.kept_work x.service w⟩

/-- The answers to requests for a host with a status and a mark of where they came from. -/
def numberOf (host : String) (s : Status) (p : Provenance) (as : List (String × Head)) : Nat :=
  as.countP fun a => a.1 = host ∧ a.2.status = s ∧ a.2.headers.values .xCache = [p.value]

/-- What the counters say about the answers that were given so far. -/
structure Books (x : Reception) (as : List (String × Head)) : Prop where
  balances : x.service.telemetry.Balances x.service.desk.hits
  requests : ∀ host s p, x.service.telemetry.requestCount host s p = numberOf host s p as

theorem numberOf_append (host : String) (s : Status) (p : Provenance) (as bs : List (String × Head)) :
    numberOf host s p (as ++ bs) = numberOf host s p as + numberOf host s p bs := List.countP_append

theorem value_inj {p p' : Provenance} (same : p.value = p'.value) : p = p' := by
  have each : ∀ p ∈ [Provenance.hit, .miss, .coalesced, .bypass],
      ∀ p' ∈ [Provenance.hit, .miss, .coalesced, .bypass], p.value = p'.value → p = p' := by decide
  exact each p (by cases p <;> decide) p' (by cases p' <;> decide) same

theorem numberOf_marked (host host' : String) (h : Head) (p p' : Provenance) (s : Status) :
    numberOf host' s p' [(host, h.marked p)] =
      if host = host' ∧ h.status = s ∧ p = p' then 1 else 0 := by
  have marks : (h.marked p).headers.values .xCache = [p.value] := by
    rw [Head.values_marked, if_pos rfl]
  have same : [p.value] = [p'.value] ↔ p = p' :=
    ⟨fun e => value_inj (List.cons.inj e).1, fun e => e ▸ rfl⟩
  have status : (h.marked p).status = h.status := rfl
  simp only [numberOf, List.countP_singleton, marks, same, status, decide_eq_true_eq]

theorem books_step {x : Reception} {as : List (String × Head)} (books : x.Books as) (e : Event) :
    (x.step e).Books (as ++ x.answers e) := by
  obtain ⟨host, h, answer, w, p, h', nanos, telemetry, hits, rfl, counted⟩ | ⟨answer, kept⟩ :=
    x.accounts_perform e
  · have service : (x.step e).service = w.count host p h'.status nanos := counted
    have answers : x.answers e = [(host, h'.marked p)] := answer
    rw [answers]
    constructor
    · rw [service]
      have before : w.telemetry.Balances x.service.desk.hits := telemetry ▸ books.balances
      exact hits ▸ Telemetry.balances_count w before
    · intro host' s p'
      rw [service, Telemetry.requestCount_count, telemetry, books.requests, numberOf_append,
        numberOf_marked]
  · have answers : x.answers e = [] := answer
    rw [answers, List.append_nil]
    have telemetry : (x.step e).service.telemetry = x.service.telemetry := kept.telemetry
    have hits : (x.step e).service.desk.hits = x.service.desk.hits := kept.hits
    exact ⟨by rw [telemetry, hits]; exact books.balances, fun host s p => by
      rw [telemetry]; exact books.requests host s p⟩

theorem books_after {x : Reception} (books : x.Books []) (es : List Event) :
    (x.after es).Books (x.answered es) := by
  induction es using List.reverseRecOn with
  | nil => exact books
  | append_singleton es e ih =>
    rw [after, Course.after_append, answered, Course.noted_concat]
    exact books_step ih e

theorem eq_of_new {settings : Settings} {processors : Nat} {v : Service}
    (made : Service.new settings processors = .ok v) :
    ∃ store pool, Store.new settings.cache.capacity = .ok store ∧
      v = ⟨settings.origins, settings.cache.merging, { cache := { store }, pool }, {}⟩ := by
  unfold Service.new Cache.new Desk.new at made
  obtain ⟨cache, cached, made⟩ := ok_of_bind made
  obtain ⟨desk, opened, made⟩ := ok_of_bind made
  obtain ⟨pool, -, opened⟩ := ok_of_bind opened
  obtain ⟨-, -, cached⟩ := ok_of_bind cached
  obtain ⟨store, stored, cached⟩ := ok_of_bind cached
  cases made
  cases opened
  cases cached
  exact ⟨store, pool, stored, rfl⟩

theorem books_new {settings : Settings} {processors : Nat} {v : Service}
    (made : Service.new settings processors = .ok v) : Books { service := v } [] := by
  obtain ⟨store, pool, stored, rfl⟩ := eq_of_new made
  have unused : store.hits = 0 := by
    unfold Store.new at stored
    split at stored
    · cases stored
      rfl
    · cases stored
  refine ⟨?_, fun _ _ _ => rfl⟩
  show ({} : Telemetry).Balances store.hits
  rw [unused]
  exact Telemetry.balances_empty

/-- For a new service, whatever its settings are, and for requests of any kind that come, wait, are
answered, fail, wait too long or are given up in any order while origins answer or fail and tasks are
executed, whenever one looks: the durations counted for a host and where answers came from are as many as
the requests counted there, whatever their status; so are the waiters that were merged; the requests that
an origin answered are those that missed the cache or passed it by; the hits of the store are the requests
counted as hits. Each of the counted requests was answered, with the status and the mark that it is counted
under, and was counted once. An event that gives no answer, such as a failure, leaves all counters as they
are. -/
theorem series_agree {settings : Settings} {processors : Nat} {v : Service}
    (made : Service.new settings processors = .ok v) (es : List Event) :
    let x := Reception.after { service := v } es
    let t := x.service.telemetry
    let hits (x : Reception) := x.service.desk.cache.store.stats.hits
    (∀ host p, t.timedCount host p = t.total fun l => l.1 = host ∧ l.2.2 = p) ∧
    (∀ host, t.coalescedCount host = t.total fun l => l.1 = host ∧ l.2.2 = .coalesced) ∧
    (∀ host s, t.fetchCount host s = t.requestCount host s .miss + t.requestCount host s .bypass) ∧
    hits x = t.total (fun l => l.2.2 = .hit) ∧
    (∀ host s p, t.requestCount host s p =
      numberOf host s p (Reception.answered { service := v } es)) ∧
    ∀ e, (∀ name host h, (x.perform e).2 ≠ some (.answered name host h)) →
      (x.step e).service.telemetry = t ∧ hits (x.step e) = hits x := by
  intro x t hits
  have books : x.Books _ := books_after (books_new made) es
  refine ⟨books.balances.timed, books.balances.coalesced, books.balances.fetched, books.balances.hits,
    books.requests, fun e unanswered => ?_⟩
  obtain ⟨host, h, answer, -⟩ | ⟨-, kept⟩ := x.accounts_perform e
  · unfold given at answer
    split at answer
    · next name host h brought => exact absurd brought (unanswered name host h)
    · cases answer
  · exact ⟨kept.telemetry, kept.hits⟩

def fourRequests : List Event :=
  let request (m : Method) : Request := ⟨m, ⟨none, some "/x"⟩, [(.host, .ofText "a.org")], []⟩
  [.arrive "1" (request .get) 0, .arrive "2" (request .get) 0,
    .beside (.reply "1" (.answered ⟨.ok, []⟩)), .beside .settle, .look "2" 0, .look "1" 0,
    .beside (.sendEnd "1"), .beside .settle, .arrive "3" (request .get) 0,
    .arrive "4" (request .post) 0, .bypassed "4" (.error ⟨.unreachable, "refused"⟩) 0]

def oneOrigin : Settings where
  origins := Assoc.empty.set "a.org" { url := "http://127.0.0.1:1" }

theorem series_agree_of_four :
    ∃ v, Service.new oneOrigin 1 = .ok v ∧
      let x := Reception.after { service := v } fourRequests
      let t := x.service.telemetry
      t.timedCount "a.org" .miss = 1 ∧ t.timedCount "a.org" .hit = 1 ∧
      t.timedCount "a.org" .bypass = 0 ∧ t.coalescedCount "a.org" = 1 ∧ t.fetchCount "a.org" .ok = 1 ∧
      x.service.desk.cache.store.stats.hits = 1 := by
  refine ⟨_, rfl, ?_⟩
  obtain ⟨timed, coalesced, fetched, hits, -, -⟩ := @series_agree oneOrigin 1 _ rfl fourRequests
  refine ⟨(timed _ _).trans ?_, (timed _ _).trans ?_, (timed _ _).trans ?_, (coalesced _).trans ?_,
    (fetched _ _).trans ?_, hits.trans ?_⟩ <;> decide +kernel

end Reception
end CachingProxy
