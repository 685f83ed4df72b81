import CachingProxy.Proofs.Service.Spelling
import CachingProxy.Proofs.Service.Stocking
import CachingProxy.Proofs.Store.Balance

namespace CachingProxy

namespace Assoc

variable {κ α : Type} [DecidableEq κ]

theorem erase_of_absent {t : Assoc κ α} {k : κ} (absent : t.get? k = none) : t.erase k = t := by
  have others : ∀ p ∈ t.entries, decide (p.1 ≠ k) = true := by
    intro p mem
    refine decide_eq_true ?_
    rintro rfl
    have there := (mem_keys_iff t p.1).mp (List.mem_map_of_mem mem)
    rw [absent] at there
    cases there
  obtain ⟨entries, distinct⟩ := t
  simp only [erase, List.filter_eq_self.mpr others]

end Assoc

/-- A request that may be answered from the store, for a path of the host that this field names. -/
structure Request.Asks (r : Request) (value : HeaderValue) (path : String) : Prop where
  method : r.method = .get
  host : r.headers.first? .host = some value
  path : r.target.resource = path
  unbarred : r.headers.forbidStored = false

namespace Service

open Text (lowerString)

/-- The answer that a request would get at once. -/
def finds (s : Service) (r : Request) : Option Response :=
  match inquiry? r with
  | .ok q =>
    match (s.desk.cache.consult s.merging q).2 with
    | some (.hit a) => some a
    | _ => none
  | .error _ => none

def withStore (s : Service) (store : Store) : Service :=
  { s with desk := { s.desk with cache := { s.desk.cache with store } } }

variable {s : Service} {value : HeaderValue} {v host path : String} {t : Target}

theorem requestHost_congr (named : requestHost? [(.host, value)] t = some host) {h : Headers}
    (field : h.first? .host = some value) (t' : Target) : requestHost? h t' = some host := by
  have alone : Headers.first? [(.host, value)] .host = some value := rfl
  simpa only [requestHost?, field, alone] using named

theorem parse_of_field (reads : value.text? = some v)
    (named : requestHost? [(.host, value)] t = some host) :
    ∃ a, Authority.parse v.toList = .ok a := by
  have alone : Headers.first? [(.host, value)] .host = some value := rfl
  simp only [requestHost?, alone, reads, Option.bind_some] at named
  cases parsed : Authority.parse v.toList with
  | ok a => exact ⟨a, rfl⟩
  | error e =>
    rw [parsed] at named
    cases named

theorem finds_eq (named : requestHost? [(.host, value)] t = some host) {r : Request}
    (asks : r.Asks value path) : s.finds r = s.desk.cache.store.peek host path := by
  have asked : inquiry? r = .ok ⟨.get, host, path, r.headers⟩ := by
    rw [inquiry?, requestHost_congr named asks.host, ← asks.method, ← asks.path]
  have cached : Inquiry.passesBy ⟨.get, host, path, r.headers⟩ = false := by
    simp [Inquiry.passesBy, asks.unbarred]
  simp only [finds, asked, Cache.consult, cached, Store.get]
  cases s.desk.cache.store.peek host path with
  | some a => rfl
  | none => cases s.merging <;> rfl

theorem Stocked.exact (stocked : s.Stocked) : s.desk.cache.store.Exact := by
  obtain ⟨capacity, fresh, os, made, now, -⟩ := stocked
  exact now ▸ Store.exact_after (Store.exact_new made).1 os

theorem Stocked.asked (stocked : s.Stocked) {a : Response}
    (held : s.desk.cache.store.peek host path = some a) :
    ∃ r q, inquiry? r = .ok q ∧ q.host = host ∧ q.path = path := by
  obtain ⟨capacity, fresh, os, made, now, asked⟩ := stocked
  obtain ⟨exact, -, empty⟩ := Store.exact_new made
  obtain stored | before := Store.stored_of_peek_after exact (now ▸ held)
  · exact asked host path a stored
  · rw [Store.peek_eq_some_iff exact, (empty host).1] at before
    cases before

theorem Stocked.absent (stocked : s.Stocked)
    (unnamed : ∀ h t, requestHost? h t ≠ some host) : s.desk.cache.store.rings.get? host = none := by
  obtain ⟨capacity, fresh, os, made, now, asked⟩ := stocked
  obtain ⟨-, -, empty⟩ := Store.exact_new made
  have none := (Store.hostSize?_after (empty host).2 os).mpr ?_
  · rw [now]
    exact Option.map_eq_none_iff.mp none
  · intro path a since
    have stored : Store.Op.store host path a ∈ os := List.rtakeWhile_suffix _ os |>.subset since
    obtain ⟨r, q, asks, rfl, -⟩ := asked host path a stored
    unfold inquiry? at asks
    split at asks
    · next found =>
      cases asks
      exact unnamed _ _ found
    · cases asks

theorem Stocked.paths (stocked : s.Stocked) (reads : requestHost? [(.host, value)] t = some host) :
    ∃ paths : List String, paths.Nodup ∧ paths.length = (s.desk.cache.store.hostSize? host).getD 0 ∧
      ∀ path, path ∈ paths ↔ ∃ r : Request, r.Asks value path ∧ (s.finds r).isSome := by
  have shows := stocked.exact host
  refine ⟨(s.desk.cache.store.queue host).paths, shows.holds.distinct, ?_, fun path => ?_⟩
  · rw [Queue.paths, List.length_map, ← shows.holds.size, Store.size_ring]
  · have held : path ∈ (s.desk.cache.store.queue host).paths ↔
        (s.desk.cache.store.peek host path).isSome := by
      rw [← not_iff_not, ← Store.peek_eq_none_iff stocked.exact]
      simp
    rw [held]
    constructor
    · intro there
      obtain ⟨a, there⟩ := Option.isSome_iff_exists.mp there
      obtain ⟨r, q, asked, -, rfl⟩ := stocked.asked there
      have resource : r.target.resource = q.path := by
        unfold inquiry? at asked
        split at asked <;> cases asked
        rfl
      have asks : Request.Asks ⟨.get, r.target, [(.host, value)], []⟩ value q.path :=
        ⟨rfl, rfl, resource, rfl⟩
      exact ⟨_, asks, by rw [finds_eq reads asks, there]; rfl⟩
    · rintro ⟨r, asks, found⟩
      rwa [finds_eq reads asks] at found

/-- For every service that only ever stored answers to what was asked for, and every field that names a
host. An order to forget the host, given in the words of the field, removes just what requests with the
field find, and tells how many paths these are, if the field has the name of the host and nothing else in
it, in whatever letter case: afterwards they find nothing, and what is held for other hosts, in whatever
order, is as it was. If there is more in the field, such as the number of a TCP port, nothing is removed,
and requests with the field find what they found before. In either case the flights stay. An order that
does not say what to forget is refused and changes nothing. -/
theorem forgets_plain_host (stocked : s.Stocked) (reads : value.text? = some v)
    (named : requestHost? [(.host, value)] t = some host) :
    ∃ store n, s.obey { host := some v } = (s.withStore store, .ok n) ∧
      (IsHost v →
        (∃ paths : List String, paths.Nodup ∧ paths.length = n ∧
          ∀ path, path ∈ paths ↔ ∃ r : Request, r.Asks value path ∧ (s.finds r).isSome) ∧
        (∀ path (r : Request), r.Asks value path → (s.withStore store).finds r = none) ∧
        ∀ other, other ≠ host → store.rings.get? other = s.desk.cache.store.rings.get? other) ∧
      (¬IsHost v → n = 0 ∧ s.withStore store = s) ∧
      ∀ order : PurgeOrder, order.all = false → order.host = none →
        s.obey order = (s, .error ⟨.request, "Specify either \"host\" or \"all\""⟩) := by
  let store := s.desk.cache.store
  refine ⟨(store.purge (lowerString v)).1, (store.purge (lowerString v)).2, rfl, fun plain => ?_,
    fun more => ?_, fun order all none => ?_⟩
  · have lower : host = lowerString v := by
      have same := requestHost_of_isHost plain (h := [(.host, value)]) rfl reads t
      exact Option.some.inj (named.symm.trans same)
    subst lower
    refine ⟨stocked.paths named, fun path r asks => ?_, fun other differs => ?_⟩
    · rw [finds_eq named asks]
      simp [withStore, Store.purge, Store.peek, Assoc.get?_erase]
    · simp [Store.purge, Assoc.get?_erase, differs.symm, store]
  · obtain ⟨a, parsed⟩ := parse_of_field reads named
    have absent := stocked.absent fun _ _ => requestHost_ne_of_not_isHost parsed more
    refine ⟨?_, ?_⟩
    · simp [Store.purge, Store.hostSize?, store, absent]
    · simp only [Store.purge, store, Assoc.erase_of_absent absent]
      rfl
  · unfold obey
    simp [all, none]

def visit (value : HeaderValue) (path : String) : Request :=
  ⟨.get, ⟨none, some path⟩, [(.host, value)], []⟩

/-- Three requests that are answered and stored, two for one host and one for another. -/
def visitsToTwo : List Reception.Event :=
  [("1", visit (.ofText "a.com") "/x"), ("2", visit (.ofText "a.com") "/y"),
    ("3", visit (.ofText "b.com") "/x")].flatMap fun v =>
      [.arrive v.1 v.2 0, .beside (.reply v.1 (.answered ⟨.ok, []⟩)), .beside (.sendEnd v.1),
        .beside .settle]

/-- The letters of an order may be large or small. -/
theorem forgets_plain_host_of_two :
    ∃ v, Service.new {} 1 = .ok v ∧
      let s := (Reception.after { service := v } visitsToTwo).service
      (s.finds (visit (.ofText "a.COM") "/y")).isSome ∧
      ∃ store, s.obey { host := some "A.com" } = (s.withStore store, .ok 2) ∧
        (∀ path (r : Request), r.Asks (.ofText "A.com") path → (s.withStore store).finds r = none) ∧
        store.rings.get? "b.com" = s.desk.cache.store.rings.get? "b.com" := by
  refine ⟨_, rfl, ?_⟩
  intro s
  have stocked : s.Stocked := @Reception.stocked_after {} 1 _ rfl visitsToTwo
  have reads : (HeaderValue.ofText "A.com").text? = some "A.com" := by decide
  have named : requestHost? [(.host, .ofText "A.com")] ⟨none, none⟩ = some "a.com" := by decide
  obtain ⟨store, n, obeyed, plain, -, -⟩ := forgets_plain_host stocked reads named
  obtain ⟨-, gone, others⟩ := plain ⟨⟨"A.com".toList⟩, rfl, rfl⟩
  have told : (s.obey { host := some "A.com" }).2 = .ok 2 := by decide +kernel
  obtain rfl : n = 2 := by
    rw [obeyed] at told
    exact Except.ok.inj told
  exact ⟨by decide +kernel, store, obeyed, gone, others "b.com" (by decide)⟩

/-- Requests that name the port find the answer, and an order in the same words does not remove it. -/
theorem keeps_host_named_with_port :
    ∃ v, Service.new {} 1 = .ok v ∧
      let s := (Reception.after { service := v } visitsToTwo).service
      let request := visit (.ofText "a.com:8080") "/x"
      requestHost? request.headers request.target = some "a.com" ∧
      (s.finds request).isSome ∧
      let (after, n) := s.obey { host := some "a.com:8080" }
      n = .ok 0 ∧ after.finds request = s.finds request := by
  refine ⟨_, rfl, ?_⟩
  decide +kernel

end Service
end CachingProxy
