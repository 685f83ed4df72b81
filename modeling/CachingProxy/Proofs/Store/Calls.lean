import CachingProxy.Proofs.Store.Entries

namespace CachingProxy.Store

inductive Call
  | act (o : Op)
  | hostSize (host : String)
  | stats
  deriving DecidableEq

inductive Reply
  | found (a : Option Response)
  | stored (o : Ring.Outcome)
  | purged (n : Nat)
  | size (n : Option Nat)
  | stats (s : StoreStats)

def call (s : Store) : Call → Store
  | .act o => s.step o
  | .hostSize _ | .stats => s

def reply (s : Store) : Call → Reply
  | .act (.get h p) => .found (s.get h p).2
  | .act (.store h p a) => .stored ((s.ring h).put p a).2
  | .act (.purge h) => .purged (s.purge h).2
  | .act .purgeAll => .purged s.purgeAll.2
  | .hostSize h => .size (s.hostSize? h)
  | .stats => .stats s.stats

namespace Call

def host? : Call → Option String
  | act (.get h _) | act (.store h _ _) | act (.purge h) | hostSize h => some h
  | act .purgeAll | stats => none

def reads : Call → Bool
  | act (.get _ _) | hostSize _ | stats => true
  | act (.store _ _ _) | act (.purge _) | act .purgeAll => false

/-- Whether a call can matter to a host: it is about the host or forgets all of them. -/
def concerns (host : String) (c : Call) : Bool := c.host? = some host || c = .act .purgeAll

def ops (cs : List Call) : List Op :=
  cs.filterMap fun
    | act o => some o
    | _ => none

end Call

def afterCalls (s : Store) (cs : List Call) : Store := Course.after call s cs

/-- What is answered to the calls about a host, in order. -/
def heard (host : String) (s : Store) (cs : List Call) : List Reply :=
  Course.noted call (fun s c => if c.host? = some host then [s.reply c] else []) s cs

variable {s t : Store} {c : Call} {host : String}

theorem afterCalls_eq (s : Store) (cs : List Call) : s.afterCalls cs = s.after (Call.ops cs) := by
  induction cs generalizing s with
  | nil => rfl
  | cons c cs ih =>
    cases c with
    | act o => exact ih (s.step o)
    | hostSize h | stats => exact ih s

/-- That two stores have the same ring for a host. -/
structure Alike (host : String) (s t : Store) : Prop where
  capacity : t.capacity = s.capacity
  ring : t.rings.get? host = s.rings.get? host

theorem Alike.symm (same : Alike host s t) : Alike host t s :=
  ⟨same.capacity.symm, same.ring.symm⟩

theorem Alike.trans {u : Store} (same : Alike host s t) (same' : Alike host t u) : Alike host s u :=
  ⟨same'.capacity.trans same.capacity, same'.ring.trans same.ring⟩

theorem Alike.ring_eq (same : Alike host s t) : t.ring host = s.ring host := by
  unfold Store.ring
  rw [same.ring, same.capacity]

theorem capacity_get (s : Store) (host path : String) :
    (s.get host path).1.capacity = s.capacity := by
  unfold get
  split <;> rfl

theorem capacity_store (s : Store) (host path : String) (a : Response) :
    (s.store host path a).capacity = s.capacity := by
  simp only [store, countOutcome]
  split <;> rfl

theorem capacity_call (s : Store) (c : Call) : (s.call c).capacity = s.capacity := by
  cases c with
  | act o =>
    cases o with
    | get h p => exact capacity_get s h p
    | store h p a => exact capacity_store s h p a
    | purge _ | purgeAll => rfl
  | hostSize _ | stats => rfl

theorem get_snd (s : Store) (host path : String) : (s.get host path).2 = s.peek host path := by
  unfold get
  split
  · next there => exact there.symm
  · next nothing => exact nothing.symm

theorem alike_reads (reads : c.reads = true) : Alike host s (s.call c) := by
  refine ⟨capacity_call s c, ?_⟩
  cases c with
  | act o =>
    cases o with
    | get h p => exact congrArg (·.get? host) rings_get
    | store _ _ _ | purge _ | purgeAll => cases reads
  | hostSize _ | stats => rfl

theorem alike_unconcerned (idle : c.concerns host = false) : Alike host s (s.call c) := by
  refine ⟨capacity_call s c, ?_⟩
  cases c with
  | act o =>
    cases o with
    | get h p => exact congrArg (·.get? host) rings_get
    | store h p a =>
      have other : h ≠ host := by simpa [Call.concerns, Call.host?] using idle
      have rings : (s.call (.act (.store h p a))).rings = _ := rings_store a
      rw [rings, Assoc.get?_set, if_neg other]
    | purge h =>
      have other : h ≠ host := by simpa [Call.concerns, Call.host?] using idle
      exact (Assoc.get?_erase _ _ _).trans (if_neg other)
    | purgeAll => simp [Call.concerns] at idle
  | hostSize _ | stats => rfl

theorem alike_call (same : Alike host s t) (c : Call) : Alike host (s.call c) (t.call c) := by
  -- What only asks, or is about another host, moves neither store; the rest moves both alike.
  have around (left : Alike host s (s.call c)) (right : Alike host t (t.call c)) :
      Alike host (s.call c) (t.call c) := left.symm.trans (same.trans right)
  cases concerned : c.concerns host with
  | false => exact around (alike_unconcerned concerned) (alike_unconcerned concerned)
  | true =>
    have capacity : (t.call c).capacity = (s.call c).capacity := by
      rw [capacity_call, capacity_call, same.capacity]
    cases c with
    | hostSize _ | stats => exact around (alike_reads rfl) (alike_reads rfl)
    | act o =>
      cases o with
      | get _ _ => exact around (alike_reads rfl) (alike_reads rfl)
      | store h p a =>
        obtain rfl : h = host := by simpa [Call.concerns, Call.host?] using concerned
        have left : (s.call (.act (.store h p a))).rings = _ := rings_store a
        have right : (t.call (.act (.store h p a))).rings = _ := rings_store a
        refine ⟨capacity, ?_⟩
        rw [left, right, Assoc.get?_set, Assoc.get?_set, same.ring_eq]
        simp
      | purge h =>
        obtain rfl : h = host := by simpa [Call.concerns, Call.host?] using concerned
        have left : (s.call (.act (.purge h))).rings.get? h = _ := Assoc.get?_erase _ _ _
        have right : (t.call (.act (.purge h))).rings.get? h = _ := Assoc.get?_erase _ _ _
        refine ⟨capacity, ?_⟩
        rw [left, right, if_pos rfl, if_pos rfl]
      | purgeAll => exact ⟨capacity, rfl⟩

theorem reply_congr (same : Alike host s t) (about : c.host? = some host) :
    t.reply c = s.reply c := by
  cases c with
  | act o =>
    cases o with
    | get h p =>
      obtain rfl : h = host := Option.some.inj about
      simp only [reply, get_snd, peek, same.ring]
    | store h p a =>
      obtain rfl : h = host := Option.some.inj about
      simp only [reply, same.ring_eq]
    | purge h =>
      obtain rfl : h = host := Option.some.inj about
      simp only [reply, purge, hostSize?, same.ring]
    | purgeAll => cases about
  | hostSize h =>
    obtain rfl : h = host := Option.some.inj about
    simp only [reply, hostSize?, same.ring]
  | stats => cases about

theorem heard_congr (same : Alike host s t) (cs : List Call) : heard host t cs = heard host s cs := by
  induction cs generalizing s t with
  | nil => rfl
  | cons c cs ih =>
    have rest := ih (alike_call same c)
    simp only [heard, Course.noted_cons] at rest ⊢
    rw [rest]
    by_cases about : c.host? = some host
    · rw [if_pos about, if_pos about, reply_congr same about]
    · rw [if_neg about, if_neg about]

/-- What is answered about a host is what would be if nothing were done about any other. -/
theorem heard_filter (host : String) (s : Store) (cs : List Call) :
    heard host s (cs.filter (Call.concerns host)) = heard host s cs := by
  induction cs generalizing s with
  | nil => rfl
  | cons c cs ih =>
    cases concerned : c.concerns host with
    | true =>
      rw [List.filter_cons_of_pos concerned]
      simp only [heard, Course.noted_cons] at ih ⊢
      rw [ih]
    | false =>
      have unheard : c.host? ≠ some host := by
        intro about
        simp [Call.concerns, about] at concerned
      rw [List.filter_cons_of_neg (by simp [concerned]), ih]
      have later := heard_congr (alike_unconcerned (s := s) concerned) cs
      simp only [heard, Course.noted_cons] at later ⊢
      rw [later, if_neg unheard, List.nil_append]

end CachingProxy.Store
