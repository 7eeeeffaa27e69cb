/-
  `rpc_discovery.h`: `lastError()` and `lastEndpoints()`, read by the callers of an
  `AsyncLocalServiceRegistry` once their operations are over.

  1. **Reads** — the two fields are the registry's, one of each for all its callers, and an operation
     leaves its outcome there before it releases the lock.  Its caller reads them when the operation is
     done, and by then others may have run.

  2. **Outcomes** — `ownError` and `ownEndpoints`: what `LocalServiceRegistry` returns at the operation's
     place in the lock order, or the timeout of an attempt that failed.

  3. **Stores** — a field holds what was stored last (`lastStored`), and everything stored is the outcome
     of the operation that stores it (`ownError_of_store`).  So a caller reads the outcome of whoever was
     last, which is its own operation if nobody has stored since.
-/
import GalayRpc.AsyncRegistry

namespace GalayRpc

variable {κ : Type}

/-! ## Reads -/

/-- What a caller reads: the endpoints only after a discovery. -/
structure CallerRead where
  error : DiscoveryError
  endpoints? : Option (List ServiceEndpoint) := none
deriving DecidableEq

/-- `lastError()`, and `lastEndpoints()` after a discovery, read by the caller of operation `i` once it is
    done. -/
def Pool.read (p : AsyncRegistryPool κ) (i : Nat) : Option CallerRead :=
  match p.routines[i]? with
  | some (.discoverService _, .done) => some ⟨p.shared.mLastError, some p.shared.mLastEndpoints⟩
  | some (_, .done) => some ⟨p.shared.mLastError, none⟩
  | _ => none

theorem Pool.read_cases {p : AsyncRegistryPool κ} {i : Nat} {read : CallerRead}
    (h : p.read i = some read) :
    ∃ call, p.routines[i]? = some (call, .done) ∧ read.error = p.shared.mLastError ∧
      ∀ endpoints, read.endpoints? = some endpoints → endpoints = p.shared.mLastEndpoints ∧
        ∃ serviceName, call = .discoverService serviceName := by
  unfold Pool.read at h
  split at h
  · rename_i serviceName hi
    obtain rfl := Option.some.inj h
    exact ⟨_, hi, rfl, fun endpoints he => ⟨(Option.some.inj he).symm, serviceName, rfl⟩⟩
  · rename_i call _ hi
    obtain rfl := Option.some.inj h
    exact ⟨call, hi, rfl, fun endpoints he => by cases he⟩
  · cases h

/-! ## Outcomes -/

/-- What the methods return, one after the other. -/
def LocalServiceRegistry.replies :
    LocalServiceRegistry κ → List (Nat × RegistryCall κ) → List (Nat × RegistryReply)
  | _, [] => []
  | r, g :: grants => (g.1, (r.call g.2).reply) :: replies (r.call g.2).registry grants

/-- What operation `i` returns at its place in the lock order, if it has one. -/
def Pool.reply (start : AsyncLocalServiceRegistry κ) (p : AsyncRegistryPool κ) (i : Nat) :
    Option RegistryReply :=
  (start.toLocalServiceRegistry.replies p.grants).lookup i

/-- The error of operation `i`. -/
def Pool.ownError (start : AsyncLocalServiceRegistry κ) (p : AsyncRegistryPool κ) (i : Nat) :
    DiscoveryError :=
  match p.reply start i with
  | some reply => reply.error
  | none => AsyncLocalServiceRegistry.lockTimeout

/-- The endpoints found by operation `i`. -/
def Pool.ownEndpoints (start : AsyncLocalServiceRegistry κ) (p : AsyncRegistryPool κ) (i : Nat) :
    List ServiceEndpoint :=
  match p.reply start i with
  | some reply => reply.endpoints?.getD []
  | none => []

theorem LocalServiceRegistry.replies_append (r : LocalServiceRegistry κ)
    (grants grants' : List (Nat × RegistryCall κ)) :
    r.replies (grants ++ grants') =
      r.replies grants ++ ((asyncLocking κ).serialState r grants).replies grants' := by
  induction grants generalizing r with
  | nil => rfl
  | cons g grants ih =>
    show (g.1, (r.call g.2).reply) :: (r.call g.2).registry.replies (grants ++ grants') = _
    rw [ih]
    rfl

theorem LocalServiceRegistry.replies_fst (r : LocalServiceRegistry κ)
    (grants : List (Nat × RegistryCall κ)) : (r.replies grants).map Prod.fst = grants.map Prod.fst := by
  induction grants generalizing r with
  | nil => rfl
  | cons g grants ih => exact congrArg (g.1 :: ·) (ih _)

/-- Who is not among the keys is not found. -/
theorem lookup_eq_none {β : Type} {l : List (Nat × β)} {i : Nat} (h : i ∉ l.map Prod.fst) :
    l.lookup i = none := by
  refine List.lookup_eq_none_iff.mpr fun b hb => ?_
  have hne : i ≠ b.1 := by
    rintro rfl
    exact h (List.mem_map_of_mem hb)
  simpa using hne

/-- An operation that has the lock returns what the method does at its place. -/
theorem Pool.reply_granted {start : AsyncLocalServiceRegistry κ} {p : AsyncRegistryPool κ}
    (honce : p.lockOrder.Nodup) {i : Nat} {call : RegistryCall κ} {pre post : List (Nat × RegistryCall κ)}
    (hgrants : p.grants = pre ++ (i, call) :: post) :
    p.reply start i =
      some (((asyncLocking κ).serialState start.toLocalServiceRegistry pre).call call).reply := by
  have hnot : i ∉ pre.map Prod.fst := by
    rw [Pool.lockOrder, hgrants, List.map_append] at honce
    intro hmem
    exact (List.nodup_append.mp honce).2.2 i hmem i List.mem_cons_self rfl
  rw [Pool.reply, hgrants, LocalServiceRegistry.replies_append, List.lookup_append,
    lookup_eq_none (by rwa [LocalServiceRegistry.replies_fst]), Option.none_or,
    LocalServiceRegistry.replies, List.lookup_cons_self]

theorem Pool.reply_refused (start : AsyncLocalServiceRegistry κ) {p : AsyncRegistryPool κ} {i : Nat}
    (h : i ∉ p.lockOrder) : p.reply start i = none :=
  lookup_eq_none (by rwa [LocalServiceRegistry.replies_fst])

/-! ## Stores -/

/-- An error stored, if that is what it is. -/
def AsyncRegistryEvent.error? : AsyncRegistryEvent κ → Option DiscoveryError
  | .lastError error => some error
  | .callback _ _ => none
  | .lastEndpoints _ => none

/-- Endpoints stored, if that is what it is. -/
def AsyncRegistryEvent.endpoints? : AsyncRegistryEvent κ → Option (List ServiceEndpoint)
  | .lastEndpoints endpoints => some endpoints
  | .callback _ _ => none
  | .lastError _ => none

/-- What has been stored of a kind, and by which operation. -/
def stores {ω β : Type} (f : ω → Option β) (log : List (Nat × ω)) : List (Nat × β) :=
  log.filterMap fun e => (f e.2).map fun b => (e.1, b)

theorem mem_stores {ω β : Type} {f : ω → Option β} {log : List (Nat × ω)} {i : Nat} {b : β} :
    (i, b) ∈ stores f log ↔ ∃ e, (i, e) ∈ log ∧ f e = some b := by
  rw [stores, List.mem_filterMap]
  constructor
  · rintro ⟨⟨j, e⟩, hmem, he⟩
    obtain ⟨b', hb', heq⟩ := Option.map_eq_some_iff.mp he
    obtain ⟨rfl, rfl⟩ := Prod.mk.inj heq
    exact ⟨e, hmem, hb'⟩
  · rintro ⟨e, hmem, he⟩
    exact ⟨(i, e), hmem, by rw [he, Option.map_some]⟩

theorem stores_append_snd {ω β : Type} (f : ω → Option β) (log : List (Nat × ω)) (i : Nat)
    (out : List ω) :
    (stores f (log ++ out.map fun e => (i, e))).map Prod.snd =
      (stores f log).map Prod.snd ++ out.filterMap f := by
  rw [stores, List.filterMap_append, List.map_append, ← stores]
  congr 1
  rw [List.filterMap_map, List.map_filterMap]
  refine List.filterMap_congr fun e _ => ?_
  show ((f e).map fun b => (i, b)).map Prod.snd = f e
  rw [Option.map_map]
  exact Option.map_id'

/-- What a field holds, given what it held at first. -/
def lastStored {ω β : Type} (f : ω → Option β) (first : β) (log : List (Nat × ω)) : β :=
  ((stores f log).map Prod.snd).getLast?.getD first

/-- A step that leaves in the fields what it stores, and nothing else. -/
def StoresLast (update : AsyncLocalServiceRegistry κ → AsyncLocalServiceRegistry κ)
    (emit : AsyncLocalServiceRegistry κ → List (AsyncRegistryEvent κ)) : Prop :=
  ∀ s, (update s).mLastError = ((emit s).filterMap AsyncRegistryEvent.error?).getLast?.getD s.mLastError ∧
    (update s).mLastEndpoints =
      ((emit s).filterMap AsyncRegistryEvent.endpoints?).getLast?.getD s.mLastEndpoints

namespace AsyncLocalServiceRegistry

variable {next : AsyncRegistryRoutine κ}

theorem branch_all {f : AsyncLocalServiceRegistry κ → AsyncRegistryRoutine κ}
    (h : ∀ s, (f s).All StoresLast) : (branch f).All StoresLast :=
  ⟨fun _ => ⟨rfl, rfl⟩, h⟩

theorem update_all (f : LocalServiceRegistry κ → LocalServiceRegistry κ) (h : next.All StoresLast) :
    (update f next).All StoresLast :=
  ⟨fun _ => ⟨rfl, rfl⟩, fun _ => h⟩

theorem storeError_all (error : DiscoveryError) (h : next.All StoresLast) :
    (storeError error next).All StoresLast :=
  ⟨fun _ => ⟨rfl, rfl⟩, fun _ => h⟩

theorem storeEndpoints_all (endpoints : LocalServiceRegistry κ → List ServiceEndpoint)
    (h : next.All StoresLast) : (storeEndpoints endpoints next).All StoresLast :=
  ⟨fun _ => ⟨rfl, rfl⟩, fun _ => h⟩

theorem callEach_all (serviceName : Bytes) (event : ServiceEvent) (h : next.All StoresLast) (i n : Nat) :
    (callEach serviceName event next i n).All StoresLast := by
  induction n generalizing i with
  | zero => exact h
  | succ n ih =>
    refine ⟨fun s => ?_, fun _ => ih (i + 1)⟩
    -- a callback is no store
    cases hcallback : (s.watchers serviceName)[i]? with
    | none => exact ⟨by simp only [hcallback]; rfl, by simp only [hcallback]; rfl⟩
    | some callback => exact ⟨by simp only [hcallback]; rfl, by simp only [hcallback]; rfl⟩

theorem notifying_all (serviceName : Bytes) (event : ServiceEvent) (h : next.All StoresLast) :
    (notifying serviceName event next).All StoresLast := by
  refine branch_all fun s => ?_
  split
  · exact h
  · exact callEach_all serviceName event h 0 _

theorem succeed_all : (storeError {} (.unlock .done) : AsyncRegistryRoutine κ).All StoresLast :=
  storeError_all {} trivial

theorem timeout_all : (storeError lockTimeout .done : AsyncRegistryRoutine κ).All StoresLast :=
  storeError_all lockTimeout trivial

theorem program_all (call : RegistryCall κ) : (program call).All StoresLast := by
  cases call with
  | registerService endpoint =>
    exact ⟨update_all _ (notifying_all _ _ succeed_all), timeout_all⟩
  | deregisterService endpoint =>
    refine ⟨branch_all fun s => ?_, timeout_all⟩
    split
    · exact storeError_all _ trivial
    · refine branch_all fun s' => ?_
      split
      · exact storeError_all _ trivial
      · exact branch_all fun _ => update_all _ (notifying_all _ _ succeed_all)
  | discoverService serviceName =>
    refine ⟨branch_all fun s => ?_, storeError_all _ (storeEndpoints_all _ trivial)⟩
    split
    · exact storeEndpoints_all _ succeed_all
    · exact storeEndpoints_all _ succeed_all
  | watchService serviceName callback => exact ⟨update_all _ succeed_all, timeout_all⟩
  | unwatchService serviceName => exact ⟨update_all _ succeed_all, timeout_all⟩

/-- **A field holds what was stored last**, in every run. -/
theorem fields_eq {start : AsyncLocalServiceRegistry κ}
    {C : AsyncRegistryPool κ → PoolAction (RegistryCall κ) → Prop}
    {actions : List (PoolAction (RegistryCall κ))} {p : AsyncRegistryPool κ}
    (h : Run (Pool.step program) C (Pool.initial start) actions p) :
    p.shared.mLastError = lastStored AsyncRegistryEvent.error? start.mLastError p.log ∧
      p.shared.mLastEndpoints =
        lastStored AsyncRegistryEvent.endpoints? start.mLastEndpoints p.log := by
  refine Pool.acts_invariant (I := fun s log =>
    s.mLastError = lastStored AsyncRegistryEvent.error? start.mLastError log ∧
      s.mLastEndpoints = lastStored AsyncRegistryEvent.endpoints? start.mLastEndpoints log)
    program_all ?_ h ⟨rfl, rfl⟩
  rintro s log i update emit ⟨herror, hendpoints⟩ hstores
  obtain ⟨herror', hendpoints'⟩ := hstores s
  constructor
  · rw [herror', herror, lastStored, lastStored, stores_append_snd, List.getLast?_append, Option.getD_or]
  · rw [hendpoints', hendpoints, lastStored, lastStored, stores_append_snd, List.getLast?_append,
      Option.getD_or]

end AsyncLocalServiceRegistry

/-! ### Every store is an outcome -/

section Outcomes

variable {start : AsyncLocalServiceRegistry κ} {p : AsyncRegistryPool κ}

/-- What is stored of a call is its error, and its endpoints if it finds any. -/
theorem mem_effect_error {call : RegistryCall κ} {t : LocalServiceRegistry κ} {error : DiscoveryError} :
    .lastError error ∈ (AsyncLocalServiceRegistry.effect call t).2 ↔
      error = (t.call call).reply.error := by
  show _ ∈ (_ ++ (_ ++ [_]) : List (AsyncRegistryEvent κ)) ↔ _
  simp [madeCallback]

theorem mem_effect_endpoints {call : RegistryCall κ} {t : LocalServiceRegistry κ}
    {endpoints : List ServiceEndpoint} :
    .lastEndpoints endpoints ∈ (AsyncLocalServiceRegistry.effect call t).2 ↔
      (t.call call).reply.endpoints? = some endpoints := by
  show _ ∈ (_ ++ (_ ++ [_]) : List (AsyncRegistryEvent κ)) ↔ _
  simp [madeCallback]

theorem eq_lockTimeout_of_refusal {call : RegistryCall κ} {error : DiscoveryError}
    (h : .lastError error ∈ call.refusal) : error = AsyncLocalServiceRegistry.lockTimeout := by
  cases call with
  | _ => simpa [RegistryCall.refusal] using h

theorem eq_nil_of_refusal {call : RegistryCall κ} {endpoints : List ServiceEndpoint}
    (h : .lastEndpoints endpoints ∈ call.refusal) : endpoints = [] := by
  cases call with
  | discoverService serviceName => simpa [RegistryCall.refusal] using h
  | _ => exact absurd h (by simp [RegistryCall.refusal])

/-- **What an operation stores is its own outcome.** -/
theorem ownError_of_store (hp : Serialized (asyncLocking κ) start.toLocalServiceRegistry p) {i : Nat}
    {error : DiscoveryError} (h : (i, error) ∈ stores AsyncRegistryEvent.error? p.log) :
    error = p.ownError start i := by
  obtain ⟨e, hmem, he⟩ := mem_stores.mp h
  obtain rfl : e = .lastError error := by
    cases e with
    | lastError error' => exact congrArg _ (Option.some.inj he)
    | callback callback event => cases he
    | lastEndpoints endpoints => cases he
  rcases hp.mem_log hmem with ⟨pre, call, post, hgrants, heffect⟩ | ⟨hid, call, r, -, hrefusal⟩
  · rw [Pool.ownError, Pool.reply_granted hp.once hgrants]
    exact mem_effect_error.mp heffect
  · rw [Pool.ownError, Pool.reply_refused start hid]
    exact eq_lockTimeout_of_refusal hrefusal

theorem ownEndpoints_of_store (hp : Serialized (asyncLocking κ) start.toLocalServiceRegistry p) {i : Nat}
    {endpoints : List ServiceEndpoint} (h : (i, endpoints) ∈ stores AsyncRegistryEvent.endpoints? p.log) :
    endpoints = p.ownEndpoints start i := by
  obtain ⟨e, hmem, he⟩ := mem_stores.mp h
  obtain rfl : e = .lastEndpoints endpoints := by
    cases e with
    | lastEndpoints endpoints' => exact congrArg _ (Option.some.inj he)
    | callback callback event => cases he
    | lastError error => cases he
  rcases hp.mem_log hmem with ⟨pre, call, post, hgrants, heffect⟩ | ⟨hid, call, r, -, hrefusal⟩
  · have hreply := mem_effect_endpoints.mp heffect
    rw [Pool.ownEndpoints, Pool.reply_granted hp.once hgrants]
    show endpoints = Option.getD _ []
    rw [hreply, Option.getD_some]
  · rw [Pool.ownEndpoints, Pool.reply_refused start hid]
    exact eq_nil_of_refusal hrefusal

/-- An operation that is done has had the lock, at one place in the order, or has been refused. -/
theorem Serialized.place (hp : Serialized (asyncLocking κ) start.toLocalServiceRegistry p) {i : Nat}
    {call : RegistryCall κ} (hi : p.routines[i]? = some (call, .done)) :
    (∃ pre post, p.grants = pre ++ (i, call) :: post) ∨
      i ∉ p.lockOrder ∧ ownLog p.log i = call.refusal := by
  by_cases hid : i ∈ p.lockOrder
  · left
    obtain ⟨⟨j, call'⟩, hmem, rfl⟩ := List.mem_map.mp hid
    obtain ⟨r, hr⟩ := hp.owned j call' hmem
    obtain ⟨rfl, -⟩ := Prod.mk.inj (Option.some.inj (hi.symm.trans hr))
    exact List.append_of_mem hmem
  · exact Or.inr ⟨hid, (hp.refused_log hid hi).2 rfl⟩

/-- **And it has stored it when it is done.** -/
theorem stored_error (hp : Serialized (asyncLocking κ) start.toLocalServiceRegistry p) {i : Nat}
    {call : RegistryCall κ} (hi : p.routines[i]? = some (call, .done)) :
    (i, p.ownError start i) ∈ stores AsyncRegistryEvent.error? p.log := by
  refine mem_stores.mpr ⟨.lastError (p.ownError start i), ?_, rfl⟩
  rcases hp.place hi with ⟨pre, post, hgrants⟩ | ⟨hid, hown⟩
  · rw [Pool.ownError, Pool.reply_granted hp.once hgrants]
    exact hp.mem_log_of_done hi hgrants (mem_effect_error.mpr rfl)
  · rw [Pool.ownError, Pool.reply_refused start hid, ← mem_ownLog, hown]
    cases call with
    | _ => exact List.mem_cons_self

theorem stored_endpoints (hp : Serialized (asyncLocking κ) start.toLocalServiceRegistry p) {i : Nat}
    {serviceName : Bytes} (hi : p.routines[i]? = some (.discoverService serviceName, .done)) :
    (i, p.ownEndpoints start i) ∈ stores AsyncRegistryEvent.endpoints? p.log := by
  refine mem_stores.mpr ⟨.lastEndpoints (p.ownEndpoints start i), ?_, rfl⟩
  rcases hp.place hi with ⟨pre, post, hgrants⟩ | ⟨hid, hown⟩
  · refine hp.mem_log_of_done hi hgrants (mem_effect_endpoints.mpr ?_)
    rw [Pool.ownEndpoints, Pool.reply_granted hp.once hgrants]
    show RegistryReply.endpoints? (.found (LocalServiceRegistry.discoverService _ _)) =
      some (Option.getD (RegistryReply.endpoints? (.found (LocalServiceRegistry.discoverService _ _))) [])
    rw [LocalServiceRegistry.discoverService_eq]
    rfl
  · rw [Pool.ownEndpoints, Pool.reply_refused start hid, ← mem_ownLog, hown]
    exact List.mem_cons_of_mem _ List.mem_cons_self

end Outcomes

/-! ## What the callers read -/

/-- Nobody else has stored since `i` did. -/
def NoneSince {β : Type} (stored : List (Nat × β)) (i : Nat) : Prop :=
  ∃ before b after, stored = before ++ (i, b) :: after ∧ ∀ s ∈ after, s.1 = i

/-- Then the last store is one of `i`. -/
theorem NoneSince.getLast? {β : Type} {stored : List (Nat × β)} {i j : Nat} {b : β}
    (h : NoneSince stored i) (hlast : stored.getLast? = some (j, b)) : j = i := by
  obtain ⟨before, b', after, rfl, hafter⟩ := h
  rw [List.getLast?_append, List.getLast?_cons, Option.some_or] at hlast
  obtain heq := Option.some.inj hlast
  cases hnone : after.getLast? with
  | none =>
    rw [hnone] at heq
    exact (Prod.mk.inj heq).1.symm
  | some s =>
    rw [hnone] at heq
    obtain rfl : s = (j, b) := heq
    exact hafter _ (List.mem_of_getLast? hnone)

/-- A field is what its last store left, if there was one. -/
theorem lastStored_eq {ω β : Type} {f : ω → Option β} {log : List (Nat × ω)} {i : Nat} {b : β}
    (first : β) (h : (i, b) ∈ stores f log) :
    ∃ j, (stores f log).getLast? = some (j, lastStored f first log) := by
  cases hlast : (stores f log).getLast? with
  | none =>
    rw [List.getLast?_eq_none_iff.mp hlast] at h
    cases h
  | some s =>
    refine ⟨s.1, congrArg some (Prod.ext rfl ?_)⟩
    rw [lastStored, List.getLast?_map, hlast]
    rfl

/-- **Each caller reads the outcome of the operation that stored its result last**, in every interleaving
    of any number of operations, and that is its own operation if nobody else has stored since that did. -/
theorem last_result_of_last_store {start : AsyncLocalServiceRegistry κ}
    {actions : List (PoolAction (RegistryCall κ))} {p : AsyncRegistryPool κ}
    (h : Run (Pool.step AsyncLocalServiceRegistry.program) (fun _ _ => True) (Pool.initial start)
      actions p) {i : Nat} {read : CallerRead} (hread : p.read i = some read) :
    ((∃ j, (stores AsyncRegistryEvent.error? p.log).getLast? = some (j, read.error) ∧
        read.error = p.ownError start j) ∧
      (i, p.ownError start i) ∈ stores AsyncRegistryEvent.error? p.log ∧
      (NoneSince (stores AsyncRegistryEvent.error? p.log) i → read.error = p.ownError start i)) ∧
    ∀ endpoints, read.endpoints? = some endpoints →
      (∃ j, (stores AsyncRegistryEvent.endpoints? p.log).getLast? = some (j, endpoints) ∧
        endpoints = p.ownEndpoints start j) ∧
      (i, p.ownEndpoints start i) ∈ stores AsyncRegistryEvent.endpoints? p.log ∧
      (NoneSince (stores AsyncRegistryEvent.endpoints? p.log) i →
        endpoints = p.ownEndpoints start i) := by
  have hp : Serialized (asyncLocking κ) start.toLocalServiceRegistry p := (asyncLocking κ).serialized h
  obtain ⟨herror, hendpoints⟩ := AsyncLocalServiceRegistry.fields_eq h
  obtain ⟨call, hi, hreadError, hreadEndpoints⟩ := Pool.read_cases hread
  constructor
  · have hown := stored_error hp hi
    obtain ⟨j, hlast⟩ := lastStored_eq start.mLastError hown
    rw [← herror, ← hreadError] at hlast
    have houtcome := ownError_of_store hp (List.mem_of_getLast? hlast)
    refine ⟨⟨j, hlast, houtcome⟩, hown, fun hnone => ?_⟩
    obtain rfl := hnone.getLast? hlast
    exact houtcome
  · intro endpoints he
    obtain ⟨hfield, serviceName, rfl⟩ := hreadEndpoints endpoints he
    have hown := stored_endpoints hp hi
    obtain ⟨j, hlast⟩ := lastStored_eq start.mLastEndpoints hown
    rw [← hendpoints, ← hfield] at hlast
    have houtcome := ownEndpoints_of_store hp (List.mem_of_getLast? hlast)
    refine ⟨⟨j, hlast, houtcome⟩, hown, fun hnone => ?_⟩
    obtain rfl := hnone.getLast? hlast
    exact houtcome

/-- A deregistration stores its failure before a discovery has the lock, and the caller of the discovery
    reads before anybody else has run. -/
theorem last_result_of_last_store_alone :
    ∃ p : AsyncRegistryPool Unit,
      stores AsyncRegistryEvent.error? p.log = [(1, ⟨.notFound, "Service not found"⟩), (0, {})] ∧
        p.read 0 = some ⟨{}, some []⟩ ∧ p.ownError {} 0 = {} := by
  have hlast := @last_result_of_last_store Unit {} [.start (.discoverService [7]),
    .start (.deregisterService ⟨[1], 90, [7], [5], 100⟩), .grant 1, .run 1, .run 1, .run 1, .grant 0,
    .run 0, .run 0, .run 0, .run 0] _ (run_iff_runAll.mpr rfl) 0 ⟨{}, some []⟩ rfl
  refine ⟨_, rfl, rfl, Eq.symm (hlast.1.2.2 ⟨[(1, _)], _, [], rfl, ?_⟩)⟩
  exact fun s h => absurd h List.not_mem_nil

/-- The methods. -/
inductive AsyncRegistryMethod where
  | registerServiceAsync
  | deregisterServiceAsync
  | discoverServiceAsync
  | watchServiceAsync
  | unwatchServiceAsync
deriving DecidableEq

/-- Which one an operation is. -/
def RegistryCall.method : RegistryCall κ → AsyncRegistryMethod
  | .registerService _ => .registerServiceAsync
  | .deregisterService _ => .deregisterServiceAsync
  | .discoverService _ => .discoverServiceAsync
  | .watchService _ _ => .watchServiceAsync
  | .unwatchService _ => .unwatchServiceAsync

/-- A discovery that succeeds is told that there is no such service, as a deregistration was. -/
theorem others_result_read :
    ¬ ∀ (start : AsyncLocalServiceRegistry Unit) (c d : RegistryCall Unit), c.method ≠ d.method →
      ∀ (actions : List (PoolAction (RegistryCall Unit))) (p : AsyncRegistryPool Unit),
        Run (Pool.step AsyncLocalServiceRegistry.program) (fun _ _ => True) (Pool.initial start)
          actions p → p.routines.map Prod.fst = [c, d] →
        ∀ i read, p.read i = some read → read.error = p.ownError start i ∧
          ∀ endpoints, read.endpoints? = some endpoints → endpoints = p.ownEndpoints start i := by
  intro h
  have hown := (h {} (.discoverService [7]) (.deregisterService ⟨[1], 90, [7], [5], 100⟩)
    (by decide) [.start (.discoverService [7]), .start (.deregisterService ⟨[1], 90, [7], [5], 100⟩),
      .grant 0, .run 0, .run 0, .run 0, .run 0, .grant 1, .run 1, .run 1, .run 1] _
    (run_iff_runAll.mpr rfl) rfl 0 _ rfl).1
  exact absurd hown (by decide)

end GalayRpc
