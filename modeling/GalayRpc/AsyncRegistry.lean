/-
  `rpc_discovery.h`: `AsyncLocalServiceRegistry`, step by step, and that a lock makes it
  `LocalServiceRegistry`.

  1. **Operations** — the code of each operation as a `Routine`: the attempt at `m_mutex`, and for either
     end of it the statements up to the `co_return`, each a step in which others may come between.  The
     fields beside the two tables are the results that an operation leaves for its caller to read.

  2. **Watchers** — the loop over the callbacks reads the list that is there, one entry a step.  A callback
     does not call back into the registry, so that all it amounts to is an entry in the log.

  3. **The crux (`asyncLocking`)** — under the lock each path through an operation is what the method of
     `LocalServiceRegistry` does, in state, callbacks and result, and ends in the one release; refused, an
     operation leaves the tables alone and releases nothing.  `Serialized` does the interleavings.
-/
import GalayRpc.Registry
import GalayRpc.Lib.Mutex

namespace GalayRpc

/-- `AsyncLocalServiceRegistry`, without the lock. -/
structure AsyncLocalServiceRegistry (κ : Type) extends LocalServiceRegistry κ where
  mLastError : DiscoveryError := {}
  mLastEndpoints : List ServiceEndpoint := []

/-- What an operation does that others can see: a callback made, or a result stored. -/
inductive AsyncRegistryEvent (κ : Type) where
  | callback (callback : κ) (event : ServiceEvent)
  | lastError (error : DiscoveryError)
  | lastEndpoints (endpoints : List ServiceEndpoint)

/-- An operation under way. -/
abbrev AsyncRegistryRoutine (κ : Type) := Routine (AsyncLocalServiceRegistry κ) (AsyncRegistryEvent κ)

namespace AsyncLocalServiceRegistry

variable {κ : Type}

/-! ## The operations -/

/-- A condition on the registry. -/
def branch (f : AsyncLocalServiceRegistry κ → AsyncRegistryRoutine κ) : AsyncRegistryRoutine κ :=
  .act id (fun _ => []) f

/-- A change of the tables. -/
def update (f : LocalServiceRegistry κ → LocalServiceRegistry κ) (next : AsyncRegistryRoutine κ) :
    AsyncRegistryRoutine κ :=
  .act (fun s => { s with toLocalServiceRegistry := f s.toLocalServiceRegistry }) (fun _ => [])
    fun _ => next

/-- `m_last_error = error`. -/
def storeError (error : DiscoveryError) (next : AsyncRegistryRoutine κ) : AsyncRegistryRoutine κ :=
  .act (fun s => { s with mLastError := error }) (fun _ => [.lastError error]) fun _ => next

/-- `m_last_endpoints = …`. -/
def storeEndpoints (endpoints : LocalServiceRegistry κ → List ServiceEndpoint)
    (next : AsyncRegistryRoutine κ) : AsyncRegistryRoutine κ :=
  .act (fun s => { s with mLastEndpoints := endpoints s.toLocalServiceRegistry })
    (fun s => [.lastEndpoints (endpoints s.toLocalServiceRegistry)]) fun _ => next

/-- The loop over the callbacks of a service, from callback `i` on, with `n` to go. -/
def callEach (serviceName : Bytes) (event : ServiceEvent) (next : AsyncRegistryRoutine κ) :
    Nat → Nat → AsyncRegistryRoutine κ
  | _, 0 => next
  | i, n + 1 =>
    .act id (fun s => ((s.watchers serviceName)[i]?).toList.map fun callback => .callback callback event)
      fun _ => callEach serviceName event next (i + 1) n

/-- `m_watchers.find(service_name)` and the loop. -/
def notifying (serviceName : Bytes) (event : ServiceEvent) (next : AsyncRegistryRoutine κ) :
    AsyncRegistryRoutine κ :=
  branch fun s =>
    match s.mWatchers.lookup serviceName with
    | none => next
    | some callbacks => callEach serviceName event next 0 callbacks.length

/-- What an operation finds stored that did not get the lock. -/
def lockTimeout : DiscoveryError := ⟨.lockTimeout, "Lock timeout"⟩

/-- `registerServiceAsync`. -/
def registerServiceAsync (endpoint : ServiceEndpoint) : AsyncRegistryRoutine κ :=
  .lock
    (update (fun r => r.setListed endpoint.serviceName (r.listed endpoint.serviceName ++ [endpoint]))
      (notifying endpoint.serviceName ⟨.added, endpoint⟩
        (storeError {} (.unlock .done))))
    (storeError lockTimeout .done)

/-- `deregisterServiceAsync` once `ep_it` points at position `i`: `removed` is copied and erased. -/
def removing (endpoint : ServiceEndpoint) (i : Nat) : AsyncRegistryRoutine κ :=
  branch fun s =>
    let removed := (s.listed endpoint.serviceName).getD i endpoint
    update (fun r => r.setListed endpoint.serviceName ((r.listed endpoint.serviceName).eraseIdx i))
      (notifying endpoint.serviceName ⟨.removed, removed⟩
        (storeError {} (.unlock .done)))

/-- `deregisterServiceAsync`. -/
def deregisterServiceAsync (endpoint : ServiceEndpoint) : AsyncRegistryRoutine κ :=
  .lock
    (branch fun s =>
      match s.mServices.lookup endpoint.serviceName with
      | none => storeError ⟨.notFound, "Service not found"⟩ (.unlock .done)
      | some _ =>
        branch fun s =>
          match (s.listed endpoint.serviceName).findIdx? endpoint.sameInstance with
          | none => storeError ⟨.notFound, "Instance not found"⟩ (.unlock .done)
          | some i => removing endpoint i)
    (storeError lockTimeout .done)

/-- `discoverServiceAsync`. -/
def discoverServiceAsync (serviceName : Bytes) : AsyncRegistryRoutine κ :=
  .lock
    (branch fun s =>
      match s.mServices.lookup serviceName with
      | none => storeEndpoints (fun _ => []) (storeError {} (.unlock .done))
      | some _ => storeEndpoints (fun r => r.listed serviceName) (storeError {} (.unlock .done)))
    (storeError lockTimeout (storeEndpoints (fun _ => []) .done))

/-- `watchServiceAsync`. -/
def watchServiceAsync (serviceName : Bytes) (callback : κ) : AsyncRegistryRoutine κ :=
  .lock
    (update
      (fun r => { r with
        mWatchers := r.mWatchers.insert serviceName (r.watchers serviceName ++ [callback]) })
      (storeError {} (.unlock .done)))
    (storeError lockTimeout .done)

/-- `unwatchServiceAsync`. -/
def unwatchServiceAsync (serviceName : Bytes) : AsyncRegistryRoutine κ :=
  .lock
    (update (fun r => { r with mWatchers := r.mWatchers.erase serviceName })
      (storeError {} (.unlock .done)))
    (storeError lockTimeout .done)

/-- The operation that does asynchronously what a method does. -/
def program : RegistryCall κ → AsyncRegistryRoutine κ
  | .registerService endpoint => registerServiceAsync endpoint
  | .deregisterService endpoint => deregisterServiceAsync endpoint
  | .discoverService serviceName => discoverServiceAsync serviceName
  | .watchService serviceName callback => watchServiceAsync serviceName callback
  | .unwatchService serviceName => unwatchServiceAsync serviceName

end AsyncLocalServiceRegistry

/-- A registry and the coroutines at work on it. -/
abbrev AsyncRegistryPool (κ : Type) :=
  Pool (AsyncLocalServiceRegistry κ) (AsyncRegistryEvent κ) (RegistryCall κ)

/-! ## What the results are for the caller -/

/-- `m_last_error` for what a method returns. -/
def RegistryReply.error : RegistryReply → DiscoveryError
  | .void => {}
  | .done (.ok _) => {}
  | .done (.error e) => e
  | .found (.ok _) => {}
  | .found (.error e) => e

/-- `m_last_endpoints` for what a method returns. -/
def RegistryReply.endpoints? : RegistryReply → Option (List ServiceEndpoint)
  | .found (.ok endpoints) => some endpoints
  | _ => none

/-- What is stored of what a method returns. -/
def RegistryReply.stores {κ : Type} (reply : RegistryReply) : List (AsyncRegistryEvent κ) :=
  reply.endpoints?.toList.map .lastEndpoints ++ [.lastError reply.error]

/-- A callback made. -/
def madeCallback {κ : Type} (call : κ × ServiceEvent) : AsyncRegistryEvent κ := .callback call.1 call.2

/-- What is stored where the lock was not obtained. -/
def RegistryCall.refusal {κ : Type} : RegistryCall κ → List (AsyncRegistryEvent κ)
  | .discoverService _ => [.lastError AsyncLocalServiceRegistry.lockTimeout, .lastEndpoints []]
  | _ => [.lastError AsyncLocalServiceRegistry.lockTimeout]

namespace AsyncLocalServiceRegistry

variable {κ : Type} {t t' : LocalServiceRegistry κ} {rest : List (AsyncRegistryEvent κ)}
  {next : AsyncRegistryRoutine κ}

/-- The operation once it has the lock. -/
def afterLock (r : AsyncRegistryRoutine κ) : AsyncRegistryRoutine κ :=
  match r with
  | .lock granted _ => granted
  | r => r

/-- The operation once it has not got the lock. -/
def afterTimeout (r : AsyncRegistryRoutine κ) : AsyncRegistryRoutine κ :=
  match r with
  | .lock _ refused => refused
  | r => r

/-- What the lock guards. -/
abbrev Guarded (r : AsyncRegistryRoutine κ) (t t' : LocalServiceRegistry κ)
    (out : List (AsyncRegistryEvent κ)) : Prop :=
  CriticalSection toLocalServiceRegistry r t t' out

/-! ## Each path through an operation -/

theorem guarded_unlock (t : LocalServiceRegistry κ) : Guarded (.unlock .done) t t [] := .unlock t

theorem guarded_branch {f : AsyncLocalServiceRegistry κ → AsyncRegistryRoutine κ}
    (h : ∀ s, s.toLocalServiceRegistry = t → Guarded (f s) t t' rest) :
    Guarded (branch f) t t' rest := by
  show CriticalSection _ _ t t' ([] ++ rest)
  exact .act (fun _ hs => hs) (fun _ _ => rfl) h

theorem guarded_update {f : LocalServiceRegistry κ → LocalServiceRegistry κ}
    (h : Guarded next (f t) t' rest) : Guarded (update f next) t t' rest := by
  show CriticalSection _ _ t t' ([] ++ rest)
  exact .act (fun _ hs => congrArg f hs) (fun _ _ => rfl) fun _ _ => h

theorem guarded_storeError {error : DiscoveryError} (h : Guarded next t t' rest) :
    Guarded (storeError error next) t t' (.lastError error :: rest) := by
  show CriticalSection _ _ t t' ([.lastError error] ++ rest)
  exact .act (fun _ hs => hs) (fun _ _ => rfl) fun _ _ => h

theorem guarded_storeEndpoints {endpoints : LocalServiceRegistry κ → List ServiceEndpoint}
    (h : Guarded next t t' rest) :
    Guarded (storeEndpoints endpoints next) t t' (.lastEndpoints (endpoints t) :: rest) := by
  show CriticalSection _ _ t t' ([.lastEndpoints (endpoints t)] ++ rest)
  exact .act (fun _ hs => hs) (fun s hs => by rw [hs]) fun _ _ => h

/-- The loop makes the callbacks that are left, as nobody adds or drops one meanwhile. -/
theorem guarded_callEach {serviceName : Bytes} {event : ServiceEvent} (h : Guarded next t t' rest)
    {i n : Nat} (hn : i + n = (t.watchers serviceName).length) :
    Guarded (callEach serviceName event next i n) t t'
      ((((t.watchers serviceName).drop i).map fun callback => .callback callback event) ++ rest) := by
  induction n generalizing i with
  | zero =>
    rw [List.drop_of_length_le (by omega)]
    exact h
  | succ n ih =>
    have hlt : i < (t.watchers serviceName).length := by omega
    rw [List.drop_eq_getElem_cons hlt]
    show CriticalSection _ _ t t' ([_] ++ (_ ++ rest))
    refine .act (fun _ hs => hs) (fun s hs => ?_) fun _ _ => ih (by omega)
    show (((s.toLocalServiceRegistry.watchers serviceName)[i]?).toList.map _) = _
    rw [hs, List.getElem?_eq_getElem hlt]
    rfl

theorem guarded_notifying {serviceName : Bytes} {event : ServiceEvent} (h : Guarded next t t' rest) :
    Guarded (notifying serviceName event next) t t'
      ((t.notify serviceName event).map madeCallback ++ rest) := by
  refine guarded_branch fun s hs => ?_
  obtain rfl := hs
  show Guarded (match s.mWatchers.lookup serviceName with | none => _ | some _ => _) _ _ _
  rw [LocalServiceRegistry.notify]
  cases hlookup : s.mWatchers.lookup serviceName with
  | none => exact h
  | some callbacks =>
    have hwatchers : s.watchers serviceName = callbacks := by
      rw [LocalServiceRegistry.watchers, hlookup]
      rfl
    have hloop : Guarded (callEach serviceName event next 0 callbacks.length) _ t' _ :=
      guarded_callEach h (by rw [hwatchers, Nat.zero_add])
    rw [hwatchers, List.drop_zero] at hloop
    rw [List.map_map]
    exact hloop

theorem idle_storeError {error : DiscoveryError} (h : Idle toLocalServiceRegistry next rest) :
    Idle toLocalServiceRegistry (storeError error next) (.lastError error :: rest) := by
  show Idle _ _ ([.lastError error] ++ rest)
  exact .act (fun _ => rfl) (fun _ => rfl) fun _ => h

theorem idle_clearEndpoints (h : Idle toLocalServiceRegistry next rest) :
    Idle toLocalServiceRegistry (storeEndpoints (fun _ => []) next) (.lastEndpoints [] :: rest) := by
  show Idle _ _ ([.lastEndpoints []] ++ rest)
  exact .act (fun _ => rfl) (fun _ => rfl) fun _ => h

/-- What is left of an operation that succeeds with no more to say than that. -/
theorem guarded_succeed (t : LocalServiceRegistry κ) :
    Guarded (storeError {} (.unlock .done)) t t [.lastError {}] :=
  guarded_storeError (guarded_unlock t)

theorem registerServiceAsync_guarded (endpoint : ServiceEndpoint) (t : LocalServiceRegistry κ) :
    Guarded (afterLock (registerServiceAsync endpoint)) t (t.registerService endpoint).registry
      ((t.registerService endpoint).callbacks.map madeCallback ++ [.lastError {}]) := by
  dsimp only [afterLock, registerServiceAsync]
  exact guarded_update (guarded_notifying (guarded_succeed _))

/-- The endpoint that is found is the one at the position that is found, and it is the one erased. -/
theorem removing_guarded {endpoint : ServiceEndpoint} {t : LocalServiceRegistry κ} {i : Nat}
    (hi : (t.listed endpoint.serviceName).findIdx? endpoint.sameInstance = some i) :
    Guarded (removing endpoint i) t (t.deregisterService endpoint).registry
      ((t.deregisterService endpoint).callbacks.map madeCallback ++
        [.lastError (t.deregisterService endpoint).reply.error]) := by
  obtain ⟨hlt, hsame, hfirst⟩ := List.findIdx?_eq_some_iff_getElem.mp hi
  have hfind : (t.listed endpoint.serviceName).find? endpoint.sameInstance =
      some (t.listed endpoint.serviceName)[i] := by
    rw [List.find?_eq_some_iff_getElem]
    exact ⟨hsame, i, hlt, rfl, fun j hj => by simpa using hfirst j hj⟩
  have herase : (t.listed endpoint.serviceName).eraseP endpoint.sameInstance =
      (t.listed endpoint.serviceName).eraseIdx i := by
    rw [List.eraseP_eq_eraseIdx, hi]
  rcases t.deregisterService_cases endpoint with ⟨removed, hremoved, hend⟩ | ⟨hnone, -⟩
  · obtain rfl := Option.some.inj (hfind.symm.trans hremoved)
    rw [hend]
    refine guarded_branch fun s hs => ?_
    obtain rfl := hs
    have hget : (s.listed endpoint.serviceName).getD i endpoint = (s.listed endpoint.serviceName)[i] :=
      (List.getD_eq_getElem?_getD ..).trans (by rw [List.getElem?_eq_getElem hlt, Option.getD_some])
    rw [herase, hget, ← LocalServiceRegistry.notify_eq]
    exact guarded_update (guarded_notifying (guarded_succeed _))
  · rw [hnone] at hfind
    cases hfind

theorem deregisterServiceAsync_guarded (endpoint : ServiceEndpoint) (t : LocalServiceRegistry κ) :
    Guarded (afterLock (deregisterServiceAsync endpoint)) t (t.deregisterService endpoint).registry
      ((t.deregisterService endpoint).callbacks.map madeCallback ++
        [.lastError (t.deregisterService endpoint).reply.error]) := by
  refine guarded_branch fun s hs => ?_
  obtain rfl := hs
  cases hlookup : s.mServices.lookup endpoint.serviceName with
  | none =>
    have hend : s.toLocalServiceRegistry.deregisterService endpoint =
        ⟨.done (.error ⟨.notFound, "Service not found"⟩), s.toLocalServiceRegistry, []⟩ := by
      rw [LocalServiceRegistry.deregisterService, hlookup]
    rw [hend]
    exact guarded_storeError (guarded_unlock _)
  | some endpoints =>
    refine guarded_branch fun s' hs' => ?_
    rw [hs']
    cases hfind : (s.listed endpoint.serviceName).findIdx? endpoint.sameInstance with
    | none =>
      have hlisted : s.listed endpoint.serviceName = endpoints := by
        rw [LocalServiceRegistry.listed, hlookup]
        rfl
      have hnone : endpoints.find? endpoint.sameInstance = none := by
        rw [List.find?_eq_none, ← hlisted]
        intro ep hep
        rw [List.findIdx?_eq_none_iff.mp hfind ep hep]
        exact Bool.false_ne_true
      have hend : s.toLocalServiceRegistry.deregisterService endpoint =
          ⟨.done (.error ⟨.notFound, "Instance not found"⟩), s.toLocalServiceRegistry, []⟩ := by
        rw [LocalServiceRegistry.deregisterService, hlookup]
        simp only [hnone]
      rw [hend]
      exact guarded_storeError (guarded_unlock _)
    | some i => exact removing_guarded hfind

theorem discoverServiceAsync_guarded (serviceName : Bytes) (t : LocalServiceRegistry κ) :
    Guarded (afterLock (discoverServiceAsync serviceName)) t t
      [.lastEndpoints (t.listed serviceName), .lastError {}] := by
  refine guarded_branch fun s hs => ?_
  obtain rfl := hs
  cases hlookup : s.mServices.lookup serviceName with
  | none =>
    have hlisted : s.listed serviceName = [] := by
      rw [LocalServiceRegistry.listed, hlookup]
      rfl
    rw [hlisted]
    exact guarded_storeEndpoints (guarded_succeed _)
  | some endpoints => exact guarded_storeEndpoints (guarded_succeed _)

theorem watchServiceAsync_guarded (serviceName : Bytes) (callback : κ) (t : LocalServiceRegistry κ) :
    Guarded (afterLock (watchServiceAsync serviceName callback)) t
      (t.watchService serviceName callback).registry [.lastError {}] := by
  dsimp only [afterLock, watchServiceAsync]
  exact guarded_update (guarded_succeed _)

theorem unwatchServiceAsync_guarded (serviceName : Bytes) (t : LocalServiceRegistry κ) :
    Guarded (afterLock (unwatchServiceAsync serviceName)) t (t.unwatchService serviceName).registry
      [.lastError {}] := by
  dsimp only [afterLock, unwatchServiceAsync]
  exact guarded_update (guarded_succeed _)

/-! ## The discipline -/

/-- What a method of `LocalServiceRegistry` does to the tables, and what it makes known. -/
def effect (call : RegistryCall κ) (t : LocalServiceRegistry κ) :
    LocalServiceRegistry κ × List (AsyncRegistryEvent κ) :=
  ((t.call call).registry, (t.call call).callbacks.map madeCallback ++ (t.call call).reply.stores)

theorem program_eq (call : RegistryCall κ) :
    program call = .lock (afterLock (program call)) (afterTimeout (program call)) := by
  cases call with
  | registerService endpoint => rfl
  | deregisterService endpoint => rfl
  | discoverService serviceName => rfl
  | watchService serviceName callback => rfl
  | unwatchService serviceName => rfl

/-- **Under the lock an operation is the method.** -/
theorem program_guarded (call : RegistryCall κ) (t : LocalServiceRegistry κ) :
    Guarded (afterLock (program call)) t (effect call t).1 (effect call t).2 := by
  cases call with
  | registerService endpoint => exact registerServiceAsync_guarded endpoint t
  | deregisterService endpoint =>
    have hstores : (t.deregisterService endpoint).reply.stores =
        ([.lastError (t.deregisterService endpoint).reply.error] : List (AsyncRegistryEvent κ)) := by
      rcases t.deregisterService_cases endpoint with ⟨removed, -, hend⟩ | ⟨-, e, hend⟩
      · rw [hend]
        rfl
      · rw [hend]
        rfl
    show Guarded _ t (t.deregisterService endpoint).registry
      ((t.deregisterService endpoint).callbacks.map madeCallback ++
        (t.deregisterService endpoint).reply.stores)
    rw [hstores]
    exact deregisterServiceAsync_guarded endpoint t
  | discoverService serviceName =>
    show Guarded _ t t (RegistryReply.stores (.found (t.discoverService serviceName)))
    rw [t.discoverService_eq]
    exact discoverServiceAsync_guarded serviceName t
  | watchService serviceName callback => exact watchServiceAsync_guarded serviceName callback t
  | unwatchService serviceName => exact unwatchServiceAsync_guarded serviceName t

/-- **Without it, nothing.** -/
theorem program_idle (call : RegistryCall κ) :
    Idle toLocalServiceRegistry (afterTimeout (program call)) call.refusal := by
  cases call with
  | registerService endpoint => exact idle_storeError .done
  | deregisterService endpoint => exact idle_storeError .done
  | discoverService serviceName => exact idle_storeError (idle_clearEndpoints .done)
  | watchService serviceName callback => exact idle_storeError .done
  | unwatchService serviceName => exact idle_storeError .done

end AsyncLocalServiceRegistry

/-- **The crux**: the operations keep to the lock. -/
def asyncLocking (κ : Type) :
    Locking (AsyncLocalServiceRegistry.program (κ := κ)) (LocalServiceRegistry κ) where
  abs := AsyncLocalServiceRegistry.toLocalServiceRegistry
  granted := fun call => AsyncLocalServiceRegistry.afterLock (AsyncLocalServiceRegistry.program call)
  refused := fun call => AsyncLocalServiceRegistry.afterTimeout (AsyncLocalServiceRegistry.program call)
  program_eq := AsyncLocalServiceRegistry.program_eq
  effect := AsyncLocalServiceRegistry.effect
  granted_section := AsyncLocalServiceRegistry.program_guarded
  refusal := RegistryCall.refusal
  refused_idle := AsyncLocalServiceRegistry.program_idle

/-! ## Linearizability -/

/-- A callback made, if that is what it is. -/
def AsyncRegistryEvent.callback? {κ : Type} : AsyncRegistryEvent κ → Option (κ × ServiceEvent)
  | .callback made event => some (made, event)
  | .lastError _ => none
  | .lastEndpoints _ => none

/-- The callbacks made by a log. -/
def callbacksOf {κ : Type} (log : List (Nat × AsyncRegistryEvent κ)) : List (κ × ServiceEvent) :=
  log.filterMap fun e => e.2.callback?

/-- The sequence of delivered events. -/
def Pool.delivered {κ : Type} (p : AsyncRegistryPool κ) : List (κ × ServiceEvent) := callbacksOf p.log

/-- The operations that obtained the lock, in lock order. -/
def Pool.obtained {κ : Type} (p : AsyncRegistryPool κ) : List (RegistryCall κ) :=
  p.grants.map Prod.snd

/-- Calls one after the other: the registry they leave, and the callbacks they make. -/
def LocalServiceRegistry.calls {κ : Type} :
    LocalServiceRegistry κ → List (RegistryCall κ) → LocalServiceRegistry κ × List (κ × ServiceEvent)
  | r, [] => (r, [])
  | r, c :: cs =>
    ((calls (r.call c).registry cs).1, (r.call c).callbacks ++ (calls (r.call c).registry cs).2)

namespace AsyncLocalServiceRegistry

variable {κ : Type}

theorem callbacksOf_append (log log' : List (Nat × AsyncRegistryEvent κ)) :
    callbacksOf (log ++ log') = callbacksOf log ++ callbacksOf log' := List.filterMap_append

/-- Of what an effect makes known, the callbacks are those of the method. -/
theorem callbacksOf_effect (i : Nat) (call : RegistryCall κ) (t : LocalServiceRegistry κ) :
    callbacksOf ((effect call t).2.map fun e => (i, e)) = (t.call call).callbacks := by
  have hstores : callbacksOf ((t.call call).reply.stores.map fun e => (i, e)) = ([] : List (κ × _)) := by
    unfold RegistryReply.stores RegistryReply.endpoints?
    split
    · rfl
    · rfl
  show callbacksOf (List.map _ (_ ++ _)) = _
  rw [List.map_append, callbacksOf_append, hstores, List.append_nil, callbacksOf, List.map_map,
    List.filterMap_map]
  exact List.filterMap_some

/-- A refusal makes no callback. -/
theorem callback?_refusal {call : RegistryCall κ} {e : AsyncRegistryEvent κ} (h : e ∈ call.refusal) :
    e.callback? = none := by
  cases e with
  | callback callback event =>
    cases call with
    | _ => simp [RegistryCall.refusal] at h
  | lastError error => rfl
  | lastEndpoints endpoints => rfl

theorem serialState_eq (t : LocalServiceRegistry κ) (grants : List (Nat × RegistryCall κ)) :
    (asyncLocking κ).serialState t grants = (t.calls (grants.map Prod.snd)).1 := by
  induction grants generalizing t with
  | nil => rfl
  | cons g grants ih => exact ih (t.call g.2).registry

theorem callbacksOf_serialLog (t : LocalServiceRegistry κ) (grants : List (Nat × RegistryCall κ)) :
    callbacksOf ((asyncLocking κ).serialLog t grants) = (t.calls (grants.map Prod.snd)).2 := by
  induction grants generalizing t with
  | nil => rfl
  | cons g grants ih =>
    show callbacksOf (((effect g.2 t).2.map fun e => (g.1, e)) ++ _) = _
    rw [callbacksOf_append, callbacksOf_effect]
    exact congrArg _ (ih (t.call g.2).registry)

/-- Only those who got the lock make callbacks. -/
theorem delivered_eq {t : LocalServiceRegistry κ} {p : AsyncRegistryPool κ}
    (hp : Serialized (asyncLocking κ) t p) : p.delivered = callbacksOf (jointLog p.lockOrder p.log) := by
  unfold Pool.delivered callbacksOf jointLog
  rw [List.filterMap_filter]
  refine List.filterMap_congr fun e he => ?_
  by_cases hid : e.1 ∈ p.lockOrder
  · rw [if_pos (decide_eq_true hid)]
  · rw [if_neg (by simpa using hid)]
    rcases hp.mem_log he with ⟨pre, op, post, hgrants, -⟩ | ⟨-, op, r, -, hrefusal⟩
    · refine absurd ?_ hid
      rw [Pool.lockOrder, hgrants, List.map_append]
      exact List.mem_append_right _ List.mem_cons_self
    · exact callback?_refusal hrefusal

end AsyncLocalServiceRegistry

/-- **Linearized**: what a pool of operations on a registry that was `start` has come to is what
    `LocalServiceRegistry` makes of those that obtained the lock, in lock order. -/
structure Linearized {κ : Type} (start : AsyncLocalServiceRegistry κ) (p : AsyncRegistryPool κ) :
    Prop where
  /-- What is in the lock order is the operation of the coroutine. -/
  operations : ∀ i call, (i, call) ∈ p.grants → ∃ r, p.routines[i]? = some (call, r)
  /-- While nobody holds the lock, state and events are the sequential ones. -/
  free : p.holder = none →
    (p.shared.toLocalServiceRegistry, p.delivered) = start.toLocalServiceRegistry.calls p.obtained
  /-- While somebody does, some of the last operation may be missing, -/
  held : p.delivered <+: (start.toLocalServiceRegistry.calls p.obtained).2
  /-- and its own steps lead to the release. -/
  finishes : ∀ i, p.holder = some i → ∃ n p',
    Run (Pool.step AsyncLocalServiceRegistry.program) (fun _ _ => True) p
      (List.replicate n (.run i)) p' ∧ p'.holder = none ∧ p'.grants = p.grants
  /-- The releases are the grants, in that order, but for that of the holder. -/
  releases : p.lockOrder = p.releases ++ p.holder.toList
  /-- An operation that is over has released the lock once if it obtained it, which it did at most
      once, and never if not. -/
  once : ∀ i call, p.routines[i]? = some (call, .done) →
    p.releases.count i = p.lockOrder.count i ∧ p.lockOrder.count i ≤ 1

/-- **`AsyncLocalServiceRegistry` is linearizable to `LocalServiceRegistry`**, whatever runs on it, in
    every interleaving and with any attempts at the lock that time out; and the lock order never puts
    an operation before one that was over when it was still ahead of the lock. -/
theorem async_registry_linearizable {κ : Type} {start : AsyncLocalServiceRegistry κ}
    {actions : List (PoolAction (RegistryCall κ))} {p : AsyncRegistryPool κ}
    (h : Run (Pool.step AsyncLocalServiceRegistry.program) (fun _ _ => True) (Pool.initial start)
      actions p) :
    Linearized start p ∧
    ∀ actions' p', Run (Pool.step AsyncLocalServiceRegistry.program) (fun _ _ => True) p actions' p' →
      ∃ later, p'.grants = p.grants ++ later ∧
        ∀ i call, (i, call) ∈ later → ∀ call', p.routines[i]? ≠ some (call', .done) := by
  have hp := (asyncLocking κ).serialized h
  have hserial := AsyncLocalServiceRegistry.callbacksOf_serialLog start.toLocalServiceRegistry p.grants
  have hdelivered := AsyncLocalServiceRegistry.delivered_eq hp
  refine ⟨?_, fun actions' p' h' => Pool.later_grants h'⟩
  constructor
  · exact hp.owned
  · intro hfree
    obtain ⟨hstate, hlog⟩ := hp.of_free hfree
    rw [hlog] at hdelivered
    refine Prod.ext (hstate.trans ?_) (hdelivered.trans hserial)
    exact AsyncLocalServiceRegistry.serialState_eq start.toLocalServiceRegistry p.grants
  · obtain ⟨rest, hlog, -⟩ := hp.jointLog_prefix
    have hprefix := congrArg callbacksOf hlog
    rw [AsyncLocalServiceRegistry.callbacksOf_append, ← hdelivered] at hprefix
    exact ⟨_, hprefix.trans hserial⟩
  · exact fun i hi => hp.holder_finishes hi
  · exact hp.releases_eq
  · exact fun i call hi => hp.released_once hi

/-- A watcher and a registration, one after the other, with a discovery that times out meanwhile. -/
theorem async_registry_linearizable_watched :
    ∃ p : AsyncRegistryPool Unit, p.delivered = [((), ⟨.added, ⟨[1], 90, [7], [5], 100⟩⟩)] ∧
      p.releases = [0, 1] ∧ Linearized {} p := by
  refine ⟨_, ?_, ?_, (@async_registry_linearizable Unit {}
    [.start (.watchService [7] ()), .start (.registerService ⟨[1], 90, [7], [5], 100⟩),
      .start (.discoverService [7]), .grant 0, .refuse 2, .run 0, .run 2, .run 0, .run 0, .grant 1,
      .run 1, .run 2, .run 1, .run 1, .run 1, .run 1] _ (run_iff_runAll.mpr rfl)).1⟩
  · rfl
  · rfl

end GalayRpc
