/-
  `rpc_discovery.h`: `LocalServiceRegistry`, what its watchers are told, and how far a deregistration
  reaches.

  1. **Registry** — two hash tables, here finite maps from service names: the endpoints of a service,
     and the callbacks that watch it.  A callback is a value of an arbitrary type `κ`; a method returns
     the callbacks it makes beside its result, in the order in which it makes them.  A callback that
     does not call back into the registry has no other part in it.

  2. **Runs** — `RegistryRun` numbers the registrations of watchers, so that two of them are told apart
     even where the callback is the same, and keeps the log of the callbacks made.

  3. **Events** — what one call does to the endpoints of a service is what it announces (`call_listed`),
     and every watcher of the service is told just that (`Watching.call`).  Along a run both add up:
     the log of a watcher, replayed on the endpoints it found, gives the endpoints there are.

  4. **Duplicates** — `registerService` appends without looking, so an instance can be listed twice, and
     a deregistration takes one of the two away.  It takes a registration of a listed instance to get
     there (`FreshRegistration`), and nothing else does.
-/
import Mathlib.Data.List.AList
import GalayRpc.Lib.Bytes
import GalayRpc.Lib.Run

namespace GalayRpc

/-- `ServiceEndpoint`. -/
structure ServiceEndpoint where
  host : Bytes
  port : UInt16
  serviceName : Bytes
  instanceId : Bytes
  weight : UInt32 := 100
deriving DecidableEq, Repr

/-- `DiscoveryError::Code`. -/
inductive DiscoveryErrorCode where
  | ok
  | notFound
  | connectionError
  | lockTimeout
  | internalError
deriving DecidableEq, Repr

/-- `DiscoveryError`. -/
structure DiscoveryError where
  code : DiscoveryErrorCode := .ok
  message : String := ""
deriving DecidableEq, Repr

/-- `ServiceEventType`. -/
inductive ServiceEventType where
  | added
  | removed
  | updated
deriving DecidableEq, Repr

/-- `ServiceEvent`. -/
structure ServiceEvent where
  type : ServiceEventType
  endpoint : ServiceEndpoint
deriving DecidableEq, Repr

/-! ## The registry -/

/-- `LocalServiceRegistry`. -/
structure LocalServiceRegistry (κ : Type) where
  mServices : AList fun _ : Bytes => List ServiceEndpoint := ∅
  mWatchers : AList fun _ : Bytes => List κ := ∅

/-- What a method returns, if anything. -/
inductive RegistryReply where
  | void
  | done (result : Except DiscoveryError Unit)
  | found (result : Except DiscoveryError (List ServiceEndpoint))

/-- A method that has run: what it returns, the registry it leaves, and the callbacks it has made. -/
structure RegistryCallEnd (κ : Type) where
  reply : RegistryReply
  registry : LocalServiceRegistry κ
  callbacks : List (κ × ServiceEvent) := []

/-- `ep.instance_id == endpoint.instance_id`. -/
def ServiceEndpoint.sameInstance (endpoint ep : ServiceEndpoint) : Bool :=
  ep.instanceId == endpoint.instanceId

/-- What is found for an endpoint has its instance id. -/
theorem ServiceEndpoint.instanceId_of_find? {endpoints : List ServiceEndpoint}
    {endpoint found : ServiceEndpoint} (h : endpoints.find? endpoint.sameInstance = some found) :
    found.instanceId = endpoint.instanceId := by
  have hsame : endpoint.sameInstance found = true := List.find?_some h
  exact eq_of_beq hsame

namespace LocalServiceRegistry

variable {κ : Type} (r : LocalServiceRegistry κ)

/-- The endpoints of a service; `m_services[name]` makes an empty entry where there is none. -/
def listed (serviceName : Bytes) : List ServiceEndpoint := (r.mServices.lookup serviceName).getD []

/-- The callbacks of a service, likewise. -/
def watchers (serviceName : Bytes) : List κ := (r.mWatchers.lookup serviceName).getD []

/-- The loop over `m_watchers.find(service_name)`. -/
def notify (serviceName : Bytes) (event : ServiceEvent) : List (κ × ServiceEvent) :=
  match r.mWatchers.lookup serviceName with
  | none => []
  | some callbacks => callbacks.map fun callback => (callback, event)

/-- The entry of a service replaced. -/
def setListed (serviceName : Bytes) (endpoints : List ServiceEndpoint) : LocalServiceRegistry κ :=
  { r with mServices := r.mServices.insert serviceName endpoints }

/-- `registerService`. -/
def registerService (endpoint : ServiceEndpoint) : RegistryCallEnd κ :=
  let r' := r.setListed endpoint.serviceName (r.listed endpoint.serviceName ++ [endpoint])
  ⟨.done (.ok ()), r', r'.notify endpoint.serviceName ⟨.added, endpoint⟩⟩

/-- `deregisterService`. -/
def deregisterService (endpoint : ServiceEndpoint) : RegistryCallEnd κ :=
  match r.mServices.lookup endpoint.serviceName with
  | none => ⟨.done (.error ⟨.notFound, "Service not found"⟩), r, []⟩
  | some endpoints =>
    match endpoints.find? endpoint.sameInstance with
    | none => ⟨.done (.error ⟨.notFound, "Instance not found"⟩), r, []⟩
    | some removed =>
      let r' := r.setListed endpoint.serviceName (endpoints.eraseP endpoint.sameInstance)
      ⟨.done (.ok ()), r', r'.notify endpoint.serviceName ⟨.removed, removed⟩⟩

/-- `discoverService`. -/
def discoverService (serviceName : Bytes) : Except DiscoveryError (List ServiceEndpoint) :=
  match r.mServices.lookup serviceName with
  | none => .ok []
  | some endpoints => .ok endpoints

/-- `watchService`. -/
def watchService (serviceName : Bytes) (callback : κ) : RegistryCallEnd κ :=
  ⟨.done (.ok ()),
    { r with mWatchers := r.mWatchers.insert serviceName (r.watchers serviceName ++ [callback]) }, []⟩

/-- `unwatchService`. -/
def unwatchService (serviceName : Bytes) : RegistryCallEnd κ :=
  ⟨.void, { r with mWatchers := r.mWatchers.erase serviceName }, []⟩

end LocalServiceRegistry

/-- A call on the registry. -/
inductive RegistryCall (κ : Type) where
  | registerService (endpoint : ServiceEndpoint)
  | deregisterService (endpoint : ServiceEndpoint)
  | discoverService (serviceName : Bytes)
  | watchService (serviceName : Bytes) (callback : κ)
  | unwatchService (serviceName : Bytes)

namespace LocalServiceRegistry

variable {κ : Type} (r : LocalServiceRegistry κ)

/-- Make a call. -/
def call : RegistryCall κ → RegistryCallEnd κ
  | .registerService endpoint => r.registerService endpoint
  | .deregisterService endpoint => r.deregisterService endpoint
  | .discoverService serviceName => ⟨.found (r.discoverService serviceName), r, []⟩
  | .watchService serviceName callback => r.watchService serviceName callback
  | .unwatchService serviceName => r.unwatchService serviceName

/-! ### What the methods do

  Reading by `listed` and `watchers`, no entry is an empty one, and a method changes one service. -/

theorem discoverService_eq (serviceName : Bytes) :
    r.discoverService serviceName = .ok (r.listed serviceName) := by
  unfold discoverService listed
  cases r.mServices.lookup serviceName with
  | none => rfl
  | some endpoints => rfl

theorem notify_eq (serviceName : Bytes) (event : ServiceEvent) :
    r.notify serviceName event = (r.watchers serviceName).map fun callback => (callback, event) := by
  unfold notify watchers
  cases r.mWatchers.lookup serviceName with
  | none => rfl
  | some callbacks => rfl

theorem listed_setListed (serviceName name : Bytes) (endpoints : List ServiceEndpoint) :
    (r.setListed serviceName endpoints).listed name =
      if serviceName = name then endpoints else r.listed name := by
  unfold setListed listed
  by_cases h : serviceName = name
  · subst h
    rw [AList.lookup_insert, if_pos rfl, Option.getD_some]
  · rw [AList.lookup_insert_ne (Ne.symm h), if_neg h]

theorem watchers_watchService (serviceName name : Bytes) (callback : κ) :
    (r.watchService serviceName callback).registry.watchers name =
      if serviceName = name then r.watchers name ++ [callback] else r.watchers name := by
  unfold watchService watchers
  by_cases h : serviceName = name
  · subst h
    rw [AList.lookup_insert, if_pos rfl, Option.getD_some]
  · rw [AList.lookup_insert_ne (Ne.symm h), if_neg h]

theorem watchers_unwatchService (serviceName name : Bytes) :
    (r.unwatchService serviceName).registry.watchers name =
      if serviceName = name then [] else r.watchers name := by
  unfold unwatchService watchers
  by_cases h : serviceName = name
  · subst h
    rw [AList.lookup_erase, if_pos rfl, Option.getD_none]
  · rw [AList.lookup_erase_ne (Ne.symm h), if_neg h]

/-- **What a deregistration does**: take away the first endpoint with that instance id, and say which
    it was; or, where there is none, nothing at all. -/
theorem deregisterService_cases (endpoint : ServiceEndpoint) :
    (∃ removed, (r.listed endpoint.serviceName).find? endpoint.sameInstance = some removed ∧
      r.deregisterService endpoint = ⟨.done (.ok ()),
        r.setListed endpoint.serviceName ((r.listed endpoint.serviceName).eraseP endpoint.sameInstance),
        (r.watchers endpoint.serviceName).map fun callback => (callback, ⟨.removed, removed⟩)⟩) ∨
    ((r.listed endpoint.serviceName).find? endpoint.sameInstance = none ∧
      ∃ e, r.deregisterService endpoint = ⟨.done (.error e), r, []⟩) := by
  unfold deregisterService listed
  cases hlookup : r.mServices.lookup endpoint.serviceName with
  | none => exact .inr ⟨rfl, _, rfl⟩
  | some endpoints =>
    simp only [Option.getD_some]
    cases hfind : endpoints.find? endpoint.sameInstance with
    | none => exact .inr ⟨rfl, _, rfl⟩
    | some removed =>
      refine .inl ⟨removed, rfl, ?_⟩
      simp only [notify_eq]
      rfl

end LocalServiceRegistry

/-! ## What a call announces -/

/-- What a call changes about a service, for those who watch it: the endpoint it adds, or the one it
    takes away. -/
def RegistryCall.changes {κ : Type} (serviceName : Bytes) (endpoints : List ServiceEndpoint) :
    RegistryCall κ → List ServiceEvent
  | .registerService endpoint =>
    if endpoint.serviceName = serviceName then [⟨.added, endpoint⟩] else []
  | .deregisterService endpoint =>
    if endpoint.serviceName = serviceName then
      match endpoints.find? endpoint.sameInstance with
      | none => []
      | some removed => [⟨.removed, removed⟩]
    else []
  | .discoverService _ => []
  | .watchService _ _ => []
  | .unwatchService _ => []

/-- The service a call is about. -/
def RegistryCall.service {κ : Type} : RegistryCall κ → Bytes
  | .registerService endpoint => endpoint.serviceName
  | .deregisterService endpoint => endpoint.serviceName
  | .discoverService serviceName => serviceName
  | .watchService serviceName _ => serviceName
  | .unwatchService serviceName => serviceName

theorem RegistryCall.changes_of_ne {κ : Type} {c : RegistryCall κ} {serviceName : Bytes}
    (h : c.service ≠ serviceName) (endpoints : List ServiceEndpoint) :
    c.changes serviceName endpoints = [] := by
  cases c with
  | registerService endpoint => exact if_neg h
  | deregisterService endpoint => exact if_neg h
  | discoverService name => rfl
  | watchService name callback => rfl
  | unwatchService name => rfl

/-- One step of a replay: append the endpoint, or remove the first one with that instance id. -/
def ServiceEvent.apply (endpoints : List ServiceEndpoint) (event : ServiceEvent) :
    List ServiceEndpoint :=
  match event.type with
  | .added => endpoints ++ [event.endpoint]
  | .removed => endpoints.eraseP event.endpoint.sameInstance
  | .updated => endpoints

/-- Replay events on a list of endpoints. -/
def replay (events : List ServiceEvent) (endpoints : List ServiceEndpoint) : List ServiceEndpoint :=
  events.foldl ServiceEvent.apply endpoints

theorem replay_append (events events' : List ServiceEvent) (endpoints : List ServiceEndpoint) :
    replay (events ++ events') endpoints = replay events' (replay events endpoints) :=
  List.foldl_append ..

namespace LocalServiceRegistry

variable {κ : Type} (r : LocalServiceRegistry κ)

/-- **A service lists what has been announced of it.** -/
theorem call_listed (c : RegistryCall κ) (serviceName : Bytes) :
    (r.call c).registry.listed serviceName =
      replay (c.changes serviceName (r.listed serviceName)) (r.listed serviceName) := by
  cases c with
  | registerService endpoint =>
    show (r.setListed endpoint.serviceName _).listed serviceName = _
    rw [listed_setListed, RegistryCall.changes]
    by_cases h : endpoint.serviceName = serviceName
    · subst h
      rw [if_pos rfl, if_pos rfl]
      rfl
    · rw [if_neg h, if_neg h]
      rfl
  | deregisterService endpoint =>
    show (r.deregisterService endpoint).registry.listed serviceName = _
    rw [RegistryCall.changes]
    rcases r.deregisterService_cases endpoint with ⟨removed, hfind, hend⟩ | ⟨hfind, e, hend⟩
    · rw [hend]
      show (r.setListed endpoint.serviceName _).listed serviceName = _
      rw [listed_setListed]
      by_cases h : endpoint.serviceName = serviceName
      · subst h
        -- the replay looks for the instance id of the endpoint that was removed, which is the same
        have hsame := ServiceEndpoint.instanceId_of_find? hfind
        have hpred : removed.sameInstance = endpoint.sameInstance := by
          funext ep
          rw [ServiceEndpoint.sameInstance, ServiceEndpoint.sameInstance, hsame]
        rw [if_pos rfl, if_pos rfl, hfind]
        show _ = (r.listed endpoint.serviceName).eraseP removed.sameInstance
        rw [hpred]
      · rw [if_neg h, if_neg h]
        rfl
    · rw [hend]
      by_cases h : endpoint.serviceName = serviceName
      · subst h
        rw [if_pos rfl, hfind]
        rfl
      · rw [if_neg h]
        rfl
  | discoverService name => rfl
  | watchService name callback => rfl
  | unwatchService name => rfl

/-- **The watchers of a service are told what is announced of it**, each exactly that. -/
theorem call_callbacks (c : RegistryCall κ) :
    (r.call c).callbacks =
      (c.changes c.service (r.listed c.service)).flatMap fun event =>
        (r.watchers c.service).map fun callback => (callback, event) := by
  cases c with
  | registerService endpoint =>
    show notify _ endpoint.serviceName _ = _
    rw [notify_eq, RegistryCall.service, RegistryCall.changes, if_pos rfl, List.flatMap_singleton]
    rfl
  | deregisterService endpoint =>
    show (r.deregisterService endpoint).callbacks = _
    rw [RegistryCall.service, RegistryCall.changes, if_pos rfl]
    rcases r.deregisterService_cases endpoint with ⟨removed, hfind, hend⟩ | ⟨hfind, e, hend⟩
    · rw [hend, hfind, List.flatMap_singleton]
    · rw [hend, hfind]
      rfl
  | discoverService name => rfl
  | watchService name callback => rfl
  | unwatchService name => rfl

/-- A call leaves the watchers of a service alone, but for one that adds a watcher to it or that drops
    them all. -/
theorem call_watchers (c : RegistryCall κ) (name : Bytes) :
    (r.call c).registry.watchers name =
      match c with
      | .watchService serviceName callback =>
        if serviceName = name then r.watchers name ++ [callback] else r.watchers name
      | .unwatchService serviceName => if serviceName = name then [] else r.watchers name
      | _ => r.watchers name := by
  cases c with
  | registerService endpoint => rfl
  | deregisterService endpoint =>
    show (r.deregisterService endpoint).registry.watchers name = r.watchers name
    rcases r.deregisterService_cases endpoint with ⟨removed, -, hend⟩ | ⟨-, e, hend⟩
    · rw [hend]
      rfl
    · rw [hend]
  | discoverService serviceName => rfl
  | watchService serviceName callback => exact r.watchers_watchService serviceName name callback
  | unwatchService serviceName => exact r.watchers_unwatchService serviceName name

end LocalServiceRegistry

/-! ## Runs -/

/-- A registration of a callback, by the number of the call that made it. -/
structure Watcher (κ : Type) where
  number : Nat
  callback : κ

/-- Register the callback under a number. -/
def RegistryCall.numbered {κ : Type} (number : Nat) : RegistryCall κ → RegistryCall (Watcher κ)
  | .registerService endpoint => .registerService endpoint
  | .deregisterService endpoint => .deregisterService endpoint
  | .discoverService serviceName => .discoverService serviceName
  | .watchService serviceName callback => .watchService serviceName ⟨number, callback⟩
  | .unwatchService serviceName => .unwatchService serviceName

theorem RegistryCall.changes_numbered {κ : Type} (number : Nat) (c : RegistryCall κ) (name : Bytes)
    (endpoints : List ServiceEndpoint) :
    (c.numbered number).changes name endpoints = c.changes name endpoints := by
  cases c with
  | registerService endpoint => rfl
  | deregisterService endpoint => rfl
  | discoverService serviceName => rfl
  | watchService serviceName callback => rfl
  | unwatchService serviceName => rfl

theorem RegistryCall.service_numbered {κ : Type} (number : Nat) (c : RegistryCall κ) :
    (c.numbered number).service = c.service := by
  cases c with
  | registerService endpoint => rfl
  | deregisterService endpoint => rfl
  | discoverService serviceName => rfl
  | watchService serviceName callback => rfl
  | unwatchService serviceName => rfl

/-- A registry in use: the calls made so far, and the callbacks they have made. -/
structure RegistryRun (κ : Type) where
  registry : LocalServiceRegistry (Watcher κ) := {}
  count : Nat := 0
  log : List (Watcher κ × ServiceEvent) := []

namespace RegistryRun

variable {κ : Type} (run : RegistryRun κ)

/-- The registry at the start. -/
def start : RegistryRun κ := {}

/-- What the next call returns. -/
def reply (c : RegistryCall κ) : RegistryReply := (run.registry.call (c.numbered run.count)).reply

/-- The next call. -/
def call (c : RegistryCall κ) : RegistryRun κ where
  registry := (run.registry.call (c.numbered run.count)).registry
  count := run.count + 1
  log := run.log ++ (run.registry.call (c.numbered run.count)).callbacks

/-- Calls one after the other. -/
def calls (cs : List (RegistryCall κ)) : RegistryRun κ := cs.foldl call run

/-- The events a watcher has received. -/
def eventsOf (number : Nat) : List ServiceEvent :=
  (run.log.filter fun entry => entry.1.number == number).map Prod.snd

/-- The registrations of a service that go by a number. -/
def held (serviceName : Bytes) (number : Nat) : Nat :=
  (run.registry.watchers serviceName).countP fun w => w.number == number

theorem calls_cons (c : RegistryCall κ) (cs : List (RegistryCall κ)) :
    run.calls (c :: cs) = (run.call c).calls cs := rfl

theorem calls_append (cs cs' : List (RegistryCall κ)) :
    run.calls (cs ++ cs') = (run.calls cs).calls cs' := List.foldl_append ..

theorem call_listed (c : RegistryCall κ) (serviceName : Bytes) :
    (run.call c).registry.listed serviceName =
      replay (c.changes serviceName (run.registry.listed serviceName))
        (run.registry.listed serviceName) := by
  rw [← c.changes_numbered run.count]
  exact run.registry.call_listed _ _

/-- What is told to all watchers of a service reaches a number as often as it is held there. -/
theorem told_eq (watchers : List (Watcher κ)) (number : Nat) (event : ServiceEvent) :
    ((watchers.map fun w => (w, event)).filter fun entry => entry.1.number == number).map Prod.snd =
      List.replicate (watchers.countP fun w => w.number == number) event := by
  rw [List.filter_map, List.map_map, List.countP_eq_length_filter]
  exact List.map_const' ..

/-- One call, as a watcher sees it. -/
theorem call_eventsOf (c : RegistryCall κ) (number : Nat) :
    (run.call c).eventsOf number =
      run.eventsOf number ++ (c.changes c.service (run.registry.listed c.service)).flatMap fun event =>
        List.replicate (run.held c.service number) event := by
  show ((run.log ++ _).filter _).map Prod.snd = _
  rw [List.filter_append, List.map_append, LocalServiceRegistry.call_callbacks,
    c.service_numbered, c.changes_numbered, List.filter_flatMap, List.map_flatMap]
  simp only [told_eq]
  rfl

theorem call_held (c : RegistryCall κ) (name : Bytes) (number : Nat) :
    (run.call c).held name number =
      match c with
      | .watchService serviceName _ =>
        run.held name number + if serviceName = name ∧ run.count = number then 1 else 0
      | .unwatchService serviceName => if serviceName = name then 0 else run.held name number
      | _ => run.held name number := by
  unfold held
  show ((run.registry.call (c.numbered run.count)).registry.watchers name).countP _ = _
  rw [LocalServiceRegistry.call_watchers]
  cases c with
  | registerService endpoint => rfl
  | deregisterService endpoint => rfl
  | discoverService serviceName => rfl
  | watchService serviceName callback =>
    by_cases h : serviceName = name
    · subst h
      simp only [RegistryCall.numbered, if_true, List.countP_append, List.countP_singleton, beq_iff_eq,
        true_and]
    · simp only [RegistryCall.numbered, h, false_and, if_false, Nat.add_zero]
  | unwatchService serviceName =>
    by_cases h : serviceName = name
    · simp only [RegistryCall.numbered, if_pos h, List.countP_nil]
    · simp only [RegistryCall.numbered, if_neg h]

/-! ### Numbers -/

/-- No number is used before its call. -/
def Unused : Prop := ∀ number, run.count ≤ number →
  run.eventsOf number = [] ∧ ∀ name, run.held name number = 0

theorem Unused.call {run : RegistryRun κ} (h : run.Unused) (c : RegistryCall κ) :
    (run.call c).Unused := by
  intro number hle
  have hlt : run.count < number := hle
  obtain ⟨hevents, hheld⟩ := h number hlt.le
  constructor
  · rw [call_eventsOf, hevents, hheld]
    simp
  · intro name
    rw [call_held]
    cases c with
    | watchService serviceName callback =>
      have hne : ¬ (serviceName = name ∧ run.count = number) := by
        rintro ⟨-, rfl⟩
        exact absurd hlt (lt_irrefl _)
      simp only [hheld, if_neg hne]
    | registerService endpoint => exact hheld name
    | deregisterService endpoint => exact hheld name
    | discoverService serviceName => exact hheld name
    | unwatchService serviceName => simp only [hheld, ite_self]

theorem unused_calls (cs : List (RegistryCall κ)) : (start.calls cs : RegistryRun κ).Unused := by
  have hstart : (start : RegistryRun κ).Unused := fun number _ => ⟨rfl, fun name => rfl⟩
  exact List.foldlRecOn cs call hstart fun run hrun c _ => hrun.call c

/-- A number is a watcher of one service, once. -/
structure Watching (serviceName : Bytes) (number : Nat) (run : RegistryRun κ) : Prop where
  known : number < run.count
  once : run.held serviceName number = 1
  nowhere : ∀ name, name ≠ serviceName → run.held name number = 0

theorem Unused.watching {run : RegistryRun κ} (h : run.Unused) (serviceName : Bytes) (callback : κ) :
    Watching serviceName run.count (run.call (.watchService serviceName callback)) where
  known := Nat.lt_succ_self _
  once := by
    rw [call_held]
    simp only [(h run.count le_rfl).2, and_self, if_true, Nat.zero_add]
  nowhere := by
    intro name hne
    rw [call_held]
    simp only [(h run.count le_rfl).2, hne.symm, false_and, if_false, Nat.zero_add]

/-- **One call and one watcher.**  It stays one unless it is unwatched, and it is told what the call
    announces of its service. -/
theorem Watching.call {serviceName : Bytes} {number : Nat} {run : RegistryRun κ}
    (h : Watching serviceName number run) {c : RegistryCall κ} (hc : c ≠ .unwatchService serviceName) :
    Watching serviceName number (run.call c) ∧
      (run.call c).eventsOf number =
        run.eventsOf number ++ c.changes serviceName (run.registry.listed serviceName) := by
  refine ⟨⟨h.known.trans (Nat.lt_succ_self _), ?_, ?_⟩, ?_⟩
  · rw [call_held]
    cases c with
    | watchService name callback =>
      have hne : ¬ (name = serviceName ∧ run.count = number) := fun heq => h.known.ne heq.2.symm
      simp only [h.once, if_neg hne]
    | unwatchService name =>
      have hne : name ≠ serviceName := by
        rintro rfl
        exact hc rfl
      simp only [if_neg hne, h.once]
    | registerService endpoint => exact h.once
    | deregisterService endpoint => exact h.once
    | discoverService name => exact h.once
  · intro name hname
    rw [call_held]
    cases c with
    | watchService serviceName' callback =>
      have hne : ¬ (serviceName' = name ∧ run.count = number) := fun heq => h.known.ne heq.2.symm
      simp only [h.nowhere name hname, if_neg hne]
    | unwatchService serviceName' => simp only [h.nowhere name hname, ite_self]
    | registerService endpoint => exact h.nowhere name hname
    | deregisterService endpoint => exact h.nowhere name hname
    | discoverService name' => exact h.nowhere name hname
  · rw [call_eventsOf]
    by_cases hservice : c.service = serviceName
    · rw [hservice, h.once]
      simp
    · rw [h.nowhere _ hservice, RegistryCall.changes_of_ne hservice]
      simp

/-! ### What a run announces -/

/-- What the calls change about a service. -/
def changesOf (serviceName : Bytes) : RegistryRun κ → List (RegistryCall κ) → List ServiceEvent
  | _, [] => []
  | run, c :: cs =>
    c.changes serviceName (run.registry.listed serviceName) ++ changesOf serviceName (run.call c) cs

theorem calls_listed (serviceName : Bytes) (cs : List (RegistryCall κ)) :
    (run.calls cs).registry.listed serviceName =
      replay (changesOf serviceName run cs) (run.registry.listed serviceName) := by
  induction cs generalizing run with
  | nil => rfl
  | cons c cs ih => rw [calls_cons, ih, call_listed, changesOf, replay_append]

theorem Watching.calls {serviceName : Bytes} {number : Nat} {run : RegistryRun κ}
    (h : Watching serviceName number run) {cs : List (RegistryCall κ)}
    (hcs : RegistryCall.unwatchService serviceName ∉ cs) :
    (run.calls cs).eventsOf number = run.eventsOf number ++ changesOf serviceName run cs := by
  induction cs generalizing run with
  | nil => exact (List.append_nil _).symm
  | cons c cs ih =>
    obtain ⟨hhead, htail⟩ := List.ne_and_not_mem_of_not_mem_cons hcs
    obtain ⟨hnext, hevents⟩ := h.call hhead.symm
    rw [calls_cons, ih hnext htail, hevents, changesOf, List.append_assoc]

end RegistryRun

/-- The call succeeded. -/
def RegistryReply.succeeded : RegistryReply → Bool
  | .done (.ok ()) => true
  | _ => false

/-- A registration or a deregistration. -/
def RegistryCall.isChange {κ : Type} : RegistryCall κ → Bool
  | .registerService _ => true
  | .deregisterService _ => true
  | _ => false

/-- The event that tells of a successful registration or deregistration. -/
def RegistryCall.Announces {κ : Type} (c : RegistryCall κ) (event : ServiceEvent) : Prop :=
  match c with
  | .registerService endpoint => event = ⟨.added, endpoint⟩
  | .deregisterService endpoint =>
    event.type = .removed ∧ event.endpoint.instanceId = endpoint.instanceId
  | _ => False

namespace RegistryRun

variable {κ : Type} (run : RegistryRun κ)

/-- The successful registrations and deregistrations under a service, of some calls. -/
def successes (serviceName : Bytes) : RegistryRun κ → List (RegistryCall κ) → List (RegistryCall κ)
  | _, [] => []
  | run, c :: cs =>
    if c.isChange ∧ c.service = serviceName ∧ (run.reply c).succeeded then
      c :: successes serviceName (run.call c) cs
    else successes serviceName (run.call c) cs

/-- A call announces one event if it is a successful registration or deregistration, and none if not. -/
theorem changes_announced (c : RegistryCall κ) (serviceName : Bytes) :
    List.Forall₂ RegistryCall.Announces
      (if c.isChange ∧ c.service = serviceName ∧ (run.reply c).succeeded then [c] else [])
      (c.changes serviceName (run.registry.listed serviceName)) := by
  by_cases hservice : c.service = serviceName
  · subst hservice
    cases c with
    | registerService endpoint =>
      rw [if_pos ⟨rfl, rfl, rfl⟩, RegistryCall.changes, RegistryCall.service, if_pos rfl]
      exact .cons rfl .nil
    | deregisterService endpoint =>
      have hreply : run.reply (.deregisterService endpoint) =
        (run.registry.deregisterService endpoint).reply := rfl
      rw [RegistryCall.changes, RegistryCall.service, if_pos rfl, hreply]
      rcases run.registry.deregisterService_cases endpoint with
        ⟨removed, hfind, hend⟩ | ⟨hfind, e, hend⟩
      · rw [hend, hfind, if_pos ⟨rfl, rfl, rfl⟩]
        exact .cons ⟨rfl, ServiceEndpoint.instanceId_of_find? hfind⟩ .nil
      · rw [hend, hfind, if_neg (by simp [RegistryReply.succeeded])]
        exact .nil
    | discoverService name => exact .nil
    | watchService name callback => exact .nil
    | unwatchService name => exact .nil
  · rw [if_neg fun h => hservice h.2.1, RegistryCall.changes_of_ne hservice]
    exact .nil

theorem changesOf_announced (serviceName : Bytes) (cs : List (RegistryCall κ)) :
    List.Forall₂ RegistryCall.Announces (successes serviceName run cs)
      (changesOf serviceName run cs) := by
  induction cs generalizing run with
  | nil => exact .nil
  | cons c cs ih =>
    have hhead := run.changes_announced c serviceName
    rw [successes, changesOf]
    split at hhead
    · rename_i h
      rw [if_pos h]
      exact List.rel_append hhead (ih (run.call c))
    · rename_i h
      rw [if_neg h]
      exact List.rel_append hhead (ih (run.call c))

/-- Endpoints are listed under the service they name. -/
def Filed : Prop := ∀ name, ∀ ep ∈ run.registry.listed name, ep.serviceName = name

theorem Filed.call {run : RegistryRun κ} (h : run.Filed) (c : RegistryCall κ) : (run.call c).Filed := by
  intro name ep hmem
  rw [call_listed] at hmem
  have hold := h name ep
  cases c with
  | registerService endpoint =>
    rw [RegistryCall.changes] at hmem
    split at hmem
    · rename_i heq
      rcases List.mem_append.mp hmem with hmem | hmem
      · exact hold hmem
      · rw [List.mem_singleton.mp hmem]
        exact heq
    · exact hold hmem
  | deregisterService endpoint =>
    rw [RegistryCall.changes] at hmem
    split at hmem
    · split at hmem
      · exact hold hmem
      · exact hold (List.mem_of_mem_eraseP hmem)
    · exact hold hmem
  | discoverService serviceName => exact hold hmem
  | watchService serviceName callback => exact hold hmem
  | unwatchService serviceName => exact hold hmem

theorem filed_calls (cs : List (RegistryCall κ)) : (start.calls cs : RegistryRun κ).Filed := by
  have hstart : (start : RegistryRun κ).Filed := by
    intro name ep hmem
    cases hmem
  exact List.foldlRecOn cs call hstart fun run hrun c _ => hrun.call c

/-- **A deregistration that fails does nothing.** -/
theorem call_deregisterService_error {endpoint : ServiceEndpoint} {e : DiscoveryError}
    (h : run.reply (.deregisterService endpoint) = .done (.error e)) :
    (run.call (.deregisterService endpoint)).registry = run.registry ∧
      (run.call (.deregisterService endpoint)).log = run.log := by
  have hreply : (run.registry.deregisterService endpoint).reply = .done (.error e) := h
  show (run.registry.deregisterService endpoint).registry = _ ∧
    run.log ++ (run.registry.deregisterService endpoint).callbacks = _
  rcases run.registry.deregisterService_cases endpoint with ⟨removed, -, hend⟩ | ⟨-, e', hend⟩
  · rw [hend] at hreply
    cases hreply
  · rw [hend]
    exact ⟨rfl, List.append_nil _⟩

end RegistryRun

/-- **The watch events describe the registry.**  Wherever a watcher is registered, and as long as it is
    not unwatched, it has received one event for every successful registration and deregistration under
    its service since then, in their order; and they lead from the endpoints that were listed then to
    the ones that are listed now.  Endpoints are listed under their own service; and a deregistration
    that fails changes nothing and tells nobody. -/
theorem watch_events_describe_registry {κ : Type} (before : List (RegistryCall κ)) :
    let opened := (RegistryRun.start : RegistryRun κ).calls before
    (∀ serviceName callback after, RegistryCall.unwatchService serviceName ∉ after →
      let watching := opened.call (.watchService serviceName callback)
      let now := watching.calls after
      ∃ endpoints endpoints',
        watching.registry.discoverService serviceName = .ok endpoints ∧
        now.registry.discoverService serviceName = .ok endpoints' ∧
        List.Forall₂ RegistryCall.Announces (RegistryRun.successes serviceName watching after)
          (now.eventsOf opened.count) ∧
        replay (now.eventsOf opened.count) endpoints = endpoints') ∧
    (∀ serviceName endpoints, opened.registry.discoverService serviceName = .ok endpoints →
      ∀ ep ∈ endpoints, ep.serviceName = serviceName) ∧
    ∀ endpoint e, opened.reply (.deregisterService endpoint) = .done (.error e) →
      (opened.call (.deregisterService endpoint)).registry = opened.registry ∧
        (opened.call (.deregisterService endpoint)).log = opened.log := by
  intro opened
  have hunused : opened.Unused := RegistryRun.unused_calls before
  refine ⟨?_, ?_, fun endpoint e => opened.call_deregisterService_error⟩
  · intro serviceName callback after hkept watching now
    -- a number is new to the log when its watcher is registered
    have hnew : watching.eventsOf opened.count = [] := by
      show (opened.call _).eventsOf opened.count = []
      rw [RegistryRun.call_eventsOf, (hunused opened.count le_rfl).1]
      rfl
    have hevents : now.eventsOf opened.count = RegistryRun.changesOf serviceName watching after := by
      have := (hunused.watching serviceName callback).calls hkept
      rwa [hnew, List.nil_append] at this
    refine ⟨_, _, watching.registry.discoverService_eq serviceName,
      now.registry.discoverService_eq serviceName, ?_, ?_⟩
    · rw [hevents]
      exact watching.changesOf_announced serviceName after
    · rw [hevents]
      exact (watching.calls_listed serviceName after).symm
  · intro serviceName endpoints hfound
    rw [LocalServiceRegistry.discoverService_eq] at hfound
    obtain rfl := Except.ok.inj hfound
    exact RegistryRun.filed_calls before serviceName

/-- Two watchers on one callback, and an instance registered twice and deregistered once: both watchers
    are told of every change since they came. -/
theorem watch_events_describe_registry_twice :
    let ep : ServiceEndpoint := ⟨[1], 90, [7], [5], 100⟩
    let before : List (RegistryCall Unit) := [.watchService [7] (), .registerService ep]
    let opened := RegistryRun.start.calls before
    ∃ endpoints endpoints',
      (opened.call (.watchService [7] ())).registry.discoverService [7] = .ok endpoints ∧
      ((opened.call (.watchService [7] ())).calls
        [.registerService ep, .deregisterService ep]).registry.discoverService [7] = .ok endpoints' ∧
      List.Forall₂ RegistryCall.Announces
        (RegistryRun.successes [7] (opened.call (.watchService [7] ()))
          [.registerService ep, .deregisterService ep])
        (((opened.call (.watchService [7] ())).calls
          [.registerService ep, .deregisterService ep]).eventsOf opened.count) ∧
      replay (((opened.call (.watchService [7] ())).calls
        [.registerService ep, .deregisterService ep]).eventsOf opened.count) endpoints = endpoints' :=
  (watch_events_describe_registry
      [.watchService [7] (), .registerService (⟨[1], 90, [7], [5], 100⟩ : ServiceEndpoint)]).1
    [7] () [.registerService ⟨[1], 90, [7], [5], 100⟩, .deregisterService ⟨[1], 90, [7], [5], 100⟩]
    (by simp)

/-! ## Duplicates -/

namespace RegistryRun

variable {κ : Type} (run : RegistryRun κ)

/-- The instance ids that can be discovered under a service. -/
def instances (serviceName : Bytes) : List Bytes :=
  match run.registry.discoverService serviceName with
  | .ok endpoints => endpoints.map (·.instanceId)
  | .error _ => []

theorem instances_eq (serviceName : Bytes) :
    run.instances serviceName = (run.registry.listed serviceName).map (·.instanceId) := by
  rw [instances, LocalServiceRegistry.discoverService_eq]

theorem map_eraseP_sameInstance (endpoints : List ServiceEndpoint) (endpoint : ServiceEndpoint) :
    (endpoints.eraseP endpoint.sameInstance).map (·.instanceId) =
      (endpoints.map (·.instanceId)).erase endpoint.instanceId := by
  rw [List.erase_eq_eraseP', List.eraseP_map]
  rfl

/-- A registration adds the instance id at the end, whether it is there or not; a deregistration takes
    away the first. -/
theorem call_instances (c : RegistryCall κ) (name : Bytes) :
    (run.call c).instances name =
      match c with
      | .registerService endpoint =>
        if endpoint.serviceName = name then run.instances name ++ [endpoint.instanceId]
        else run.instances name
      | .deregisterService endpoint =>
        if endpoint.serviceName = name then (run.instances name).erase endpoint.instanceId
        else run.instances name
      | _ => run.instances name := by
  simp only [instances_eq, call_listed]
  cases c with
  | registerService endpoint =>
    by_cases h : endpoint.serviceName = name
    · simp only [RegistryCall.changes, if_pos h]
      exact List.map_append
    · simp only [RegistryCall.changes, if_neg h]
      rfl
  | deregisterService endpoint =>
    by_cases h : endpoint.serviceName = name
    · simp only [RegistryCall.changes, if_pos h]
      rw [← map_eraseP_sameInstance]
      cases hfind : (run.registry.listed name).find? endpoint.sameInstance with
      | none =>
        rw [List.eraseP_of_forall_not (List.find?_eq_none.mp hfind)]
        rfl
      | some removed =>
        have hsame := ServiceEndpoint.instanceId_of_find? hfind
        show ((run.registry.listed name).eraseP removed.sameInstance).map _ = _
        rw [map_eraseP_sameInstance, map_eraseP_sameInstance, hsame]
    · simp only [RegistryCall.changes, if_neg h]
      rfl
  | discoverService serviceName => rfl
  | watchService serviceName callback => rfl
  | unwatchService serviceName => rfl

/-- No service lists an instance twice. -/
def Distinct : Prop := ∀ serviceName, (run.instances serviceName).Nodup

/-- A registration of an instance that is not listed; any other call. -/
def FreshRegistration : RegistryCall κ → Prop
  | .registerService endpoint => endpoint.instanceId ∉ run.instances endpoint.serviceName
  | _ => True

/-- A call keeps the instances distinct exactly if it does not register one that is listed. -/
theorem Distinct.call_iff {run : RegistryRun κ} (h : run.Distinct) (c : RegistryCall κ) :
    (run.call c).Distinct ↔ run.FreshRegistration c := by
  constructor
  · intro hnext
    cases c with
    | registerService endpoint =>
      have hnodup := hnext endpoint.serviceName
      rw [call_instances] at hnodup
      simp only [if_true] at hnodup
      intro hmem
      exact (List.nodup_append.mp hnodup).2.2 _ hmem _ (List.mem_singleton_self _) rfl
    | _ => trivial
  · intro hfresh name
    rw [call_instances]
    cases c with
    | registerService endpoint =>
      show (if endpoint.serviceName = name then _ else _ : List Bytes).Nodup
      split
      · rename_i heq
        subst heq
        refine List.nodup_append.mpr ⟨h _, List.nodup_singleton _, ?_⟩
        intro x hx y hy hxy
        rw [hxy, List.mem_singleton.mp hy] at hx
        exact hfresh hx
      · exact h name
    | deregisterService endpoint =>
      show (if endpoint.serviceName = name then _ else _ : List Bytes).Nodup
      split
      · exact (h name).erase _
      · exact h name
    | discoverService serviceName => exact h name
    | watchService serviceName callback => exact h name
    | unwatchService serviceName => exact h name

/-- Every registration among the calls is of an instance that is not listed then. -/
def FreshRegistrations (cs : List (RegistryCall κ)) : Prop :=
  ∀ pre c post, cs = pre ++ c :: post → (run.calls pre).FreshRegistration c

theorem Distinct.calls {run : RegistryRun κ} (h : run.Distinct) {cs : List (RegistryCall κ)}
    (hcs : run.FreshRegistrations cs) : (run.calls cs).Distinct := by
  induction cs generalizing run with
  | nil => exact h
  | cons c cs ih =>
    have hnext := (h.call_iff c).mpr (hcs [] c cs rfl)
    refine ih hnext fun pre c' post hsplit => ?_
    exact hcs (c :: pre) c' post (by rw [hsplit, List.cons_append])

/-- An instance that is not listed is not listed until it is registered. -/
theorem not_mem_instances_calls {serviceName instanceId : Bytes} {cs : List (RegistryCall κ)}
    (h : instanceId ∉ run.instances serviceName)
    (hcs : ∀ endpoint, RegistryCall.registerService endpoint ∈ cs →
      endpoint.serviceName = serviceName → endpoint.instanceId ≠ instanceId) :
    instanceId ∉ (run.calls cs).instances serviceName := by
  induction cs generalizing run with
  | nil => exact h
  | cons c cs ih =>
    refine ih (run.call c) ?_ fun endpoint hmem => hcs endpoint (List.mem_cons_of_mem _ hmem)
    rw [call_instances]
    cases c with
    | registerService endpoint =>
      have hne := hcs endpoint List.mem_cons_self
      show instanceId ∉ (if endpoint.serviceName = serviceName then _ else _ : List Bytes)
      split
      · rename_i heq
        rw [List.mem_append, List.mem_singleton, not_or]
        exact ⟨h, (hne heq).symm⟩
      · exact h
    | deregisterService endpoint =>
      show instanceId ∉ (if endpoint.serviceName = serviceName then _ else _ : List Bytes)
      split
      · exact fun hmem => h (List.mem_of_mem_erase hmem)
      · exact h
    | discoverService name => exact h
    | watchService name callback => exact h
    | unwatchService name => exact h

/-- At every moment of the run, no service lists an instance twice. -/
def AlwaysDistinct (cs : List (RegistryCall κ)) : Prop :=
  ∀ pre post, cs = pre ++ post → (run.calls pre).Distinct

/-- A deregistration that succeeds leaves no instance of that id under its service, until one is
    registered. -/
def DeregistersForGood (cs : List (RegistryCall κ)) : Prop :=
  ∀ pre endpoint mid post, cs = pre ++ .deregisterService endpoint :: (mid ++ post) →
    (run.calls pre).reply (.deregisterService endpoint) = .done (.ok ()) →
    (∀ endpoint', RegistryCall.registerService endpoint' ∈ mid →
      endpoint'.serviceName = endpoint.serviceName → endpoint'.instanceId ≠ endpoint.instanceId) →
    endpoint.instanceId ∉
      (run.calls (pre ++ .deregisterService endpoint :: mid)).instances endpoint.serviceName

theorem FreshRegistrations.prefix {run : RegistryRun κ} {pre post : List (RegistryCall κ)}
    (h : run.FreshRegistrations (pre ++ post)) : run.FreshRegistrations pre := by
  intro pre' c post' hsplit
  refine h pre' c (post' ++ post) ?_
  rw [hsplit, List.append_assoc, List.cons_append]

theorem start_distinct : (start : RegistryRun κ).Distinct := by
  intro serviceName
  exact List.nodup_nil

end RegistryRun

/-- **Deregistration takes effect exactly in the runs that never register a listed instance.**  These are
    the runs in which no instance is ever listed twice; and in them a deregistered one is gone. -/
theorem deregistration_effective_iff {κ : Type} (cs : List (RegistryCall κ)) :
    (RegistryRun.start.AlwaysDistinct cs ∧ RegistryRun.start.DeregistersForGood cs) ↔
      RegistryRun.start.FreshRegistrations cs := by
  constructor
  · rintro ⟨hdistinct, -⟩ pre c post hsplit
    have hbefore := hdistinct pre (c :: post) hsplit
    have hafter := hdistinct (pre ++ [c]) post (by rw [hsplit, List.append_assoc, List.singleton_append])
    rw [RegistryRun.calls_append] at hafter
    exact (hbefore.call_iff c).mp hafter
  · intro hfresh
    have hdistinct : RegistryRun.start.AlwaysDistinct cs := by
      intro pre post hsplit
      subst hsplit
      exact RegistryRun.start_distinct.calls hfresh.prefix
    refine ⟨hdistinct, ?_⟩
    intro pre endpoint mid post hsplit _ hmid
    have hbefore := hdistinct pre _ hsplit endpoint.serviceName
    rw [RegistryRun.calls_append, RegistryRun.calls_cons]
    refine RegistryRun.not_mem_instances_calls _ ?_ hmid
    -- the only one there was is the one taken away
    rw [RegistryRun.call_instances]
    simp only [if_true]
    exact hbefore.not_mem_erase

/-- An instance that is registered again after a restart stays listed when it is deregistered. -/
theorem stale_instance_listed :
    ¬ ∀ cs : List (RegistryCall Unit),
      RegistryRun.start.AlwaysDistinct cs ∧ RegistryRun.start.DeregistersForGood cs := by
  intro h
  let ep : ServiceEndpoint := ⟨[1], 90, [7], [5], 100⟩
  have hgone := (h [.registerService ep, .registerService ep, .deregisterService ep]).2
    [.registerService ep, .registerService ep] ep [] [] rfl rfl (by simp)
  exact hgone (by decide)

end GalayRpc
