/-
  `rpc_service.h`: the methods of a service, the services of a server, and what a handler does to the
  response.

  1. **Registry** — three hash tables, here finite maps from names: the unary methods, the streaming
     methods (each name with one slot per streaming mode), and the stream sessions.  A handler is a
     value of an arbitrary type `η`, with the empty `std::function` as its default; a session handler
     one of `ζ`.  A lookup returns a pointer into the table, here what it points to.

  2. **Services** — a server keeps its services by their names; it shares them with whoever registers
     them, and takes them here as they are once all their methods are registered.  What it finds is what
     was registered last (`Registered.lookup_services`), whatever was registered before and elsewhere.

  3. **Context** — a handler acts on the response through `RpcContext`, by any sequence of calls.  What
     comes of them is an error code and a payload (`outcome`); nothing else of the response moves.
-/
import Mathlib.Data.List.AList
import GalayRpc.Message

namespace GalayRpc

variable {η ζ : Type}

/-! ## The registry -/

/-- `RpcMethodSlots`. -/
structure RpcMethodSlots (η : Type) where
  handlers : Fin 3 → η
  registered : Fin 3 → Bool

/-- The slots a name starts with. -/
def RpcMethodSlots.empty [Inhabited η] : RpcMethodSlots η := ⟨fun _ => default, fun _ => false⟩

/-- `streamModeIndex`; the last case is the `default` of the switch. -/
def streamModeIndex : RpcCallMode → Fin 3
  | .clientStreaming => 0
  | .serverStreaming => 1
  | .bidiStreaming => 2
  | .unary => 0

/-- `RpcService`. -/
structure RpcService (η ζ : Type) where
  mName : Bytes
  mUnaryMethods : AList fun _ : Bytes => η := ∅
  mStreamMethods : AList fun _ : Bytes => RpcMethodSlots η := ∅
  mStreamSessionMethods : AList fun _ : Bytes => ζ := ∅

namespace RpcService

variable (s : RpcService η ζ)

/-- `findMethod(method)`. -/
def findUnaryMethod (method : Bytes) : Option η := s.mUnaryMethods.lookup method

/-- `findMethod(method, mode)`. -/
def findMethod (method : Bytes) (mode : RpcCallMode) : Option η :=
  if mode = .unary then s.findUnaryMethod method
  else
    match s.mStreamMethods.lookup method with
    | none => none
    | some slots =>
      if ¬ slots.registered (streamModeIndex mode) then none
      else some (slots.handlers (streamModeIndex mode))

def findStreamMethod (method : Bytes) : Option ζ := s.mStreamSessionMethods.lookup method

/-- `registerStreamMethod`. -/
def registerStreamMethod (name : Bytes) (handler : ζ) : RpcService η ζ :=
  { s with mStreamSessionMethods := s.mStreamSessionMethods.insert name handler }

/-- `registerMethodByMode`. -/
def registerMethodByMode [Inhabited η] (name : Bytes) (mode : RpcCallMode) (handler : η) :
    RpcService η ζ :=
  if mode = .unary then { s with mUnaryMethods := s.mUnaryMethods.insert name handler }
  else
    let slots := (s.mStreamMethods.lookup name).getD .empty
    let slots : RpcMethodSlots η :=
      ⟨Function.update slots.handlers (streamModeIndex mode) handler,
        Function.update slots.registered (streamModeIndex mode) true⟩
    { s with mStreamMethods := s.mStreamMethods.insert name slots }

theorem streamModeIndex_inj {mode mode' : RpcCallMode} (h : mode ≠ .unary) (h' : mode' ≠ .unary)
    (heq : streamModeIndex mode' = streamModeIndex mode) : mode' = mode := by
  cases mode <;> cases mode' <;> first | rfl | contradiction

/-- **A registration changes one entry**: the lookup of its own name and mode. -/
theorem findMethod_registerMethodByMode [Inhabited η] (name : Bytes) (mode : RpcCallMode) (handler : η)
    (name' : Bytes) (mode' : RpcCallMode) :
    (s.registerMethodByMode name mode handler).findMethod name' mode' =
      if name' = name ∧ mode' = mode then some handler else s.findMethod name' mode' := by
  by_cases hunary : mode = .unary
  · subst hunary
    rw [registerMethodByMode, if_pos rfl]
    by_cases hmode : mode' = .unary
    · subst hmode
      by_cases hname : name' = name
      · subst hname
        rw [if_pos ⟨rfl, rfl⟩]
        exact AList.lookup_insert s.mUnaryMethods
      · rw [if_neg fun h => hname h.1]
        exact AList.lookup_insert_ne hname
    · rw [if_neg fun h => hmode h.2, findMethod, findMethod, if_neg hmode, if_neg hmode]
  rw [registerMethodByMode, if_neg hunary]
  by_cases hmode : mode' = .unary
  · subst hmode
    rw [if_neg fun h => hunary h.2.symm]
    rfl
  rw [findMethod, if_neg hmode]
  by_cases hname : name' = name
  · subst hname
    rw [AList.lookup_insert]
    by_cases hmodes : mode' = mode
    · subst hmodes
      simp
    · -- another slot of the same name
      have hidx : streamModeIndex mode' ≠ streamModeIndex mode :=
        fun heq => hmodes (streamModeIndex_inj hunary hmode heq)
      rcases hslots : s.mStreamMethods.lookup name' with _ | slots
      · simp [findMethod, hmode, hmodes, hslots, hidx, RpcMethodSlots.empty]
      · simp [findMethod, hmode, hmodes, hslots, hidx]
  · rw [AList.lookup_insert_ne hname, if_neg fun h => hname h.1, findMethod, if_neg hmode]

/-! ## Registrations, one after the other -/

def registerUnaryMethod [Inhabited η] (name : Bytes) (handler : η) : RpcService η ζ :=
  s.registerMethodByMode name .unary handler

def registerClientStreamingMethod [Inhabited η] (name : Bytes) (handler : η) : RpcService η ζ :=
  s.registerMethodByMode name .clientStreaming handler

def registerServerStreamingMethod [Inhabited η] (name : Bytes) (handler : η) : RpcService η ζ :=
  s.registerMethodByMode name .serverStreaming handler

def registerBidiStreamingMethod [Inhabited η] (name : Bytes) (handler : η) : RpcService η ζ :=
  s.registerMethodByMode name .bidiStreaming handler

/-- A registration, by the member function that makes it. -/
inductive Registration (η ζ : Type) where
  | unaryMethod (name : Bytes) (handler : η)
  | clientStreamingMethod (name : Bytes) (handler : η)
  | serverStreamingMethod (name : Bytes) (handler : η)
  | bidiStreamingMethod (name : Bytes) (handler : η)
  | streamMethod (name : Bytes) (handler : ζ)
deriving DecidableEq, Repr

def register [Inhabited η] : Registration η ζ → RpcService η ζ
  | .unaryMethod name handler => s.registerUnaryMethod name handler
  | .clientStreamingMethod name handler => s.registerClientStreamingMethod name handler
  | .serverStreamingMethod name handler => s.registerServerStreamingMethod name handler
  | .bidiStreamingMethod name handler => s.registerBidiStreamingMethod name handler
  | .streamMethod name handler => s.registerStreamMethod name handler

def registerAll [Inhabited η] (registrations : List (Registration η ζ)) : RpcService η ζ :=
  registrations.foldl (fun s r => s.register r) s

namespace Registration

def name : Registration η ζ → Bytes
  | unaryMethod name _ => name
  | clientStreamingMethod name _ => name
  | serverStreamingMethod name _ => name
  | bidiStreamingMethod name _ => name
  | streamMethod name _ => name

/-- The call mode a registration is for; a stream session has none. -/
def mode : Registration η ζ → Option RpcCallMode
  | unaryMethod _ _ => some .unary
  | clientStreamingMethod _ _ => some .clientStreaming
  | serverStreamingMethod _ _ => some .serverStreaming
  | bidiStreamingMethod _ _ => some .bidiStreaming
  | streamMethod _ _ => none

/-- The method handler of a registration. -/
def handler : Registration η ζ → Option η
  | unaryMethod _ handler => some handler
  | clientStreamingMethod _ handler => some handler
  | serverStreamingMethod _ handler => some handler
  | bidiStreamingMethod _ handler => some handler
  | streamMethod _ _ => none

/-- The session handler of a registration. -/
def session : Registration η ζ → Option ζ
  | streamMethod _ handler => some handler
  | _ => none

/-- What a registration says about a name and a mode. -/
def handlerFor (method : Bytes) (callMode : RpcCallMode) (r : Registration η ζ) : Option η :=
  if r.name = method ∧ r.mode = some callMode then r.handler else none

/-- What a registration says about the session of a name. -/
def sessionFor (method : Bytes) (r : Registration η ζ) : Option ζ :=
  if r.name = method then r.session else none

end Registration

/-- The latest registration for this name and mode. -/
def latestHandler (registrations : List (Registration η ζ)) (method : Bytes) (mode : RpcCallMode) :
    Option η :=
  registrations.reverse.findSome? (Registration.handlerFor method mode)

/-- The latest registration of a session for this name. -/
def latestSession (registrations : List (Registration η ζ)) (method : Bytes) : Option ζ :=
  registrations.reverse.findSome? (Registration.sessionFor method)

/-- An order to iterate over each of the tables; a hash table has none of its own. -/
structure TableOrders (s : RpcService η ζ) where
  unary : List Bytes
  stream : List Bytes
  streamSession : List Bytes
  unary_perm : unary.Perm s.mUnaryMethods.keys
  stream_perm : stream.Perm s.mStreamMethods.keys
  streamSession_perm : streamSession.Perm s.mStreamSessionMethods.keys

/-- `methodNames`. -/
def methodNames (orders : s.TableOrders) : List Bytes :=
  orders.unary ++
    orders.stream.filter (fun name => (s.mUnaryMethods.lookup name).isNone) ++
    orders.streamSession.filter fun name =>
      (s.mUnaryMethods.lookup name).isNone && (s.mStreamMethods.lookup name).isNone

/-- Some table of the service has the name. -/
def Lists (name : Bytes) : Prop :=
  name ∈ s.mUnaryMethods ∨ name ∈ s.mStreamMethods ∨ name ∈ s.mStreamSessionMethods

variable {s}

/-- **What one registration does to the methods**: it overrides what it is for. -/
theorem findMethod_register [Inhabited η] (r : Registration η ζ) (method : Bytes) (mode : RpcCallMode) :
    (s.register r).findMethod method mode =
      (r.handlerFor method mode).or (s.findMethod method mode) := by
  have hmode : ∀ (name : Bytes) (callMode : RpcCallMode) (handler : η),
      (s.registerMethodByMode name callMode handler).findMethod method mode =
        (if name = method ∧ some callMode = some mode then some handler else none).or
          (s.findMethod method mode) := by
    intro name callMode handler
    rw [findMethod_registerMethodByMode]
    by_cases h : name = method ∧ callMode = mode
    · obtain ⟨rfl, rfl⟩ := h
      rw [if_pos ⟨rfl, rfl⟩, if_pos ⟨rfl, rfl⟩, Option.some_or]
    · rw [if_neg fun h' => h ⟨h'.1.symm, h'.2.symm⟩, if_neg fun h' => h ⟨h'.1, Option.some.inj h'.2⟩,
        Option.none_or]
  cases r with
  | unaryMethod name handler => exact hmode name .unary handler
  | clientStreamingMethod name handler => exact hmode name .clientStreaming handler
  | serverStreamingMethod name handler => exact hmode name .serverStreaming handler
  | bidiStreamingMethod name handler => exact hmode name .bidiStreaming handler
  | streamMethod name handler =>
    have hnone : (Registration.streamMethod name handler : Registration η ζ).handlerFor method mode =
        none := if_neg fun h => Option.some_ne_none mode h.2.symm
    rw [hnone, Option.none_or]
    rfl

/-- The methods and the sessions have nothing to do with each other. -/
theorem mStreamSessionMethods_registerMethodByMode [Inhabited η] (name : Bytes) (mode : RpcCallMode)
    (handler : η) :
    (s.registerMethodByMode name mode handler).mStreamSessionMethods = s.mStreamSessionMethods := by
  unfold registerMethodByMode
  split
  · rfl
  · rfl

/-- **What one registration does to the sessions.** -/
theorem findStreamMethod_register [Inhabited η] (r : Registration η ζ) (method : Bytes) :
    (s.register r).findStreamMethod method = (r.sessionFor method).or (s.findStreamMethod method) := by
  have hmethod : ∀ (name : Bytes) (callMode : RpcCallMode) (handler : η),
      (s.registerMethodByMode name callMode handler).findStreamMethod method =
        (if name = method then none else none).or (s.findStreamMethod method) := by
    intro name callMode handler
    rw [ite_self, Option.none_or, findStreamMethod, mStreamSessionMethods_registerMethodByMode]
    rfl
  cases r with
  | unaryMethod name handler => exact hmethod name .unary handler
  | clientStreamingMethod name handler => exact hmethod name .clientStreaming handler
  | serverStreamingMethod name handler => exact hmethod name .serverStreaming handler
  | bidiStreamingMethod name handler => exact hmethod name .bidiStreaming handler
  | streamMethod name handler =>
    show (s.mStreamSessionMethods.insert name handler).lookup method =
      (if name = method then some handler else none).or (s.mStreamSessionMethods.lookup method)
    by_cases hname : name = method
    · subst hname
      rw [if_pos rfl, Option.some_or, AList.lookup_insert]
    · rw [if_neg hname, Option.none_or, AList.lookup_insert_ne (Ne.symm hname)]

/-- **What one registration does to the names.** -/
theorem lists_register [Inhabited η] (r : Registration η ζ) (name : Bytes) :
    (s.register r).Lists name ↔ r.name = name ∨ s.Lists name := by
  have hmode : ∀ (method : Bytes) (mode : RpcCallMode) (handler : η),
      (s.registerMethodByMode method mode handler).Lists name ↔ method = name ∨ s.Lists name := by
    intro method mode handler
    unfold registerMethodByMode Lists
    split
    · simp only [AList.mem_insert]
      grind
    · simp only [AList.mem_insert]
      grind
  cases r with
  | unaryMethod method handler => exact hmode method .unary handler
  | clientStreamingMethod method handler => exact hmode method .clientStreaming handler
  | serverStreamingMethod method handler => exact hmode method .serverStreaming handler
  | bidiStreamingMethod method handler => exact hmode method .bidiStreaming handler
  | streamMethod method handler =>
    show name ∈ s.mUnaryMethods ∨ name ∈ s.mStreamMethods ∨
      name ∈ s.mStreamSessionMethods.insert method handler ↔ method = name ∨ s.Lists name
    rw [AList.mem_insert]
    unfold Lists
    grind

/-! The same three facts of a whole sequence, by induction on it. -/

theorem findMethod_registerAll [Inhabited η] (registrations : List (Registration η ζ)) (method : Bytes)
    (mode : RpcCallMode) :
    (s.registerAll registrations).findMethod method mode =
      (latestHandler registrations method mode).or (s.findMethod method mode) := by
  induction registrations generalizing s with
  | nil => rfl
  | cons r registrations ih =>
    show ((s.register r).registerAll registrations).findMethod method mode = _
    rw [ih, findMethod_register, latestHandler, latestHandler, List.reverse_cons,
      List.findSome?_append, Option.or_assoc, List.findSome?_singleton]

theorem findStreamMethod_registerAll [Inhabited η] (registrations : List (Registration η ζ))
    (method : Bytes) :
    (s.registerAll registrations).findStreamMethod method =
      (latestSession registrations method).or (s.findStreamMethod method) := by
  induction registrations generalizing s with
  | nil => rfl
  | cons r registrations ih =>
    show ((s.register r).registerAll registrations).findStreamMethod method = _
    rw [ih, findStreamMethod_register, latestSession, latestSession, List.reverse_cons,
      List.findSome?_append, Option.or_assoc, List.findSome?_singleton]

theorem lists_registerAll [Inhabited η] (registrations : List (Registration η ζ)) (name : Bytes) :
    (s.registerAll registrations).Lists name ↔ (∃ r ∈ registrations, r.name = name) ∨ s.Lists name := by
  induction registrations generalizing s with
  | nil =>
    show s.Lists name ↔ _
    simp
  | cons r registrations ih =>
    show ((s.register r).registerAll registrations).Lists name ↔ _
    rw [ih, lists_register, List.exists_mem_cons_iff, or_left_comm, ← or_assoc]

/-- What a new service finds once methods have been registered on it. -/
theorem findMethod_new [Inhabited η] (serviceName : Bytes) (registrations : List (Registration η ζ))
    (method : Bytes) (mode : RpcCallMode) :
    (registerAll { mName := serviceName } registrations).findMethod method mode =
      latestHandler registrations method mode := by
  have hnew : ({ mName := serviceName } : RpcService η ζ).findMethod method mode = none := by
    unfold findMethod
    split
    · rfl
    · rfl
  rw [findMethod_registerAll, hnew, Option.or_none]

theorem findStreamMethod_new [Inhabited η] (serviceName : Bytes)
    (registrations : List (Registration η ζ)) (method : Bytes) :
    (registerAll { mName := serviceName } registrations).findStreamMethod method =
      latestSession registrations method := by
  rw [findStreamMethod_registerAll]
  exact Option.or_none

/-- A registration leaves the service its name. -/
theorem mName_registerAll [Inhabited η] (registrations : List (Registration η ζ)) :
    (s.registerAll registrations).mName = s.mName := by
  have hmode : ∀ (s : RpcService η ζ) (method : Bytes) (mode : RpcCallMode) (handler : η),
      (s.registerMethodByMode method mode handler).mName = s.mName := by
    intro s method mode handler
    unfold registerMethodByMode
    split
    · rfl
    · rfl
  induction registrations generalizing s with
  | nil => rfl
  | cons r registrations ih =>
    show ((s.register r).registerAll registrations).mName = s.mName
    rw [ih]
    cases r with
    | unaryMethod method handler => exact hmode s method .unary handler
    | clientStreamingMethod method handler => exact hmode s method .clientStreaming handler
    | serverStreamingMethod method handler => exact hmode s method .serverStreaming handler
    | bidiStreamingMethod method handler => exact hmode s method .bidiStreaming handler
    | streamMethod method handler => rfl

/-! ## The names of a service -/

theorem lookup_isNone {β : Type} (table : AList fun _ : Bytes => β) (name : Bytes) :
    (table.lookup name).isNone = true ↔ name ∉ table := by
  rw [Option.isNone_iff_eq_none, AList.lookup_eq_none]

theorem TableOrders.mem_unary (orders : s.TableOrders) {name : Bytes} :
    name ∈ orders.unary ↔ name ∈ s.mUnaryMethods := orders.unary_perm.mem_iff

theorem TableOrders.mem_stream (orders : s.TableOrders) {name : Bytes} :
    name ∈ orders.stream ↔ name ∈ s.mStreamMethods := orders.stream_perm.mem_iff

theorem TableOrders.mem_streamSession (orders : s.TableOrders) {name : Bytes} :
    name ∈ orders.streamSession ↔ name ∈ s.mStreamSessionMethods := orders.streamSession_perm.mem_iff

theorem mem_methodNames (orders : s.TableOrders) {name : Bytes} :
    name ∈ s.methodNames orders ↔ s.Lists name := by
  simp only [methodNames, List.mem_append, List.mem_filter, Bool.and_eq_true, lookup_isNone,
    orders.mem_unary, orders.mem_stream, orders.mem_streamSession, Lists]
  tauto

/-- Each table leaves out what the ones before it have. -/
theorem methodNames_nodup (orders : s.TableOrders) : (s.methodNames orders).Nodup := by
  have hunary : orders.unary.Nodup := orders.unary_perm.nodup_iff.mpr (AList.keys_nodup _)
  have hstream : orders.stream.Nodup := orders.stream_perm.nodup_iff.mpr (AList.keys_nodup _)
  have hsession : orders.streamSession.Nodup :=
    orders.streamSession_perm.nodup_iff.mpr (AList.keys_nodup _)
  refine ((hunary.append (hstream.filter _) ?_).append (hsession.filter _) ?_)
  · intro name hname hname'
    have hout := (lookup_isNone _ _).mp (List.mem_filter.mp hname').2
    exact hout (orders.mem_unary.mp hname)
  · intro name hname hname'
    have hout := (List.mem_filter.mp hname').2
    rw [Bool.and_eq_true, lookup_isNone, lookup_isNone] at hout
    rcases List.mem_append.mp hname with hin | hin
    · exact hout.1 (orders.mem_unary.mp hin)
    · exact hout.2 (orders.mem_stream.mp (List.mem_filter.mp hin).1)

/-- **The registry is an exact map.**  After any registrations on a new service, a lookup finds what was
    registered last for exactly its name and mode (or its session), a registration changes no lookup of
    another kind, and every name that was registered is listed once, with no others. -/
theorem method_registry_exact [Inhabited η] (serviceName : Bytes)
    (registrations : List (Registration η ζ)) :
    let s := registerAll { mName := serviceName } registrations
    (∀ method mode, s.findMethod method mode = latestHandler registrations method mode) ∧
    (∀ method, s.findStreamMethod method = latestSession registrations method) ∧
    (∀ (r : Registration η ζ) method mode, r.mode ≠ some mode →
      (s.register r).findMethod method mode = s.findMethod method mode) ∧
    (∀ (r : Registration η ζ) method, r.mode ≠ none →
      (s.register r).findStreamMethod method = s.findStreamMethod method) ∧
    (∀ orders : s.TableOrders, (s.methodNames orders).Nodup ∧
      ∀ name, name ∈ s.methodNames orders ↔ ∃ r ∈ registrations, r.name = name) := by
  intro s
  refine ⟨?_, ?_, ?_, ?_, ?_⟩
  · intro method mode
    exact findMethod_new serviceName registrations method mode
  · intro method
    exact findStreamMethod_new serviceName registrations method
  · intro r method mode hmode
    rw [findMethod_register, Registration.handlerFor, if_neg fun h => hmode h.2, Option.none_or]
  · intro r method hmode
    have hsession : r.sessionFor method = none := by
      cases r with
      | streamMethod name handler => exact absurd rfl hmode
      | _ => exact ite_self _
    rw [findStreamMethod_register, hsession, Option.none_or]
  · intro orders
    refine ⟨methodNames_nodup orders, ?_⟩
    intro name
    rw [mem_methodNames, lists_registerAll]
    have hnew : ¬ ({ mName := serviceName } : RpcService η ζ).Lists name := by
      rintro (h | h | h)
      all_goals exact AList.notMem_empty name h
    rw [or_iff_left hnew]

end RpcService

/-! ## The services of a server -/

/-- `m_services`, of `RpcServer` and of `RpcStreamServer`. -/
abbrev Services (η ζ : Type) := AList fun _ : Bytes => RpcService η ζ

/-- `registerService`. -/
def Services.registerService (services : Services η ζ) (service : RpcService η ζ) : Services η ζ :=
  services.insert service.mName service

/-- What has been registered on a server, in order: the services, each by its name and what has been
    registered on it. -/
abbrev Registered (η ζ : Type) := List (Bytes × List (RpcService.Registration η ζ))

namespace Registered

variable [Inhabited η]

/-- The services of a server on which all this has been registered. -/
def services (registered : Registered η ζ) : Services η ζ :=
  registered.foldl
    (fun services r => services.registerService (RpcService.registerAll { mName := r.1 } r.2)) ∅

omit [Inhabited η] in
/-- What has been registered on the latest service of this name. -/
def latest (registered : Registered η ζ) (name : Bytes) : Option (List (RpcService.Registration η ζ)) :=
  registered.reverse.findSome? fun r => if r.1 = name then some r.2 else none

/-- **A server finds the service that was registered last under the name**, with the methods registered on
    it, and under any other name nothing. -/
theorem lookup_services (registered : Registered η ζ) (name : Bytes) :
    registered.services.lookup name =
      (registered.latest name).map fun registrations =>
        RpcService.registerAll { mName := name } registrations := by
  have hall : ∀ services : Services η ζ,
      (registered.foldl (fun services r =>
        services.registerService (RpcService.registerAll { mName := r.1 } r.2)) services).lookup name =
        ((registered.latest name).map fun registrations =>
          RpcService.registerAll { mName := name } registrations).or (services.lookup name) := by
    induction registered with
    | nil =>
      intro services
      rfl
    | cons r registered ih =>
      intro services
      have hlatest : latest (r :: registered) name =
          (latest registered name).or (if r.1 = name then some r.2 else none) := by
        rw [latest, List.reverse_cons, List.findSome?_append, List.findSome?_singleton]
        rfl
      rw [List.foldl_cons, ih, hlatest, Option.map_or, Option.or_assoc, Services.registerService,
        RpcService.mName_registerAll]
      congr 1
      by_cases hname : r.1 = name
      · subst hname
        rw [if_pos rfl, AList.lookup_insert, Option.map_some, Option.some_or]
      · rw [if_neg hname, AList.lookup_insert_ne (Ne.symm hname), Option.map_none, Option.none_or]
  have h := hall ∅
  rw [AList.lookup_empty, Option.or_none] at h
  exact h

end Registered

/-! ## The context -/

/-- `RpcContext`: the request and the response of one call. -/
structure RpcContext where
  request : RpcRequest
  response : RpcResponse

namespace RpcContext

variable (ctx : RpcContext)

def setError (code : RpcErrorCode) : RpcContext :=
  { ctx with response := { ctx.response with errorCode := code } }

/-- `setPayload(data, len)`, and with a string or a moved vector. -/
def setPayload (data : Bytes) : RpcContext :=
  { ctx with response := { ctx.response with store := .setBytes data } }

/-- `setPayload(view)`. -/
def setPayloadView (view : RpcPayloadView UInt8) : RpcContext :=
  { ctx with response := { ctx.response with store := .setView view } }

end RpcContext

/-- A call a handler makes on its context. -/
inductive RpcContextCall where
  | setError (code : RpcErrorCode)
  | setPayload (data : Bytes)
  | setPayloadView (view : RpcPayloadView UInt8)
deriving DecidableEq, Repr

namespace RpcContextCall

def apply (ctx : RpcContext) : RpcContextCall → RpcContext
  | setError code => ctx.setError code
  | setPayload data => ctx.setPayload data
  | setPayloadView view => ctx.setPayloadView view

/-- What a call makes of the error code and the payload so far. -/
def amend (outcome : RpcErrorCode × Bytes) : RpcContextCall → RpcErrorCode × Bytes
  | setError code => (code, outcome.2)
  | setPayload data => (outcome.1, data)
  | setPayloadView view => (outcome.1, view.cells)

/-- What a sequence of calls comes to on a fresh response. -/
def outcome (calls : List RpcContextCall) : RpcErrorCode × Bytes := calls.foldl amend (.ok, [])

end RpcContextCall

/-- Run a handler that makes these calls. -/
def RpcContext.run (ctx : RpcContext) (calls : List RpcContextCall) : RpcContext :=
  calls.foldl RpcContextCall.apply ctx

theorem RpcContext.run_msg (calls : List RpcContextCall) (ctx : RpcContext) :
    (ctx.run calls).response.msg =
      { ctx.response.msg with
        errorCode := (calls.foldl RpcContextCall.amend
          (ctx.response.msg.errorCode, ctx.response.msg.payload)).1
        payload := (calls.foldl RpcContextCall.amend
          (ctx.response.msg.errorCode, ctx.response.msg.payload)).2 } := by
  induction calls generalizing ctx with
  | nil => rfl
  | cons call calls ih =>
    show (RpcContext.run (call.apply ctx) calls).response.msg = _
    rw [ih]
    cases call with
    | setError code => rfl
    | setPayload data => rfl
    | setPayloadView view => rfl

end GalayRpc
