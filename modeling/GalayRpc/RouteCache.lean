/-
  `rpc_server.h`: finding the handler of a request, through the route cache of its connection.

  A connection remembers its last routes in eight slots, filled round robin, and looks at the slot it
  hit last before it searches the others.  Its three locals (`route_cache`, `route_cache_cursor`,
  `last_hit`) are one record; `last_hit` points to a slot or nowhere.

  The cache is a shortcut and nothing else: a slot is filled with what the registry says, the registry
  does not change while the server runs, and a slot is only ever taken for its own route.  So
  `Consistent` is preserved, and the lookup through the cache answers what the registry answers
  (`findHandler_eq`), whatever the route hashes are.

  That the slots are for different routes (`Tidy`) is a matter of when one is filled: only after a
  lookup that has missed, when no used slot has the hash and the route of the request.
-/
import GalayRpc.Service

namespace GalayRpc

variable {η ζ : Type}

/-! ## Route hashes -/

/-- `kRouteCacheSize`. -/
def kRouteCacheSize : Nat := 8

/-- `kFnvOffset`. -/
def kFnvOffset : UInt64 := 1469598103934665603

/-- `kFnvPrime`. -/
def kFnvPrime : UInt64 := 1099511628211

/-- `hashAppend`. -/
def hashAppend (hash : UInt64) (str : Bytes) : UInt64 :=
  str.foldl (fun hash ch => (hash ^^^ ch.toUInt64) * kFnvPrime) hash

/-- `buildRouteHash`. -/
def buildRouteHash (serviceName methodName : Bytes) (callMode : RpcCallMode) : UInt64 :=
  let hash := hashAppend kFnvOffset serviceName
  let hash := (hash ^^^ 0xff) * kFnvPrime
  let hash := hashAppend hash methodName
  (hash ^^^ callMode.toByte.toUInt64) * kFnvPrime

/-! ## The registry -/

/-- `resolveMethodHandler`. -/
def resolveMethodHandler (services : Services η ζ) (request : RpcRequest) : Except RpcErrorCode η :=
  match services.lookup request.serviceName with
  | none => .error .serviceNotFound
  | some service =>
    match service.findMethod request.methodName request.callMode with
    | none => .error .methodNotFound
    | some handler => .ok handler

/-- **A server resolves a request to the handler that was registered for it**: the last one for the method
    and mode, on the last service of the name. -/
theorem resolveMethodHandler_registered [Inhabited η] (registered : Registered η ζ)
    (request : RpcRequest) :
    resolveMethodHandler registered.services request =
      match registered.latest request.serviceName with
      | none => .error .serviceNotFound
      | some registrations =>
        match RpcService.latestHandler registrations request.methodName request.callMode with
        | none => .error .methodNotFound
        | some handler => .ok handler := by
  unfold resolveMethodHandler
  rw [registered.lookup_services]
  cases registered.latest request.serviceName with
  | none => rfl
  | some registrations =>
    simp only [Option.map_some, RpcService.findMethod_new]

/-! ## The cache -/

/-- `RouteCacheEntry`. -/
structure RouteCacheEntry (η : Type) where
  routeHash : UInt64 := 0
  serviceName : Bytes := []
  methodName : Bytes := []
  callMode : RpcCallMode := .unary
  handler : Option η := none

/-- `routeCacheKeyMatch`. -/
def routeCacheKeyMatch (entry : RouteCacheEntry η) (request : RpcRequest) (routeHash : UInt64) : Bool :=
  entry.routeHash == routeHash && entry.callMode == request.callMode &&
    entry.serviceName == request.serviceName && entry.methodName == request.methodName

/-- `routeCacheHit`. -/
def routeCacheHit (entry : RouteCacheEntry η) (request : RpcRequest) (routeHash : UInt64) : Bool :=
  entry.handler.isSome && entry.routeHash == routeHash && entry.callMode == request.callMode &&
    entry.serviceName == request.serviceName && entry.methodName == request.methodName

/-- `route_cache`, `route_cache_cursor` and `last_hit`. -/
structure RouteCache (η : Type) where
  routeCache : Fin kRouteCacheSize → RouteCacheEntry η
  cursor : Nat
  cursor_lt : cursor < kRouteCacheSize
  lastHit : Option (Fin kRouteCacheSize)

namespace RouteCache

/-- The cache of a new connection. -/
def empty : RouteCache η := ⟨fun _ => {}, 0, by decide, none⟩

/-- The first slot that passes a test. -/
def firstSlot (c : RouteCache η) (test : RouteCacheEntry η → Bool) : Option (Fin kRouteCacheSize) :=
  (List.finRange kRouteCacheSize).find? fun i => test (c.routeCache i)

/-- The search of `findCachedHandler`. -/
def searchHandler (c : RouteCache η) (request : RpcRequest) (routeHash : UInt64) :
    Option η × RouteCache η :=
  match c.firstSlot fun entry => routeCacheHit entry request routeHash with
  | some i => ((c.routeCache i).handler, { c with lastHit := some i })
  | none => (none, c)

/-- `findCachedHandler`. -/
def findCachedHandler (c : RouteCache η) (request : RpcRequest) (routeHash : UInt64) :
    Option η × RouteCache η :=
  match c.lastHit with
  | some i =>
    if routeCacheHit (c.routeCache i) request routeHash then ((c.routeCache i).handler, c)
    else c.searchHandler request routeHash
  | none => c.searchHandler request routeHash

/-- `updateRouteCache`. -/
def updateRouteCache (c : RouteCache η) (request : RpcRequest) (routeHash : UInt64) (handler : η) :
    RouteCache η :=
  match c.firstSlot fun entry => routeCacheKeyMatch entry request routeHash with
  | some i =>
    { c with
      routeCache := Function.update c.routeCache i { c.routeCache i with handler := some handler }
      lastHit := some i }
  -- no slot has the key: the one at the cursor is overwritten
  | none =>
    let slot : Fin kRouteCacheSize := ⟨c.cursor, c.cursor_lt⟩
    { routeCache := Function.update c.routeCache slot
        { routeHash := routeHash
          serviceName := request.serviceName
          methodName := request.methodName
          callMode := request.callMode
          handler := some handler }
      cursor := (c.cursor + 1) % kRouteCacheSize
      cursor_lt := Nat.mod_lt _ (by decide)
      lastHit := some slot }

end RouteCache

/-- The lookup of `handleConnection`: the cache first, then the registry, whose answer is remembered.
    `hash` is `buildRouteHash`. -/
def findHandler (services : Services η ζ) (hash : Bytes → Bytes → RpcCallMode → UInt64)
    (c : RouteCache η) (request : RpcRequest) : Except RpcErrorCode η × RouteCache η :=
  let routeHash := hash request.serviceName request.methodName request.callMode
  match c.findCachedHandler request routeHash with
  | (some handler, c) => (.ok handler, c)
  | (none, c) =>
    match resolveMethodHandler services request with
    | .error code => (.error code, c)
    | .ok handler => (.ok handler, c.updateRouteCache request routeHash handler)

/-! ## The cache is a shortcut -/

/-- A slot is for this request's route. -/
def RouteCacheEntry.IsFor (entry : RouteCacheEntry η) (request : RpcRequest) : Prop :=
  entry.callMode = request.callMode ∧ entry.serviceName = request.serviceName ∧
    entry.methodName = request.methodName

/-- A filled slot holds what the registry says about its route. -/
def RouteCacheEntry.Right (services : Services η ζ) (entry : RouteCacheEntry η) : Prop :=
  ∀ handler, entry.handler = some handler → ∀ request, entry.IsFor request →
    resolveMethodHandler services request = .ok handler

/-- Every slot is right. -/
def RouteCache.Consistent (services : Services η ζ) (c : RouteCache η) : Prop :=
  ∀ i, (c.routeCache i).Right services

theorem isFor_of_keyMatch {entry : RouteCacheEntry η} {request : RpcRequest} {routeHash : UInt64}
    (h : routeCacheKeyMatch entry request routeHash = true) : entry.IsFor request := by
  simp only [routeCacheKeyMatch, Bool.and_eq_true, beq_iff_eq] at h
  exact ⟨h.1.1.2, h.1.2, h.2⟩

theorem isFor_of_hit {entry : RouteCacheEntry η} {request : RpcRequest} {routeHash : UInt64}
    (h : routeCacheHit entry request routeHash = true) :
    (∃ handler, entry.handler = some handler) ∧ entry.IsFor request := by
  simp only [routeCacheHit, Bool.and_eq_true, beq_iff_eq] at h
  exact ⟨Option.isSome_iff_exists.mp h.1.1.1.1, h.1.1.2, h.1.2, h.2⟩

/-- The registry tells routes apart by nothing but service, method and mode. -/
theorem resolveMethodHandler_congr (services : Services η ζ) {entry : RouteCacheEntry η}
    {request request' : RpcRequest} (h : entry.IsFor request) (h' : entry.IsFor request') :
    resolveMethodHandler services request' = resolveMethodHandler services request := by
  obtain ⟨hmode, hservice, hmethod⟩ := h
  obtain ⟨hmode', hservice', hmethod'⟩ := h'
  unfold resolveMethodHandler
  rw [← hmode, ← hservice, ← hmethod, ← hmode', ← hservice', ← hmethod']

namespace RouteCache

variable {services : Services η ζ} {c : RouteCache η}

theorem consistent_empty (services : Services η ζ) : (empty : RouteCache η).Consistent services := by
  intro i handler h
  cases h

/-- A slot found by a test passes it. -/
theorem test_of_firstSlot {test : RouteCacheEntry η → Bool} {i : Fin kRouteCacheSize}
    (h : c.firstSlot test = some i) : test (c.routeCache i) = true := by
  have := List.find?_some h
  exact this

/-- What a cache lookup finds is the registry's answer, and it moves nothing but `last_hit`. -/
theorem findCachedHandler_spec (hc : c.Consistent services) (request : RpcRequest)
    (routeHash : UInt64) :
    (∀ handler, (c.findCachedHandler request routeHash).1 = some handler →
        resolveMethodHandler services request = .ok handler) ∧
      (c.findCachedHandler request routeHash).2.routeCache = c.routeCache ∧
      (c.findCachedHandler request routeHash).2.cursor = c.cursor := by
  have hsearch : (∀ handler, (c.searchHandler request routeHash).1 = some handler →
        resolveMethodHandler services request = .ok handler) ∧
      (c.searchHandler request routeHash).2.routeCache = c.routeCache ∧
      (c.searchHandler request routeHash).2.cursor = c.cursor := by
    unfold searchHandler
    split
    · rename_i i hi
      refine ⟨?_, rfl, rfl⟩
      intro handler hhandler
      exact hc i handler hhandler request (isFor_of_hit (test_of_firstSlot hi)).2
    · exact ⟨nofun, rfl, rfl⟩
  unfold findCachedHandler
  split
  · rename_i i _
    split
    · rename_i hhit
      refine ⟨?_, rfl, rfl⟩
      intro handler hhandler
      exact hc i handler hhandler request (isFor_of_hit hhit).2
    · exact hsearch
  · exact hsearch

/-- Remembering the registry's answer keeps every slot right. -/
theorem consistent_updateRouteCache (hc : c.Consistent services) {request : RpcRequest} {handler : η}
    (h : resolveMethodHandler services request = .ok handler) (routeHash : UInt64) :
    (c.updateRouteCache request routeHash handler).Consistent services := by
  have hset : ∀ (slot : Fin kRouteCacheSize) (entry : RouteCacheEntry η),
      entry.handler = some handler → entry.IsFor request →
      ∀ i, (Function.update c.routeCache slot entry i).Right services := by
    intro slot entry hhandler hfor i
    by_cases hi : i = slot
    · subst hi
      rw [Function.update_self]
      intro handler' h' request' hfor'
      rw [hhandler] at h'
      rw [resolveMethodHandler_congr services hfor hfor', h, Option.some.inj h']
    · rw [Function.update_of_ne hi]
      exact hc i
  unfold updateRouteCache
  split
  · rename_i i hi
    exact hset i _ rfl (isFor_of_keyMatch (test_of_firstSlot hi))
  · exact hset _ _ rfl ⟨rfl, rfl, rfl⟩

end RouteCache

/-- **A lookup through the cache answers what the registry answers**, and leaves the cache consistent. -/
theorem findHandler_eq {services : Services η ζ} {c : RouteCache η} (hc : c.Consistent services)
    (hash : Bytes → Bytes → RpcCallMode → UInt64) (request : RpcRequest) :
    (findHandler services hash c request).1 = resolveMethodHandler services request ∧
      (findHandler services hash c request).2.Consistent services := by
  unfold findHandler
  simp only []
  obtain ⟨hfound, hslots, -⟩ := RouteCache.findCachedHandler_spec hc request
    (hash request.serviceName request.methodName request.callMode)
  rcases hcached : c.findCachedHandler request
    (hash request.serviceName request.methodName request.callMode) with ⟨cached, c'⟩
  rw [hcached] at hfound hslots
  have hc' : c'.Consistent services := by
    intro i
    rw [show c'.routeCache = c.routeCache from hslots]
    exact hc i
  cases cached with
  | some handler => exact ⟨(hfound handler rfl).symm, hc'⟩
  | none =>
    rcases hresolve : resolveMethodHandler services request with code | handler
    · exact ⟨rfl, hc'⟩
    · exact ⟨rfl, RouteCache.consistent_updateRouteCache hc' hresolve _⟩

/-! ## A connection's requests, one after the other -/

/-- The lookups of a connection. -/
def findHandlers (services : Services η ζ) (hash : Bytes → Bytes → RpcCallMode → UInt64) :
    RouteCache η → List RpcRequest → List (Except RpcErrorCode η) × RouteCache η
  | c, [] => ([], c)
  | c, request :: requests =>
    let found := findHandler services hash c request
    let rest := findHandlers services hash found.2 requests
    (found.1 :: rest.1, rest.2)

/-- A slot is in use. -/
def RouteCacheEntry.Filled (entry : RouteCacheEntry η) : Prop := entry.handler ≠ none

/-- Two slots are for the same route. -/
def RouteCacheEntry.SameRoute (entry entry' : RouteCacheEntry η) : Prop :=
  entry.serviceName = entry'.serviceName ∧ entry.methodName = entry'.methodName ∧
    entry.callMode = entry'.callMode

/-- What holds of the cache between two lookups, beside its consistency: a used slot has the hash of its
    route, no two used slots are for one route, and `last_hit` points to a used slot if anywhere. -/
structure RouteCache.Tidy (hash : Bytes → Bytes → RpcCallMode → UInt64) (c : RouteCache η) : Prop where
  hashed : ∀ i, (c.routeCache i).Filled → (c.routeCache i).routeHash =
    hash (c.routeCache i).serviceName (c.routeCache i).methodName (c.routeCache i).callMode
  distinct : ∀ i j, (c.routeCache i).Filled → (c.routeCache j).Filled →
    (c.routeCache i).SameRoute (c.routeCache j) → i = j
  lastHit_filled : ∀ i, c.lastHit = some i → (c.routeCache i).Filled

namespace RouteCache

variable {hash : Bytes → Bytes → RpcCallMode → UInt64} {c : RouteCache η}

theorem tidy_empty (hash : Bytes → Bytes → RpcCallMode → UInt64) :
    (empty : RouteCache η).Tidy hash where
  hashed i h := absurd rfl h
  distinct i j h := absurd rfl h
  lastHit_filled i h := by cases h

/-- A used slot for the request, with the hash of its route, is a hit. -/
theorem Tidy.hit_of_isFor (hc : c.Tidy hash) {i : Fin kRouteCacheSize} (hfilled : (c.routeCache i).Filled)
    {request : RpcRequest} (hfor : (c.routeCache i).IsFor request) :
    routeCacheHit (c.routeCache i) request
      (hash request.serviceName request.methodName request.callMode) = true := by
  obtain ⟨hmode, hservice, hmethod⟩ := hfor
  have hhash := hc.hashed i hfilled
  rw [hservice, hmethod, hmode] at hhash
  simp only [routeCacheHit, Bool.and_eq_true, beq_iff_eq]
  exact ⟨⟨⟨⟨Option.isSome_iff_ne_none.mpr hfilled, hhash⟩, hmode⟩, hservice⟩, hmethod⟩

/-- A lookup changes `last_hit` at most, and then to a used slot. -/
theorem Tidy.findCachedHandler (hc : c.Tidy hash) (request : RpcRequest) (routeHash : UInt64) :
    (RouteCache.findCachedHandler c request routeHash).2.Tidy hash := by
  have hsearch : (c.searchHandler request routeHash).2.Tidy hash := by
    unfold searchHandler
    split
    · rename_i i hi
      refine ⟨hc.hashed, hc.distinct, ?_⟩
      intro j hj
      obtain rfl := Option.some.inj hj
      obtain ⟨⟨handler, hhandler⟩, -⟩ := isFor_of_hit (test_of_firstSlot hi)
      exact Option.ne_none_iff_exists'.mpr ⟨handler, hhandler⟩
    · exact hc
  unfold RouteCache.findCachedHandler
  split
  · split
    · exact hc
    · exact hsearch
  · exact hsearch

/-- After a miss no used slot is for the request. -/
theorem Tidy.not_isFor_of_miss (hc : c.Tidy hash) {request : RpcRequest}
    (hmiss : (c.findCachedHandler request
      (hash request.serviceName request.methodName request.callMode)).1 = none) :
    ∀ i, (c.routeCache i).Filled → ¬ (c.routeCache i).IsFor request := by
  intro i hfilled hfor
  have hhit := hc.hit_of_isFor hfilled hfor
  have hsearch : (c.searchHandler request
      (hash request.serviceName request.methodName request.callMode)).1 ≠ none := by
    unfold searchHandler
    rcases hfirst : c.firstSlot fun entry => routeCacheHit entry request
      (hash request.serviceName request.methodName request.callMode) with _ | j
    · have hnone := List.find?_eq_none.mp hfirst i (List.mem_finRange i)
      exact absurd hhit hnone
    · obtain ⟨⟨handler, hhandler⟩, -⟩ := isFor_of_hit (test_of_firstSlot hfirst)
      show (c.routeCache j).handler ≠ none
      rw [hhandler]
      exact Option.some_ne_none handler
  unfold RouteCache.findCachedHandler at hmiss
  split at hmiss
  · rename_i j _
    split at hmiss
    · rename_i hhitj
      obtain ⟨⟨handler, hhandler⟩, -⟩ := isFor_of_hit hhitj
      rw [hhandler] at hmiss
      cases hmiss
    · exact hsearch hmiss
  · exact hsearch hmiss

/-- Filling a slot, where no other used one is for the same route. -/
theorem Tidy.fill (hc : c.Tidy hash) {request : RpcRequest}
    (hmiss : ∀ i, (c.routeCache i).Filled → ¬ (c.routeCache i).IsFor request)
    (slot : Fin kRouteCacheSize) {entry : RouteCacheEntry η} (hfilled : entry.Filled)
    (hfor : entry.IsFor request)
    (hhash : entry.routeHash = hash request.serviceName request.methodName request.callMode)
    {c' : RouteCache η} (hslots : c'.routeCache = Function.update c.routeCache slot entry)
    (hlast : c'.lastHit = some slot) : c'.Tidy hash := by
  have hother : ∀ i, i ≠ slot → (c.routeCache i).Filled → ¬ entry.SameRoute (c.routeCache i) := by
    rintro i - hi ⟨hservice, hmethod, hmode⟩
    exact hmiss i hi ⟨hmode ▸ hfor.1, hservice ▸ hfor.2.1, hmethod ▸ hfor.2.2⟩
  constructor
  · intro i hi
    rw [hslots] at hi ⊢
    by_cases hslot : i = slot
    · subst hslot
      rw [Function.update_self]
      rw [hhash, hfor.1, hfor.2.1, hfor.2.2]
    · rw [Function.update_of_ne hslot] at hi ⊢
      exact hc.hashed i hi
  · intro i j hi hj hsame
    rw [hslots] at hi hj hsame
    by_cases hislot : i = slot
    · by_cases hjslot : j = slot
      · exact hislot.trans hjslot.symm
      · subst hislot
        rw [Function.update_self, Function.update_of_ne hjslot] at hsame
        rw [Function.update_of_ne hjslot] at hj
        exact absurd hsame (hother j hjslot hj)
    · rw [Function.update_of_ne hislot] at hi hsame
      by_cases hjslot : j = slot
      · subst hjslot
        rw [Function.update_self] at hsame
        exact absurd ⟨hsame.1.symm, hsame.2.1.symm, hsame.2.2.symm⟩ (hother i hislot hi)
      · rw [Function.update_of_ne hjslot] at hj hsame
        exact hc.distinct i j hi hj hsame
  · intro i hi
    rw [hlast] at hi
    obtain rfl := Option.some.inj hi
    rw [hslots, Function.update_self]
    exact hfilled

/-- Remembering an answer after a miss. -/
theorem Tidy.updateRouteCache (hc : c.Tidy hash) {request : RpcRequest}
    (hmiss : ∀ i, (c.routeCache i).Filled → ¬ (c.routeCache i).IsFor request) (handler : η) :
    (c.updateRouteCache request (hash request.serviceName request.methodName request.callMode)
      handler).Tidy hash := by
  unfold RouteCache.updateRouteCache
  split
  · rename_i i hi
    have hkey := test_of_firstSlot hi
    have hhash := hkey
    simp only [routeCacheKeyMatch, Bool.and_eq_true, beq_iff_eq] at hhash
    have hfor := isFor_of_keyMatch hkey
    have hfilled : RouteCacheEntry.Filled { c.routeCache i with handler := some handler } :=
      Option.some_ne_none handler
    exact hc.fill hmiss i hfilled hfor hhash.1.1.1 rfl rfl
  · refine hc.fill hmiss _ ?_ ⟨rfl, rfl, rfl⟩ rfl rfl rfl
    exact Option.some_ne_none handler

end RouteCache

/-- **One lookup keeps the cache in order.** -/
theorem RouteCache.Tidy.findHandler {hash : Bytes → Bytes → RpcCallMode → UInt64} {c : RouteCache η}
    (hc : c.Tidy hash) {services : Services η ζ} (hright : c.Consistent services)
    (request : RpcRequest) : (findHandler services hash c request).2.Tidy hash := by
  unfold GalayRpc.findHandler
  have hfound := hc.findCachedHandler request
    (hash request.serviceName request.methodName request.callMode)
  have hmiss : (RouteCache.findCachedHandler c request
      (hash request.serviceName request.methodName request.callMode)).1 = none → _ :=
    hc.not_isFor_of_miss
  obtain ⟨-, hslots, -⟩ := RouteCache.findCachedHandler_spec hright request
    (hash request.serviceName request.methodName request.callMode)
  simp only []
  rcases hcached : RouteCache.findCachedHandler c request
    (hash request.serviceName request.methodName request.callMode) with ⟨cached, c'⟩
  rw [hcached] at hfound hslots hmiss
  cases cached with
  | some handler => exact hfound
  | none =>
    rcases resolveMethodHandler services request with code | handler
    · exact hfound
    · refine hfound.updateRouteCache ?_ handler
      rw [show c'.routeCache = c.routeCache from hslots]
      exact hmiss rfl

/-- **Lookups one after the other**, from any cache that is in order. -/
theorem findHandlers_spec {services : Services η ζ} {hash : Bytes → Bytes → RpcCallMode → UInt64}
    (requests : List RpcRequest) {c : RouteCache η} (hright : c.Consistent services)
    (hc : c.Tidy hash) :
    (findHandlers services hash c requests).1 = requests.map (resolveMethodHandler services) ∧
      (findHandlers services hash c requests).2.Consistent services ∧
      (findHandlers services hash c requests).2.Tidy hash := by
  induction requests generalizing c with
  | nil => exact ⟨rfl, hright, hc⟩
  | cons request requests ih =>
    obtain ⟨hfound, hright'⟩ := findHandler_eq hright hash request
    obtain ⟨hrest, hend⟩ := ih hright' (hc.findHandler hright request)
    refine ⟨?_, hend⟩
    show _ :: _ = _ :: _
    rw [hfound, hrest]

/-- **The cache is invisible.**  For every registry, every route hash and every sequence of requests on
    a connection, each request gets what the registry alone would have given it; and all along the cursor
    is in range, no two used slots are for one route, `last_hit` points to a used slot if anywhere, and
    every used slot holds what the registry says about its route. -/
theorem route_cache_invisible (services : Services η ζ) (hash : Bytes → Bytes → RpcCallMode → UInt64)
    (requests : List RpcRequest) :
    let run := findHandlers services hash .empty requests
    run.1 = requests.map (resolveMethodHandler services) ∧
    run.2.cursor < kRouteCacheSize ∧
    (∀ i, run.2.lastHit = some i → (run.2.routeCache i).Filled) ∧
    (∀ i j, (run.2.routeCache i).Filled → (run.2.routeCache j).Filled →
      (run.2.routeCache i).SameRoute (run.2.routeCache j) → i = j) ∧
    (∀ i handler, (run.2.routeCache i).handler = some handler →
      ∀ request, (run.2.routeCache i).IsFor request →
        resolveMethodHandler services request = .ok handler) := by
  intro run
  obtain ⟨hfound, hright, hc⟩ := findHandlers_spec requests
    (RouteCache.consistent_empty services) (RouteCache.tidy_empty hash)
  exact ⟨hfound, run.2.cursor_lt, hc.lastHit_filled, hc.distinct, hright⟩

end GalayRpc
