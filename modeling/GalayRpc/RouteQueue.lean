/-
  The route cache of a connection is a queue of the last eight routes that were resolved.

  `RouteCache` shows that the cache gives the registry's answers.  Here is when it gives them, and when
  the registry is asked: a lookup that misses puts its route into the slot at the cursor, which holds the
  oldest one; a lookup that hits moves nothing but `last_hit`; a route that the registry does not know is
  not remembered.

  1. **Slots in order** — read from the cursor on, the slots are unused ones and behind them the routes
     kept, oldest first (`Queues`).

  2. **Refinement** — one lookup does to the slots what `Fifo.serve` does to the routes (`Queues.findHandler`).
     A slot that is not in use has the hash 0, and no route has: `updateRouteCache` never finds one of
     them by its key.

  3. **Consequences** — `cached_iff_among_last_eight`: a request is answered from the cache exactly if its
     route is among the last eight that were resolved, and a connection that uses no more than eight
     routes has each resolved once.
-/
import GalayRpc.RouteCache
import GalayRpc.Lib.Fifo
import Mathlib.Data.List.Rotate

namespace GalayRpc

variable {η ζ : Type}

/-! ## Routes -/

/-- Service, method and mode. -/
abbrev Route := Bytes × Bytes × RpcCallMode

def RpcRequest.route (request : RpcRequest) : Route :=
  (request.serviceName, request.methodName, request.callMode)

def RouteCacheEntry.route (entry : RouteCacheEntry η) : Route :=
  (entry.serviceName, entry.methodName, entry.callMode)

theorem isFor_iff_route {entry : RouteCacheEntry η} {request : RpcRequest} :
    entry.IsFor request ↔ entry.route = request.route := by
  simp only [RouteCacheEntry.IsFor, RouteCacheEntry.route, RpcRequest.route, Prod.mk.injEq]
  constructor
  · rintro ⟨hmode, hservice, hmethod⟩
    exact ⟨hservice, hmethod, hmode⟩
  · rintro ⟨hservice, hmethod, hmode⟩
    exact ⟨hmode, hservice, hmethod⟩

/-- The registry has a handler for the request. -/
def resolves (services : Services η ζ) (request : RpcRequest) : Bool :=
  (resolveMethodHandler services request).toBool

/-- The requests for which `handleConnection` calls `resolveMethodHandler`, in order. -/
def resolved (services : Services η ζ) (hash : Bytes → Bytes → RpcCallMode → UInt64) :
    RouteCache η → List RpcRequest → List RpcRequest
  | _, [] => []
  | c, request :: requests =>
    let rest := resolved services hash (findHandler services hash c request).2 requests
    if (c.findCachedHandler request
        (hash request.serviceName request.methodName request.callMode)).1.isSome then rest
    else request :: rest

/-! ## The slots in order -/

namespace RouteCache

variable {services : Services η ζ} {c : RouteCache η}

/-- The slots, from the cursor on. -/
def slots (c : RouteCache η) : List (RouteCacheEntry η) := (List.ofFn c.routeCache).rotate c.cursor

theorem mem_slots {entry : RouteCacheEntry η} : entry ∈ c.slots ↔ ∃ i, c.routeCache i = entry := by
  rw [slots, List.mem_rotate, List.mem_ofFn]

/-- Writing the slot at the cursor and moving on takes the first one away and puts the new one behind. -/
theorem slots_advance {entry : RouteCacheEntry η} {c' : RouteCache η}
    (hslots : c'.routeCache = Function.update c.routeCache ⟨c.cursor, c.cursor_lt⟩ entry)
    (hcursor : c'.cursor = (c.cursor + 1) % kRouteCacheSize) :
    c'.slots = c.slots.tail ++ [entry] := by
  have hset : List.ofFn c'.routeCache = (List.ofFn c.routeCache).set c.cursor entry := by
    refine List.ext_getElem ?_ ?_
    · rw [List.length_set, List.length_ofFn, List.length_ofFn]
    · intro i hi hi'
      rw [List.getElem_ofFn, List.getElem_set, hslots, Function.update_apply]
      by_cases hc : c.cursor = i
      · rw [if_pos (Fin.ext hc.symm), if_pos hc]
      · rw [if_neg (fun h => hc (congrArg Fin.val h).symm), if_neg hc, List.getElem_ofFn]
  have hlt : c.cursor < (List.ofFn c.routeCache).length := by
    rw [List.length_ofFn]
    exact c.cursor_lt
  have hadvance := Fifo.rotate_advance (List.ofFn c.routeCache) hlt entry
  rw [List.length_ofFn] at hadvance
  rw [slots, hset, hcursor, hadvance]
  rfl

/-- A lookup that hits has found a used slot for the request. -/
theorem exists_of_hit {request : RpcRequest} {routeHash : UInt64}
    (h : (c.findCachedHandler request routeHash).1.isSome = true) :
    ∃ i, (c.routeCache i).Filled ∧ (c.routeCache i).IsFor request := by
  have hslot : ∀ i, routeCacheHit (c.routeCache i) request routeHash = true →
      (c.routeCache i).Filled ∧ (c.routeCache i).IsFor request := by
    intro i hi
    obtain ⟨⟨handler, hhandler⟩, hfor⟩ := isFor_of_hit hi
    refine ⟨?_, hfor⟩
    rw [RouteCacheEntry.Filled, hhandler]
    exact Option.some_ne_none handler
  have hsearch : (c.searchHandler request routeHash).1.isSome = true →
      ∃ i, (c.routeCache i).Filled ∧ (c.routeCache i).IsFor request := by
    unfold searchHandler
    split
    · rename_i i hi
      intro _
      exact ⟨i, hslot i (test_of_firstSlot hi)⟩
    · intro h
      cases h
  unfold findCachedHandler at h
  split at h
  · rename_i i _
    split at h
    · rename_i hhit
      exact ⟨i, hslot i hhit⟩
    · exact hsearch h
  · exact hsearch h

/-! ## The cache as a queue -/

/-- **What the cache remembers**: these routes, oldest first, in the slots in front of the cursor. -/
structure Queues (services : Services η ζ) (c : RouteCache η) (kept : List Route) : Prop where
  right : c.Consistent services
  tidy : c.Tidy buildRouteHash
  slots : ∃ unused used, c.slots = List.replicate unused ({} : RouteCacheEntry η) ++ used ∧
    (∀ entry ∈ used, entry.Filled) ∧ used.map RouteCacheEntry.route = kept

theorem queues_empty (services : Services η ζ) : (empty : RouteCache η).Queues services [] where
  right := consistent_empty services
  tidy := tidy_empty buildRouteHash
  slots := ⟨kRouteCacheSize, [], rfl, List.forall_mem_nil _, rfl⟩

/-- An unused slot is as it was made. -/
theorem Queues.unused {kept : List Route} (h : c.Queues services kept) {i : Fin kRouteCacheSize}
    (hfilled : ¬ (c.routeCache i).Filled) : c.routeCache i = {} := by
  obtain ⟨unused, used, hslots, hused, -⟩ := h.slots
  have hmem : c.routeCache i ∈ c.slots := mem_slots.mpr ⟨i, rfl⟩
  rw [hslots] at hmem
  rcases List.mem_append.mp hmem with hmem | hmem
  · exact (List.mem_replicate.mp hmem).2
  · exact absurd (hused _ hmem) hfilled

theorem Queues.length_le {kept : List Route} (h : c.Queues services kept) :
    kept.length ≤ kRouteCacheSize := by
  obtain ⟨unused, used, hslots, -, rfl⟩ := h.slots
  have hlength := congrArg List.length hslots
  rw [RouteCache.slots, List.length_rotate, List.length_ofFn, List.length_append] at hlength
  rw [List.length_map]
  omega

/-- **When a lookup hits.** -/
theorem Queues.hit_iff {kept : List Route} (h : c.Queues services kept) (request : RpcRequest) :
    (c.findCachedHandler request
        (buildRouteHash request.serviceName request.methodName request.callMode)).1.isSome = true ↔
      request.route ∈ kept := by
  obtain ⟨unused, used, hslots, hused, rfl⟩ := h.slots
  constructor
  · intro hhit
    obtain ⟨i, hfilled, hfor⟩ := exists_of_hit hhit
    have hmem : c.routeCache i ∈ c.slots := mem_slots.mpr ⟨i, rfl⟩
    rw [hslots] at hmem
    rcases List.mem_append.mp hmem with hmem | hmem
    · rw [(List.mem_replicate.mp hmem).2] at hfilled
      exact absurd rfl hfilled
    · rw [← isFor_iff_route.mp hfor]
      exact List.mem_map_of_mem hmem
  · intro hroute
    obtain ⟨entry, hentry, hfor⟩ := List.mem_map.mp hroute
    have hmem : entry ∈ c.slots := by
      rw [hslots]
      exact List.mem_append_right _ hentry
    obtain ⟨i, rfl⟩ := mem_slots.mp hmem
    rw [Option.isSome_iff_ne_none]
    intro hmiss
    exact h.tidy.not_isFor_of_miss hmiss i (hused _ hentry) (isFor_iff_route.mpr hfor)

/-- A lookup in the cache moves nothing but `last_hit`. -/
theorem Queues.findCachedHandler {kept : List Route} (h : c.Queues services kept) (request : RpcRequest)
    (routeHash : UInt64) :
    (RouteCache.findCachedHandler c request routeHash).2.Queues services kept := by
  obtain ⟨-, hsame, hcursor⟩ := findCachedHandler_spec h.right request routeHash
  refine ⟨?_, h.tidy.findCachedHandler request routeHash, ?_⟩
  · intro i
    rw [hsame]
    exact h.right i
  · rw [RouteCache.slots, hsame, hcursor]
    exact h.slots

/-- No slot has the key of a request that has missed: a used one is for another route, and an unused one
    has the hash 0. -/
theorem Queues.no_key {kept : List Route} (h : c.Queues services kept) {request : RpcRequest}
    (hmiss : request.route ∉ kept) :
    (c.firstSlot fun entry => routeCacheKeyMatch entry request
      (buildRouteHash request.serviceName request.methodName request.callMode)) = none := by
  rw [firstSlot, List.find?_eq_none]
  intro i _ hkey
  have hfor := isFor_of_keyMatch hkey
  by_cases hfilled : (c.routeCache i).Filled
  · obtain ⟨unused, used, hslots, -, rfl⟩ := h.slots
    have hmem : c.routeCache i ∈ c.slots := mem_slots.mpr ⟨i, rfl⟩
    rw [hslots] at hmem
    rcases List.mem_append.mp hmem with hmem | hmem
    · rw [(List.mem_replicate.mp hmem).2] at hfilled
      exact hfilled rfl
    · rw [← isFor_iff_route.mp hfor] at hmiss
      exact hmiss (List.mem_map_of_mem hmem)
  · rw [h.unused hfilled] at hkey hfor
    obtain ⟨hmode, hservice, hmethod⟩ := hfor
    rw [← hmode, ← hservice, ← hmethod] at hkey
    have hzero : ¬ routeCacheKeyMatch ({} : RouteCacheEntry η) request
        (buildRouteHash [] [] .unary) = true := by
      intro h
      simp only [routeCacheKeyMatch, Bool.and_eq_true, beq_iff_eq] at h
      exact absurd h.1.1.1 (by decide)
    exact hzero hkey

/-- **A route that was resolved goes behind the ones that are kept**, and from a full cache the oldest
    one is dropped. -/
theorem Queues.updateRouteCache {kept : List Route} (h : c.Queues services kept) {request : RpcRequest}
    (hmiss : request.route ∉ kept) {handler : η}
    (hresolve : resolveMethodHandler services request = .ok handler) :
    (c.updateRouteCache request (buildRouteHash request.serviceName request.methodName request.callMode)
      handler).Queues services (Fifo.push kRouteCacheSize kept request.route) := by
  have hunkept : ∀ i, (c.routeCache i).Filled → ¬ (c.routeCache i).IsFor request := by
    refine h.tidy.not_isFor_of_miss (Option.not_isSome_iff_eq_none.mp ?_)
    intro hhit
    exact hmiss ((h.hit_iff request).mp hhit)
  refine ⟨consistent_updateRouteCache h.right hresolve _, h.tidy.updateRouteCache hunkept handler, ?_⟩
  obtain ⟨unused, used, hslots, hused, hkept⟩ := h.slots
  have hlength := congrArg List.length hslots
  rw [RouteCache.slots, List.length_rotate, List.length_ofFn, List.length_append,
    List.length_replicate] at hlength
  have hnew : (c.updateRouteCache request
      (buildRouteHash request.serviceName request.methodName request.callMode) handler).slots =
      c.slots.tail ++ [{
        routeHash := buildRouteHash request.serviceName request.methodName request.callMode
        serviceName := request.serviceName
        methodName := request.methodName
        callMode := request.callMode
        handler := some handler }] := by
    simp only [RouteCache.updateRouteCache, h.no_key hmiss]
    exact slots_advance rfl rfl
  rw [hnew, hslots]
  have hroute : ∀ used' : List (RouteCacheEntry η), (∀ entry ∈ used', entry.Filled) →
      ∀ entry ∈ used' ++ [{
          routeHash := buildRouteHash request.serviceName request.methodName request.callMode
          serviceName := request.serviceName
          methodName := request.methodName
          callMode := request.callMode
          handler := some handler }], entry.Filled := by
    intro used' hused' entry hentry
    rcases List.mem_append.mp hentry with hentry | hentry
    · exact hused' entry hentry
    · rw [List.mem_singleton.mp hentry]
      exact Option.some_ne_none handler
  cases unused with
  | zero =>
    -- the cache is full, and its first slot is the oldest route
    refine ⟨0, used.tail ++ [_], rfl, hroute _ fun entry hentry => hused _ (List.mem_of_mem_tail hentry), ?_⟩
    rw [Nat.zero_add] at hlength
    rw [List.map_append, List.map_tail, hkept, Fifo.push, Fifo.newest, List.length_append,
      List.length_singleton, ← hkept, List.length_map, ← hlength, Nat.add_sub_cancel_left,
      List.drop_one, List.tail_append_of_ne_nil]
    · rfl
    · intro hnil
      have hzero : used.length = 0 := by
        rw [← List.length_map, hnil]
        rfl
      rw [hzero] at hlength
      cases hlength
  | succ unused =>
    refine ⟨unused, used ++ [_], ?_, hroute _ hused, ?_⟩
    · rw [List.replicate_succ, List.cons_append, List.tail_cons, List.append_assoc]
    · rw [Fifo.push_of_room, List.map_append, hkept]
      · rfl
      · rw [← hkept, List.length_map]
        omega

end RouteCache

/-! ## A connection's lookups -/

/-- **One lookup.** -/
theorem RouteCache.Queues.findHandler {services : Services η ζ} {c : RouteCache η} {kept : List Route}
    (h : c.Queues services kept) (request : RpcRequest) :
    (findHandler services buildRouteHash c request).2.Queues services
      (if request.route ∈ kept then kept
        else if resolves services request then Fifo.push kRouteCacheSize kept request.route else kept) := by
  have hiff := h.hit_iff request
  have hcached := h.findCachedHandler request
    (buildRouteHash request.serviceName request.methodName request.callMode)
  unfold GalayRpc.findHandler
  simp only []
  rcases hfound : c.findCachedHandler request
    (buildRouteHash request.serviceName request.methodName request.callMode) with ⟨cached, c'⟩
  rw [hfound] at hiff hcached
  cases cached with
  | some handler =>
    rw [if_pos (hiff.mp rfl)]
    exact hcached
  | none =>
    have hmiss : request.route ∉ kept := by
      intro hmem
      cases hiff.mpr hmem
    rw [if_neg hmiss, resolves]
    cases hresolve : resolveMethodHandler services request with
    | error code => exact hcached
    | ok handler => exact hcached.updateRouteCache hmiss hresolve

/-- **The lookups of a connection** are those of a queue of eight routes. -/
theorem RouteCache.Queues.findHandlers {services : Services η ζ} (requests : List RpcRequest) :
    ∀ (c : RouteCache η) (kept : List Route), c.Queues services kept →
      resolved services buildRouteHash c requests =
          (Fifo.serve kRouteCacheSize RpcRequest.route (resolves services) kept requests).1 ∧
        (findHandlers services buildRouteHash c requests).2.Queues services
          (Fifo.serve kRouteCacheSize RpcRequest.route (resolves services) kept requests).2 := by
  induction requests with
  | nil =>
    intro c kept h
    exact ⟨rfl, h⟩
  | cons request requests ih =>
    intro c kept h
    have hiff := h.hit_iff request
    have hnext := h.findHandler request
    rw [resolved, Fifo.serve]
    by_cases hmem : request.route ∈ kept
    · rw [if_pos hmem] at hnext
      rw [if_pos (hiff.mpr hmem), if_pos hmem]
      exact ih _ _ hnext
    · rw [if_neg hmem] at hnext
      rw [if_neg (fun hhit => hmem (hiff.mp hhit)), if_neg hmem]
      obtain ⟨hasked, hqueues⟩ := ih _ _ hnext
      exact ⟨congrArg (request :: ·) hasked, hqueues⟩

/-- **When a connection asks the registry.**  Whatever it has been asked before, a request is answered from
    the cache exactly if its route is among the last eight that the connection had resolved with success;
    and if the requests that have a handler use no more than eight routes, the registry is asked once for
    each of these. -/
theorem cached_iff_among_last_eight (services : Services η ζ) (requests : List RpcRequest) :
    let c := (findHandlers services buildRouteHash .empty requests).2
    let known := ((resolved services buildRouteHash .empty requests).filter (resolves services)).map
      RpcRequest.route
    (∀ request : RpcRequest,
      (c.findCachedHandler request
          (buildRouteHash request.serviceName request.methodName request.callMode)).1.isSome = true ↔
        request.route ∈ known.drop (known.length - 8)) ∧
    ∀ routes : List Route, routes.length ≤ 8 →
      (∀ request ∈ requests, resolves services request = true → request.route ∈ routes) → known.Nodup := by
  intro c known
  obtain ⟨hasked, hqueues⟩ :=
    RouteCache.Queues.findHandlers requests .empty [] (RouteCache.queues_empty services)
  have hknown : known = Fifo.knownKeys RpcRequest.route (resolves services)
      (Fifo.serve kRouteCacheSize RpcRequest.route (resolves services) [] requests).1 := by
    rw [← hasked]
    rfl
  constructor
  · intro request
    rw [hqueues.hit_iff request, Fifo.serve_store _ _ _ requests [] (Nat.zero_le _), List.nil_append,
      ← hknown]
    rfl
  · intro routes hfew hroutes
    rw [hknown]
    exact (Fifo.asked_nodup hfew requests hroutes [] List.nodup_nil (List.nil_subset _)).1

end GalayRpc
