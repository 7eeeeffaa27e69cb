/-
  `rpc_discovery.h`: `ServiceDiscoveryClient`, and how its calls share the endpoints of a service.

  1. **Balancer** — galay-kernel's round-robin balancer is a type with the operations this code uses and
     the behaviour it is documented to have: a new balancer over some nodes starts at the first, and its
     selections go round.

  2. **Client** — `getServiceEndpoint` puts a new balancer over the endpoints it has just discovered in
     place of the one it has, and selects once.  So what it returns does not depend on the balancer it
     had, and is the first endpoint whenever there is one (`getServiceEndpoint_eq`).

  3. **Rotation** — over `k * n` calls, every endpoint is selected `k` times only if they all are one.
-/
import GalayRpc.Registry

namespace GalayRpc

/-- The `ServiceRegistry` concept, as far as the client reads it. -/
class ServiceRegistry (ρ : Type) where
  discoverService : ρ → Bytes → Except DiscoveryError (List ServiceEndpoint)

instance {κ : Type} : ServiceRegistry (LocalServiceRegistry κ) where
  discoverService := LocalServiceRegistry.discoverService

/-- `details::RoundRobinLoadBalancer<ServiceEndpoint>`: select number `i` of a new balancer is the node
    at `i` modulo their number. -/
class RoundRobinLoadBalancer (β : Type) where
  ofNodes : List ServiceEndpoint → β
  select : β → Option ServiceEndpoint × β
  select_ofNodes : ∀ (nodes : List ServiceEndpoint) (i : Nat),
    (select ((fun b => (select b).2)^[i] (ofNodes nodes))).1 = nodes[i % nodes.length]?

/-- `ServiceDiscoveryClient`; the registry it refers to is an argument of its methods. -/
structure ServiceDiscoveryClient (β : Type) where
  mSelector : β

section Client

variable {ρ β : Type} [ServiceRegistry ρ] [RoundRobinLoadBalancer β]

namespace ServiceDiscoveryClient

/-- `getServiceEndpoint`. -/
def getServiceEndpoint (client : ServiceDiscoveryClient β) (registry : ρ) (serviceName : Bytes) :
    Except DiscoveryError ServiceEndpoint × ServiceDiscoveryClient β :=
  match ServiceRegistry.discoverService registry serviceName with
  | .error e => (.error e, client)
  | .ok endpoints =>
    if endpoints.isEmpty then (.error ⟨.notFound, "No available instance"⟩, client)
    else
      let mSelector : β := RoundRobinLoadBalancer.ofNodes endpoints
      match RoundRobinLoadBalancer.select mSelector with
      | (none, mSelector) => (.error ⟨.notFound, "No available instance"⟩, ⟨mSelector⟩)
      | (some selected, mSelector) => (.ok selected, ⟨mSelector⟩)

/-- The endpoints that calls one after the other select, each in the registry as it is then. -/
def selections (serviceName : Bytes) : ServiceDiscoveryClient β → List ρ → List ServiceEndpoint
  | _, [] => []
  | client, registry :: registries =>
    match client.getServiceEndpoint registry serviceName with
    | (.error _, client) => selections serviceName client registries
    | (.ok selected, client) => selected :: selections serviceName client registries

/-- **Every call selects the first endpoint.** -/
theorem getServiceEndpoint_eq (client : ServiceDiscoveryClient β) {registry : ρ} {serviceName : Bytes}
    {first : ServiceEndpoint} {rest : List ServiceEndpoint}
    (h : ServiceRegistry.discoverService registry serviceName = .ok (first :: rest)) :
    (client.getServiceEndpoint registry serviceName).1 = .ok first := by
  have hselect := RoundRobinLoadBalancer.select_ofNodes (β := β) (first :: rest) 0
  rw [Nat.zero_mod, List.getElem?_cons_zero] at hselect
  have hfirst : (RoundRobinLoadBalancer.select (RoundRobinLoadBalancer.ofNodes (first :: rest) : β)).1 =
    some first := hselect
  unfold getServiceEndpoint
  rw [h]
  show (match RoundRobinLoadBalancer.select (RoundRobinLoadBalancer.ofNodes (first :: rest) : β) with
    | (none, mSelector) => _
    | (some selected, mSelector) => _ : Except DiscoveryError ServiceEndpoint × _).1 = _
  rcases hs : RoundRobinLoadBalancer.select (RoundRobinLoadBalancer.ofNodes (first :: rest) : β) with
    ⟨selected, b⟩
  rw [hs] at hfirst
  obtain rfl : selected = some first := hfirst
  rfl

theorem selections_eq {serviceName : Bytes} {first : ServiceEndpoint} {rest : List ServiceEndpoint}
    {registries : List ρ}
    (h : ∀ registry ∈ registries,
      ServiceRegistry.discoverService registry serviceName = .ok (first :: rest))
    (client : ServiceDiscoveryClient β) :
    client.selections serviceName registries = List.replicate registries.length first := by
  induction registries generalizing client with
  | nil => rfl
  | cons registry registries ih =>
    have hone := client.getServiceEndpoint_eq (h registry List.mem_cons_self)
    rcases hget : client.getServiceEndpoint registry serviceName with ⟨selected, client'⟩
    rw [hget] at hone
    obtain rfl : selected = .ok first := hone
    rw [selections, hget]
    show first :: client'.selections serviceName registries = _
    rw [ih (fun registry' hmem => h registry' (List.mem_cons_of_mem _ hmem)) client']
    rfl

/-- Of any `k * n` calls for a service with these `n` endpoints, every endpoint is selected `k` times, as
    often as it is listed. -/
def Rotates (client : ServiceDiscoveryClient β) (registry : ρ) (serviceName : Bytes) : Prop :=
  ∀ (endpoints : List ServiceEndpoint) (k : Nat) (registries : List ρ),
    ServiceRegistry.discoverService registry serviceName = .ok endpoints →
    registries.length = k * endpoints.length →
    (∀ registry' ∈ registries,
      ServiceRegistry.discoverService registry' serviceName = .ok endpoints) →
    ∀ endpoint, (client.selections serviceName registries).count endpoint = k * endpoints.count endpoint

end ServiceDiscoveryClient

/-- **The calls rotate exactly where there is nothing to rotate**: where the endpoints of the service are
    all the same. -/
theorem rotates_iff_all_same (client : ServiceDiscoveryClient β) (registry : ρ) (serviceName : Bytes)
    (endpoints : List ServiceEndpoint)
    (hlists : ServiceRegistry.discoverService registry serviceName = .ok endpoints) :
    client.Rotates registry serviceName ↔
      ∀ ep ∈ endpoints, ∀ ep' ∈ endpoints, ep = ep' := by
  cases endpoints with
  | nil =>
    refine ⟨fun _ ep hmem => absurd hmem List.not_mem_nil, fun _ => ?_⟩
    intro endpoints k registries hlists' hlen _ endpoint
    obtain rfl : [] = endpoints := Except.ok.inj (hlists.symm.trans hlists')
    obtain rfl : registries = [] := List.eq_nil_of_length_eq_zero hlen
    rfl
  | cons first rest =>
    constructor
    · intro hrotates
      -- `n` calls select the first endpoint every time
      have hcount : ∀ endpoint, (List.replicate (rest.length + 1) first).count endpoint =
          (first :: rest).count endpoint := by
        intro endpoint
        have hall : ∀ registry' ∈ List.replicate (rest.length + 1) registry,
            ServiceRegistry.discoverService registry' serviceName = .ok (first :: rest) := by
          intro registry' hmem
          rw [List.eq_of_mem_replicate hmem]
          exact hlists
        have := hrotates (first :: rest) 1 (List.replicate (rest.length + 1) registry) hlists
          (by rw [List.length_replicate, List.length_cons, Nat.one_mul]) hall endpoint
        rwa [ServiceDiscoveryClient.selections_eq hall, List.length_replicate, Nat.one_mul] at this
      have hsame : ∀ ep ∈ first :: rest, ep = first := by
        intro ep hmem
        have hpos : 0 < (first :: rest).count ep := List.count_pos_iff.mpr hmem
        rw [← hcount ep] at hpos
        exact List.eq_of_mem_replicate (List.count_pos_iff.mp hpos)
      intro ep hmem ep' hmem'
      rw [hsame ep hmem, hsame ep' hmem']
    · intro hsame endpoints k registries hlists' hlen hall endpoint
      obtain rfl : first :: rest = endpoints := Except.ok.inj (hlists.symm.trans hlists')
      have hrep : first :: rest = List.replicate (first :: rest).length first :=
        List.eq_replicate_of_mem fun ep hmem => hsame ep hmem first List.mem_cons_self
      rw [ServiceDiscoveryClient.selections_eq hall, hlen, hrep, List.length_replicate,
        List.count_replicate, List.count_replicate]
      split
      · rfl
      · rfl

end Client

/-! ### Two endpoints -/

/-- A balancer that behaves as documented. -/
structure RoundRobinSelector where
  nodes : List ServiceEndpoint
  index : Nat

/-- The node at the index, which moves on. -/
def RoundRobinSelector.select (b : RoundRobinSelector) : Option ServiceEndpoint × RoundRobinSelector :=
  (b.nodes[b.index % b.nodes.length]?, ⟨b.nodes, b.index + 1⟩)

theorem RoundRobinSelector.select_iterate (nodes : List ServiceEndpoint) (i : Nat) :
    (((fun b => (select b).2)^[i] ⟨nodes, 0⟩).select).1 = nodes[i % nodes.length]? := by
  have hindex : (fun b => (select b).2)^[i] ⟨nodes, 0⟩ = ⟨nodes, i⟩ := by
    induction i with
    | zero => rfl
    | succ i ih =>
      rw [Function.iterate_succ_apply', ih]
      rfl
  rw [hindex]
  rfl

instance : RoundRobinLoadBalancer RoundRobinSelector where
  ofNodes nodes := ⟨nodes, 0⟩
  select := RoundRobinSelector.select
  select_ofNodes := RoundRobinSelector.select_iterate

/-- A registry with two instances of one service. -/
def twoInstances : LocalServiceRegistry Unit :=
  (((({} : LocalServiceRegistry Unit).registerService ⟨[1], 90, [7], [1], 100⟩).registry).registerService
    ⟨[1], 91, [7], [2], 100⟩).registry

theorem rotates_iff_all_same_two :
    (⟨⟨[], 0⟩⟩ : ServiceDiscoveryClient RoundRobinSelector).Rotates twoInstances [7] ↔
      ∀ ep ∈ ([⟨[1], 90, [7], [1], 100⟩, ⟨[1], 91, [7], [2], 100⟩] : List ServiceEndpoint),
        ∀ ep' ∈ ([⟨[1], 90, [7], [1], 100⟩, ⟨[1], 91, [7], [2], 100⟩] : List ServiceEndpoint), ep = ep' :=
  rotates_iff_all_same _ twoInstances [7] _ rfl

/-- Two calls, and the second instance is not selected. -/
theorem second_instance_idle :
    ¬ ∀ (client : ServiceDiscoveryClient RoundRobinSelector) (registry : LocalServiceRegistry Unit)
      (serviceName : Bytes), client.Rotates registry serviceName := by
  intro h
  have hcount := h ⟨⟨[], 0⟩⟩ twoInstances [7] _ 1 [twoInstances, twoInstances] rfl rfl
    (by
      intro registry hmem
      rcases List.mem_pair.mp hmem with rfl | rfl
      · rfl
      · rfl)
    ⟨[1], 91, [7], [2], 100⟩
  exact absurd hcount (by decide)

end GalayRpc
