import SynapseOS.AgentRegistry.Matcher
import SynapseOS.Lib.Offers

/-! The registry of MCP servers (`core/mcp/types.py`): which capabilities a caller with some
permissions discovers, and which of them resolve. -/

namespace SynapseOS.Mcp

open Execution Tools Permissions

inductive MCPHealthStatus
  | unknown
  | healthy
  | unhealthy
  | disabled
  deriving DecidableEq, Repr

structure MCPCapability where
  name : Identifier
  description : PyStr
  requiredPermissions : Finset Permission
  description_valid : 1 ≤ description.length ∧ description.length ≤ 255
  permissions_few : requiredPermissions.card ≤ 16

structure MCPServerDefinition where
  serverId : Identifier
  displayName : PyStr
  allowlisted : Bool
  status : MCPHealthStatus
  requiredPermissions : Finset Permission
  capabilities : List MCPCapability
  timeoutSeconds : ℚ
  displayName_valid : 1 ≤ displayName.length ∧ displayName.length ≤ 255
  permissions_few : requiredPermissions.card ≤ 16
  capabilities_few : 1 ≤ capabilities.length ∧ capabilities.length ≤ 128
  timeout_valid : 0 < timeoutSeconds ∧ timeoutSeconds ≤ 30
  capabilities_unique : (capabilities.map fun capability => capability.name).Nodup

structure MCPRegistry where
  servers : List MCPServerDefinition
  servers_few : servers.length ≤ 128
  servers_unique : (servers.map fun server => server.serverId).Nodup

inductive MCPRouterError
  | unavailable
  deriving DecidableEq

instance : Fintype Permission where
  elems := allPermissions.toFinset
  complete := by
    intro permission
    cases permission <;> decide

namespace MCPServerDefinition

variable (server : MCPServerDefinition)

def active : Bool := server.allowlisted && decide (server.status = .healthy)

def availableTo (permissions : Finset Permission) : Bool :=
  server.active && decide (server.requiredPermissions ⊆ permissions)

end MCPServerDefinition

namespace MCPRegistry

variable (registry : MCPRegistry) (permissions : Finset Permission)

def discover : List Identifier :=
  let names := (registry.servers.filter fun server => server.availableTo permissions).flatMap
    fun server => (server.capabilities.filter fun capability =>
      decide (capability.requiredPermissions ⊆ permissions)).map fun capability => capability.name
  names.toFinset.sort

def candidates (capability : Identifier) : List (MCPServerDefinition × MCPCapability) :=
  (registry.servers.filter fun server => server.availableTo permissions).flatMap
    fun server => (server.capabilities.filter fun item =>
      decide (item.name = capability ∧ item.requiredPermissions ⊆ permissions)).map fun item =>
        (server, item)

def resolve (capability : Identifier) :
    Except MCPRouterError (MCPServerDefinition × MCPCapability) :=
  match registry.candidates permissions capability with
  | [found] => .ok found
  | _ => .error .unavailable

def requiredPermissions (capabilities : List Identifier) :
    Except MCPRouterError (Finset Permission) :=
  capabilities.foldlM (fun required capability => do
    let (server, definition) ← registry.resolve permissions capability
    return required ∪ server.requiredPermissions ∪ definition.requiredPermissions) ∅

end MCPRegistry

section Offered

def MCPRegistry.offers (registry : MCPRegistry) : List (MCPServerDefinition × MCPCapability) :=
  (registry.servers.filter MCPServerDefinition.active).flatMap
    fun server => server.capabilities.map fun item => (server, item)

def offerName (offer : MCPServerDefinition × MCPCapability) : Identifier := offer.2.name

def offerNeeds (offer : MCPServerDefinition × MCPCapability) : Finset Permission :=
  offer.1.requiredPermissions ∪ offer.2.requiredPermissions

/-- No name is offered by two active servers. -/
def MCPRegistry.Unambiguous (registry : MCPRegistry) : Prop :=
  registry.servers.Pairwise fun first second => first.active = true → second.active = true →
    ∀ item ∈ first.capabilities, ∀ other ∈ second.capabilities, item.name ≠ other.name

variable {registry : MCPRegistry} {permissions more : Finset Permission} {capability : Identifier}
  {offer : MCPServerDefinition × MCPCapability}

theorem mem_offers : offer ∈ registry.offers ↔
    offer.1 ∈ registry.servers ∧ offer.1.active = true ∧ offer.2 ∈ offer.1.capabilities := by
  obtain ⟨server, item⟩ := offer
  simp only [MCPRegistry.offers, List.mem_flatMap, List.mem_filter, List.mem_map, Prod.mk.injEq]
  constructor
  · rintro ⟨_, ⟨among, active⟩, _, offered, rfl, rfl⟩
    exact ⟨among, active, offered⟩
  · rintro ⟨among, active, offered⟩
    exact ⟨server, ⟨among, active⟩, item, offered, rfl, rfl⟩

theorem mem_discover : capability ∈ registry.discover permissions ↔
    ∃ offer ∈ registry.offers, offerName offer = capability ∧ offerNeeds offer ⊆ permissions := by
  simp only [MCPRegistry.discover, Finset.mem_sort, List.mem_toFinset, List.mem_flatMap,
    List.mem_filter, List.mem_map,
    MCPServerDefinition.availableTo, Bool.and_eq_true, decide_eq_true_eq, Prod.exists, mem_offers,
    offerName, offerNeeds, Finset.union_subset_iff]
  constructor
  · rintro ⟨server, ⟨among, active, enough⟩, item, ⟨offered, needed⟩, named⟩
    exact ⟨server, item, ⟨among, active, offered⟩, named, enough, needed⟩
  · rintro ⟨server, item, ⟨among, active, offered⟩, named, enough, needed⟩
    exact ⟨server, ⟨among, active, enough⟩, item, ⟨offered, needed⟩, named⟩

theorem candidates_offers : registry.candidates permissions capability =
    Offers.candidates offerName offerNeeds registry.offers capability permissions := by
  unfold MCPRegistry.candidates Offers.candidates MCPRegistry.offers
  rw [List.filter_flatMap]
  induction registry.servers with
  | nil => rfl
  | cons server rest ih =>
      by_cases active : server.active = true
      · by_cases enough : server.requiredPermissions ⊆ permissions
        · have available : server.availableTo permissions = true :=
            Bool.and_eq_true_iff.mpr ⟨active, decide_eq_true enough⟩
          simp only [List.filter_cons, if_pos available, if_pos active, List.flatMap_cons, ih,
            List.filter_map]
          simp [Function.comp_def, offerName, offerNeeds, Finset.union_subset_iff, enough]
        · have closed : ¬ server.availableTo permissions = true := by
            simp [MCPServerDefinition.availableTo, enough]
          simp only [List.filter_cons, if_neg closed, if_pos active, List.flatMap_cons, ih,
            List.filter_map]
          simp [Function.comp_def, offerNeeds, Finset.union_subset_iff, enough]
      · have closed : ¬ server.availableTo permissions = true := by
          simp [MCPServerDefinition.availableTo, active]
        simp only [List.filter_cons, if_neg closed, if_neg active, ih]

theorem resolve_ok : registry.resolve permissions capability = .ok offer ↔
    Offers.sole offerName offerNeeds registry.offers capability permissions = some offer := by
  unfold MCPRegistry.resolve Offers.sole
  rw [candidates_offers, Offers.only_some]
  split
  · next found alone => simp [alone]
  · next other => exact ⟨nofun, fun alone => (other offer alone).elim⟩

/-- Names are offered once exactly when no two active servers share one. -/
theorem unambiguous_iff : registry.Unambiguous ↔ (registry.offers.map offerName).Nodup := by
  have names :
    registry.offers.map offerName = (registry.servers.filter MCPServerDefinition.active).flatMap
      fun server => server.capabilities.map fun item => item.name := by
    simp [MCPRegistry.offers, List.map_flatMap, offerName, Function.comp_def]
  rw [names, List.nodup_flatMap, List.pairwise_filter]
  constructor
  · intro apart
    refine ⟨fun server _ => server.capabilities_unique, apart.imp fun separate active both => ?_⟩
    intro name first second
    obtain ⟨item, offered, named⟩ := List.mem_map.mp first
    obtain ⟨other, there, same⟩ := List.mem_map.mp second
    exact separate active both item offered other there (named.trans same.symm)
  · rintro ⟨_, apart⟩
    refine apart.imp fun separate active both item offered other there same => ?_
    exact separate active both (List.mem_map_of_mem offered) (same ▸ List.mem_map_of_mem there)

end Offered

end SynapseOS.Mcp
