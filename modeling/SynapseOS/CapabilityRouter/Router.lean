import SynapseOS.Mcp.Registry
import SynapseOS.Skills.Selector

/-! Capability plans (`core/capability_router/router.py`), and what the registry of MCP servers owes
them: what it discovers resolves. -/

namespace SynapseOS.CapabilityRouter

open Execution Tools Permissions Mcp Skills

structure ToolDefinition where
  name : Identifier
  requiredPermissions : Finset Permission
  permissions_valid : requiredPermissions.Nonempty

structure ToolRegistry where
  tools : List ToolDefinition
  names_unique : (tools.map fun tool => tool.name).Nodup

structure CapabilityRoutingRequest where
  taskId : Identifier
  agentId : Identifier
  taskDescription : PyStr
  agentRole : PyStr
  domains : Finset Identifier
  technologies : Finset Identifier
  tags : Finset Identifier
  availablePermissions : Finset Permission
  requestedTools : Finset Identifier
  requestedMcpCapabilities : Finset Identifier
  description_valid : 1 ≤ taskDescription.length ∧ taskDescription.length ≤ 4096
  role_valid : 1 ≤ agentRole.length ∧ agentRole.length ≤ 255
  sets_few : ∀ items ∈ [domains, technologies, tags, requestedTools, requestedMcpCapabilities],
    items.card ≤ 32

structure CapabilityPlan where
  taskId : Identifier
  agentId : Identifier
  selectedSkillIds : List Identifier
  selectedToolIds : List Identifier
  selectedMcpCapabilities : List Identifier
  requiredPermissions : Finset Permission
  rationale : List String
  selected_few : ∀ selected ∈ [selectedSkillIds, selectedToolIds, selectedMcpCapabilities],
    selected.length ≤ 64
  rationale_few : 1 ≤ rationale.length ∧ rationale.length ≤ 16

inductive PlanError
  | invalid (error : ValidationError)
  /-- `ValueError`: a requested tool is not registered. -/
  | unknownTool
  | mcp (error : MCPRouterError)

section Plan

variable (tools : ToolRegistry) (request : CapabilityRoutingRequest)

def selectTools : Except PlanError (List Identifier) :=
  if request.requestedTools ⊆ (tools.tools.map fun tool => tool.name).toFinset then
    .ok (request.requestedTools.sort.filter fun name => tools.tools.any fun tool =>
      decide (tool.name = name ∧ tool.requiredPermissions ⊆ request.availablePermissions))
  else .error .unknownTool

def requiredPermissions (skills : SkillRegistry) (skillIds toolIds : List Identifier) :
    Finset Permission :=
  let ofSkills := (skills.definitions.filter fun skill => skillIds.contains skill.id).map
    fun skill => skill.requiredPermissions
  let ofTools := (tools.tools.filter fun tool => toolIds.contains tool.name).map
    fun tool => tool.requiredPermissions
  (ofSkills ++ ofTools).foldr (· ∪ ·) ∅ ∩ request.availablePermissions

def rationale : List String :=
  ["Skills ranked by deterministic metadata relevance and permission prerequisites.",
    "Tools selected only from the explicit registry and active permissions.",
    "MCP capabilities selected only from healthy allowlisted registry entries."]

def skillRequest : SkillSelectionRequest where
  taskDescription := request.taskDescription
  agentRole := request.agentRole
  domains := request.domains
  technologies := request.technologies
  tags := request.tags
  availablePermissions := request.availablePermissions
  maxResults := 64

def selectedCapabilities (mcp : MCPRegistry) : List Identifier :=
  request.requestedMcpCapabilities.sort.filter fun capability =>
    (mcp.discover request.availablePermissions).contains capability

variable {tools request}

theorem selectTools_few {selected : List Identifier}
    (chosen : selectTools tools request = .ok selected) :
    selected.length ≤ 64 := by
  unfold selectTools at chosen
  split at chosen
  · cases chosen
    have few := request.sets_few request.requestedTools (by simp)
    have part := List.length_filter_le (fun name => tools.tools.any fun tool =>
      decide (tool.name = name ∧ tool.requiredPermissions ⊆ request.availablePermissions))
      request.requestedTools.sort
    rw [Finset.length_sort] at part
    omega
  · cases chosen

theorem selectTools_error {error : PlanError} (refused : selectTools tools request = .error error) :
    error = .unknownTool := by
  unfold selectTools at refused
  split at refused
  · cases refused
  · exact (Except.error.inj refused).symm

theorem selectedCapabilities_few {mcp : MCPRegistry} :
    (selectedCapabilities request mcp).length ≤ 64 := by
  have few := request.sets_few request.requestedMcpCapabilities (by simp)
  have part := List.length_filter_le (fun capability =>
    (mcp.discover request.availablePermissions).contains capability)
      request.requestedMcpCapabilities.sort
  rw [Finset.length_sort] at part
  exact part.trans (by omega)

variable (lower : PyStr → PyStr) (skills : SkillRegistry) (tools : ToolRegistry) (mcp : MCPRegistry)
  (request : CapabilityRoutingRequest)

def plan : Except PlanError CapabilityPlan :=
  match (skillRequest request).validate with
  | .error error => .error (.invalid error)
  | .ok _ =>
    let selectedSkills := (select lower (skillRequest request) skills).map fun skill =>
      skill.skillId
    match chosen : selectTools tools request with
    | .error error => .error error
    | .ok selectedTools =>
      let selectedMcp := selectedCapabilities request mcp
      let permissions := requiredPermissions tools request skills selectedSkills selectedTools
      match mcp.requiredPermissions request.availablePermissions selectedMcp with
      | .error error => .error (.mcp error)
      | .ok mcpPermissions => .ok {
          taskId := request.taskId
          agentId := request.agentId
          selectedSkillIds := selectedSkills
          selectedToolIds := selectedTools
          selectedMcpCapabilities := selectedMcp
          requiredPermissions := permissions ∪ mcpPermissions
          rationale
          selected_few := by
            intro selected among
            simp only [List.mem_cons, List.not_mem_nil, or_false] at among
            rcases among with rfl | rfl | rfl
            · rw [List.length_map]
              exact select_few lower (skillRequest request) skills
            · exact selectTools_few chosen
            · exact selectedCapabilities_few
          rationale_few := by decide }

end Plan

section Law

structure Lawful (registry : MCPRegistry) : Prop where
  listed : ∀ permissions capability, capability ∈ registry.discover permissions ↔
    ∃ found, registry.resolve permissions capability = .ok found
  discovers : ∀ permissions more, permissions ⊆ more →
    ∀ capability ∈ registry.discover permissions, capability ∈ registry.discover more
  resolves : ∀ permissions more, permissions ⊆ more → ∀ capability found,
    registry.resolve permissions capability = .ok found →
    registry.resolve more capability = .ok found
  plans : ∀ lower skills tools request error, plan lower skills tools registry request ≠
    .error (.mcp error)

variable {registry : MCPRegistry} {permissions more : Finset Permission} {capability : Identifier}

theorem requiredPermissions_ok {capabilities : List Identifier} (each : ∀ capability ∈ capabilities,
      ∃ found, registry.resolve permissions capability = .ok found) :
    ∃ required, registry.requiredPermissions permissions capabilities = .ok required := by
  unfold MCPRegistry.requiredPermissions
  generalize (∅ : Finset Permission) = start
  induction capabilities generalizing start with
  | nil => exact ⟨start, rfl⟩
  | cons capability rest ih =>
      obtain ⟨found, resolved⟩ := each capability List.mem_cons_self
      rw [List.foldlM_cons, resolved]
      exact ih (fun other among => each other (List.mem_cons_of_mem _ among)) _

/-- The only such error of a plan is that of the permissions of its capabilities. -/
theorem plan_mcp {lower : PyStr → PyStr} {skills : SkillRegistry} {tools : ToolRegistry}
    {request : CapabilityRoutingRequest} {error : MCPRouterError}
    (raised : plan lower skills tools registry request = .error (.mcp error)) :
    registry.requiredPermissions request.availablePermissions
      (selectedCapabilities request registry) = .error error := by
  unfold plan at raised
  split at raised
  · cases raised
  · dsimp only at raised
    split at raised
    · next refused =>
        rw [selectTools_error refused] at raised
        cases raised
    · split at raised
      · next failed =>
          cases raised
          exact failed
      · cases raised

theorem discover_resolves (unambiguous : registry.Unambiguous) :
    capability ∈ registry.discover permissions ↔
    ∃ found, registry.resolve permissions capability = .ok found := by
  have distinct := unambiguous_iff.mp unambiguous
  rw [mem_discover]
  constructor
  · rintro ⟨offer, among, rfl, enough⟩
    exact ⟨offer, resolve_ok.mpr (Offers.sole_open distinct among enough)⟩
  · rintro ⟨found, resolved⟩
    exact ⟨found, Offers.sole_candidate (resolve_ok.mp resolved)⟩

theorem discover_grows (grown : permissions ⊆ more)
    (listed : capability ∈ registry.discover permissions) :
    capability ∈ registry.discover more := by
  obtain ⟨offer, among, named, enough⟩ := mem_discover.mp listed
  exact mem_discover.mpr ⟨offer, among, named, enough.trans grown⟩

/-- The registry is lawful exactly when it is unambiguous. -/
theorem registry_lawful (registry : MCPRegistry) : Lawful registry ↔ registry.Unambiguous := by
  constructor
  · intro lawful
    rw [unambiguous_iff]
    have each : ∀ offer ∈ registry.offers, ∃ found, Offers.sole offerName offerNeeds registry.offers
        (offerName offer) Finset.univ = some found := by
      intro offer among
      have listed : offerName offer ∈ registry.discover Finset.univ :=
        mem_discover.mpr ⟨offer, among, rfl, Finset.subset_univ _⟩
      obtain ⟨found, resolved⟩ := (lawful.listed _ _).mp listed
      exact ⟨found, resolve_ok.mp resolved⟩
    exact Offers.distinct_of_sole each
  · intro unambiguous
    have distinct := unambiguous_iff.mp unambiguous
    constructor
    · intro permissions capability
      exact discover_resolves unambiguous
    · intro permissions more grown capability listed
      exact discover_grows grown listed
    · intro permissions more grown capability found resolved
      exact resolve_ok.mpr (Offers.sole_grows distinct grown (resolve_ok.mp resolved))
    · intro lower skills tools request error raised
      have resolving : ∀ capability ∈ selectedCapabilities request registry,
          ∃ found, registry.resolve request.availablePermissions capability = .ok found := by
        intro capability among
        have listed := (List.mem_filter.mp among).2
        exact (discover_resolves unambiguous).mp (List.contains_iff_mem.mp listed)
      obtain ⟨required, ready⟩ := requiredPermissions_ok resolving
      rw [plan_mcp raised] at ready
      cases ready

end Law

section Sample

def sampleCapability : MCPCapability where
  name := ⟨"repository.read", by decide⟩
  description := .ofString "Read"
  requiredPermissions := {.gitRead}
  description_valid := by decide
  permissions_few := by decide

def sampleServer (id : Identifier) (requiredPermissions : Finset Permission)
    (permissions_few : requiredPermissions.card ≤ 16) : MCPServerDefinition where
  serverId := id
  displayName := .ofString "Server"
  allowlisted := true
  status := .healthy
  requiredPermissions
  capabilities := [sampleCapability]
  timeoutSeconds := 5
  displayName_valid := by decide
  permissions_few
  capabilities_few := by decide
  timeout_valid := by norm_num
  capabilities_unique := List.nodup_singleton _

def sampleRegistry : MCPRegistry where
  servers := [sampleServer ⟨"alpha", by decide⟩ {.gitRead} (by decide),
    sampleServer ⟨"beta", by decide⟩ {.networkAccess} (by decide)]
  servers_few := by decide
  servers_unique := by decide

theorem agent_identifier : identifierPattern "agent" = true := by decide

def sampleRequest : CapabilityRoutingRequest where
  taskId := ⟨"task", by decide⟩
  agentId := ⟨"agent", agent_identifier⟩
  taskDescription := .ofString "Fix"
  agentRole := .ofString "Dev"
  domains := ∅
  technologies := ∅
  tags := ∅
  availablePermissions := {.gitRead, .networkAccess}
  requestedTools := ∅
  requestedMcpCapabilities := {sampleCapability.name}
  description_valid := by decide
  role_valid := by decide
  sets_few := by decide

/-- The capability resolves, is listed but no longer resolves with one more permission, and its plan
raises. -/
theorem ambiguous_lost :
    (∃ found, sampleRegistry.resolve {.gitRead} sampleCapability.name = .ok found) ∧
      sampleCapability.name ∈ sampleRegistry.discover {.gitRead, .networkAccess} ∧
      sampleRegistry.resolve {.gitRead, .networkAccess} sampleCapability.name =
        .error .unavailable ∧
      plan id ⟨[], by decide, List.nodup_nil⟩ ⟨[], List.nodup_nil⟩ sampleRegistry sampleRequest =
        .error (.mcp .unavailable) ∧ ¬ Lawful sampleRegistry := by
  have offered : (sampleServer ⟨"alpha", by decide⟩ {.gitRead} (by decide), sampleCapability) ∈
      sampleRegistry.offers := mem_offers.mpr ⟨List.mem_cons_self, rfl, List.mem_singleton_self _⟩
  have resolved : ∃ found, sampleRegistry.resolve {.gitRead} sampleCapability.name = .ok found :=
    ⟨_, rfl⟩
  have listed : sampleCapability.name ∈ sampleRegistry.discover {.gitRead, .networkAccess} :=
    mem_discover.mpr ⟨_, offered, rfl, by decide⟩
  have refused : sampleRegistry.resolve {.gitRead, .networkAccess} sampleCapability.name =
      .error .unavailable := rfl
  have selected : selectedCapabilities sampleRequest sampleRegistry = [sampleCapability.name] := by
    unfold selectedCapabilities
    dsimp only [sampleRequest]
    rw [Finset.sort_singleton, List.filter_cons_of_pos (List.contains_iff_mem.mpr listed),
      List.filter_nil]
  have needed : sampleRegistry.requiredPermissions sampleRequest.availablePermissions
      (selectedCapabilities sampleRequest sampleRegistry) = .error .unavailable := by
    rw [selected]
    rfl
  refine ⟨resolved, listed, refused, ?_, fun lawful => ?_⟩
  · have valid : (skillRequest sampleRequest).validate = .ok (skillRequest sampleRequest) := by
      exact if_pos (by decide)
    unfold plan
    dsimp only
    rw [valid, needed]
    rfl
  · obtain ⟨found, resolves⟩ := (lawful.listed _ _).mp listed
    rw [refused] at resolves
    cases resolves

end Sample

end SynapseOS.CapabilityRouter
