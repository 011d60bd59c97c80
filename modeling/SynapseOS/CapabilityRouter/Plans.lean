import SynapseOS.CapabilityRouter.Router

/-! What a capability plan says: it selects nothing without authority, and requires all that its
selection requires. -/

namespace SynapseOS.CapabilityRouter

open Execution Tools Permissions Mcp Skills

/-- A server and one of its capabilities are registered, routed to and authorized. -/
def Authorized (mcp : MCPRegistry) (available : Finset Permission)
    (offer : MCPServerDefinition × MCPCapability) : Prop :=
  (offer.1 ∈ mcp.servers ∧ offer.1.active = true ∧ offer.2 ∈ offer.1.capabilities) ∧
    offer.1.requiredPermissions ⊆ available ∧ offer.2.requiredPermissions ⊆ available

inductive Required (skills : SkillRegistry) (tools : ToolRegistry) (mcp : MCPRegistry)
    (available : Finset Permission) (plan : CapabilityPlan) (permission : Permission) : Prop
  | skill (skill : SkillMetadata) (registered : skill ∈ skills.skills)
      (selected : skill.id ∈ plan.selectedSkillIds)
      (needed : permission ∈ skill.requiredPermissions)
  | tool (tool : ToolDefinition) (registered : tool ∈ tools.tools)
      (selected : tool.name ∈ plan.selectedToolIds) (needed : permission ∈ tool.requiredPermissions)
  | capability (offer : MCPServerDefinition × MCPCapability)
      (offered : Authorized mcp available offer)
      (selected : offer.2.name ∈ plan.selectedMcpCapabilities)
      (needed : permission ∈ offer.1.requiredPermissions ∪ offer.2.requiredPermissions)

structure Sound (skills : SkillRegistry) (tools : ToolRegistry) (mcp : MCPRegistry)
    (request : CapabilityRoutingRequest) (plan : CapabilityPlan) : Prop where
  skills_authorized : ∀ id ∈ plan.selectedSkillIds, ∃ skill ∈ skills.skills, skill.id = id ∧
    skill.requiredPermissions ⊆ request.availablePermissions
  tools_authorized : ∀ name ∈ plan.selectedToolIds, ∃ tool ∈ tools.tools, tool.name = name ∧
    tool.requiredPermissions ⊆ request.availablePermissions
  capabilities_authorized : ∀ name ∈ plan.selectedMcpCapabilities, ∃ offer,
    Authorized mcp request.availablePermissions offer ∧ offer.2.name = name
  permissions_available : plan.requiredPermissions ⊆ request.availablePermissions
  permissions_exact : ∀ permission, permission ∈ plan.requiredPermissions ↔
    Required skills tools mcp request.availablePermissions plan permission
  tools_selected : ∀ tool ∈ tools.tools, tool.name ∈ request.requestedTools →
    tool.requiredPermissions ⊆ request.availablePermissions → tool.name ∈ plan.selectedToolIds
  capabilities_selected : ∀ offer, Authorized mcp request.availablePermissions offer →
    offer.2.name ∈ request.requestedMcpCapabilities → offer.2.name ∈ plan.selectedMcpCapabilities

section Skills

variable {lower : PyStr → PyStr} {registry : SkillRegistry} {request : SkillSelectionRequest}

theorem mem_definitions {skill : SkillMetadata} :
    skill ∈ registry.definitions ↔ skill ∈ registry.skills :=
  (List.perm_insertionSort _ _).mem_iff

theorem score_skill {skill : SkillMetadata} {found : SkillMatch}
    (scored : score lower skill request = some found) : found.skillId = skill.id := by
  unfold score at scored
  split at scored
  · obtain rfl := Option.some.inj scored
    rfl
  · cases scored

theorem select_authorized {id : Identifier}
    (selected : id ∈ (select lower request registry).map fun found => found.skillId) :
    ∃ skill ∈ registry.skills, skill.id = id ∧
      skill.requiredPermissions ⊆ request.availablePermissions := by
  rcases List.mem_map.mp selected with ⟨found, among, rfl⟩
  have ranked := (List.perm_insertionSort _ _).mem_iff.mp (List.mem_of_mem_take among)
  rcases List.mem_filterMap.mp ranked with ⟨skill, eligible, scored⟩
  rcases List.mem_filter.mp eligible with ⟨listed, authorized⟩
  exact ⟨skill, mem_definitions.mp listed, (score_skill scored).symm, of_decide_eq_true authorized⟩

end Skills

section Tools

variable {tools : ToolRegistry} {request : CapabilityRoutingRequest} {selected : List Identifier}

theorem tool_named {first second : ToolDefinition} (registered : first ∈ tools.tools)
    (among : second ∈ tools.tools) (same : first.name = second.name) : first = second :=
  List.inj_on_of_nodup_map tools.names_unique registered among same

theorem mem_selectTools (chosen : selectTools tools request = .ok selected) {name : Identifier} :
    name ∈ selected ↔ name ∈ request.requestedTools ∧ ∃ tool ∈ tools.tools, tool.name = name ∧
      tool.requiredPermissions ⊆ request.availablePermissions := by
  unfold selectTools at chosen
  split at chosen
  · obtain rfl := Except.ok.inj chosen
    simp only [List.mem_filter, Finset.mem_sort, List.any_eq_true, decide_eq_true_eq]
  · cases chosen

end Tools

section Unions

theorem mem_foldr_union {sets : List (Finset Permission)} {permission : Permission} :
    permission ∈ sets.foldr (· ∪ ·) ∅ ↔ ∃ set ∈ sets, permission ∈ set := by
  induction sets with
  | nil => simp
  | cons head tail ih => simp [ih]

theorem mem_requiredPermissions {skills : SkillRegistry} {tools : ToolRegistry}
    {request : CapabilityRoutingRequest} {skillIds toolIds : List Identifier}
    {permission : Permission} :
    permission ∈ requiredPermissions tools request skills skillIds toolIds ↔
      ((∃ skill ∈ skills.skills, skill.id ∈ skillIds ∧ permission ∈ skill.requiredPermissions) ∨
        ∃ tool ∈ tools.tools, tool.name ∈ toolIds ∧ permission ∈ tool.requiredPermissions) ∧
      permission ∈ request.availablePermissions := by
  unfold requiredPermissions
  rw [Finset.mem_inter, mem_foldr_union]
  apply and_congr_left
  intro _
  simp only [List.mem_append, List.mem_map, List.mem_filter, List.contains_iff_mem, mem_definitions]
  constructor
  · rintro ⟨_, ⟨skill, ⟨registered, chosen⟩, rfl⟩ | ⟨tool, ⟨registered, chosen⟩, rfl⟩, needed⟩
    · exact .inl ⟨skill, registered, chosen, needed⟩
    · exact .inr ⟨tool, registered, chosen, needed⟩
  · rintro (⟨skill, registered, chosen, needed⟩ | ⟨tool, registered, chosen, needed⟩)
    · exact ⟨_, .inl ⟨skill, ⟨registered, chosen⟩, rfl⟩, needed⟩
    · exact ⟨_, .inr ⟨tool, ⟨registered, chosen⟩, rfl⟩, needed⟩

end Unions

section Capabilities

variable {mcp : MCPRegistry} {available : Finset Permission}
  {offer : MCPServerDefinition × MCPCapability}

theorem authorized_offer : Authorized mcp available offer ↔
    offer ∈ mcp.offers ∧ offerNeeds offer ⊆ available := by
  rw [mem_offers, offerNeeds, Finset.union_subset_iff]
  rfl

theorem resolve_authorized {capability : Identifier}
    (resolved : mcp.resolve available capability = .ok offer)
    {other : MCPServerDefinition × MCPCapability} :
    (Authorized mcp available other ∧ other.2.name = capability) ↔ other = offer := by
  have alone := Offers.only_some.mp (resolve_ok.mp resolved)
  have among : other ∈ Offers.candidates offerName offerNeeds mcp.offers capability available ↔
      other = offer := by
    rw [alone, List.mem_singleton]
  rw [Offers.mem_candidates] at among
  rw [← among, authorized_offer]
  constructor
  · rintro ⟨⟨offered, enough⟩, named⟩
    exact ⟨offered, named, enough⟩
  · rintro ⟨offered, named, enough⟩
    exact ⟨⟨offered, enough⟩, named⟩

def Needs (mcp : MCPRegistry) (available : Finset Permission) (capabilities : List Identifier)
    (permission : Permission) : Prop :=
  ∃ offer, Authorized mcp available offer ∧ offer.2.name ∈ capabilities ∧
    permission ∈ offer.1.requiredPermissions ∪ offer.2.requiredPermissions

theorem needs_cons {capability : Identifier}
    (resolved : mcp.resolve available capability = .ok offer)
    {rest : List Identifier} {permission : Permission} :
    Needs mcp available (capability :: rest) permission ↔
      permission ∈ offer.1.requiredPermissions ∪ offer.2.requiredPermissions ∨
        Needs mcp available rest permission := by
  constructor
  · rintro ⟨found, authorized, selected, needed⟩
    rcases List.mem_cons.mp selected with named | selected
    · obtain rfl := (resolve_authorized resolved).mp ⟨authorized, named⟩
      exact .inl needed
    · exact .inr ⟨found, authorized, selected, needed⟩
  · rintro (needed | ⟨found, authorized, selected, needed⟩)
    · obtain ⟨authorized, named⟩ := (resolve_authorized resolved).mpr rfl
      exact ⟨offer, authorized, List.mem_cons.mpr (.inl named), needed⟩
    · exact ⟨found, authorized, List.mem_cons_of_mem _ selected, needed⟩

theorem mem_collected {capabilities : List Identifier} {start required : Finset Permission}
    (ready : capabilities.foldlM (fun required capability => do
        let (server, definition) ← mcp.resolve available capability
        return required ∪ server.requiredPermissions ∪ definition.requiredPermissions) start =
      Except.ok required) :
    (∀ capability ∈ capabilities, ∃ offer, mcp.resolve available capability = .ok offer) ∧
      ∀ permission, permission ∈ required ↔
        permission ∈ start ∨ Needs mcp available capabilities permission := by
  induction capabilities generalizing start with
  | nil =>
      obtain rfl := Except.ok.inj ready
      simp [Needs]
  | cons capability rest ih =>
      rw [List.foldlM_cons] at ready
      cases resolved : mcp.resolve available capability with
      | error e =>
          rw [resolved] at ready
          cases ready
      | ok offer =>
          rw [resolved] at ready
          obtain ⟨resolves, each⟩ := ih ready
          constructor
          · intro other among
            rcases List.mem_cons.mp among with rfl | among
            · exact ⟨offer, resolved⟩
            · exact resolves other among
          · intro permission
            rw [each permission, needs_cons resolved, Finset.union_assoc,
              Finset.mem_union, or_assoc]

theorem mem_mcpPermissions {capabilities : List Identifier} {required : Finset Permission}
    (ready : mcp.requiredPermissions available capabilities = .ok required) :
    (∀ capability ∈ capabilities, ∃ offer, mcp.resolve available capability = .ok offer) ∧
      ∀ permission, permission ∈ required ↔ Needs mcp available capabilities permission := by
  obtain ⟨resolves, each⟩ := mem_collected ready
  exact ⟨resolves, fun permission => (each permission).trans (by simp)⟩

end Capabilities

section Plan

variable {lower : PyStr → PyStr} {skills : SkillRegistry} {tools : ToolRegistry} {mcp : MCPRegistry}
  {request : CapabilityRoutingRequest} {plan_ : CapabilityPlan}

theorem plan_ok (planned : plan lower skills tools mcp request = .ok plan_) :
    ∃ permissions,
      plan_.selectedSkillIds =
        (select lower (skillRequest request) skills).map (fun found => found.skillId) ∧
      selectTools tools request = .ok plan_.selectedToolIds ∧
      plan_.selectedMcpCapabilities = selectedCapabilities request mcp ∧
      mcp.requiredPermissions request.availablePermissions plan_.selectedMcpCapabilities =
        .ok permissions ∧
      plan_.requiredPermissions =
        requiredPermissions tools request skills plan_.selectedSkillIds plan_.selectedToolIds ∪
          permissions := by
  unfold plan at planned
  split at planned
  · cases planned
  · dsimp only at planned
    split at planned
    · cases planned
    · next selected chosen =>
        split at planned
        · cases planned
        · next permissions ready =>
            obtain rfl := Except.ok.inj planned
            exact ⟨permissions, rfl, chosen, rfl, ready, rfl⟩

/-- Every plan that is returned is sound. -/
theorem plan_sound (lower : PyStr → PyStr) (skills : SkillRegistry) (tools : ToolRegistry)
    (mcp : MCPRegistry) (request : CapabilityRoutingRequest) (plan_ : CapabilityPlan)
    (planned : plan lower skills tools mcp request = .ok plan_) :
    Sound skills tools mcp request plan_ := by
  obtain ⟨permissions, ofSkills, chosen, ofMcp, ready, union⟩ := plan_ok planned
  obtain ⟨resolves, needed⟩ := mem_mcpPermissions ready
  have skilled : ∀ id ∈ plan_.selectedSkillIds, ∃ skill ∈ skills.skills, skill.id = id ∧
      skill.requiredPermissions ⊆ request.availablePermissions := by
    intro id selected
    rw [ofSkills] at selected
    exact select_authorized selected
  have tooled : ∀ name ∈ plan_.selectedToolIds, ∃ tool ∈ tools.tools, tool.name = name ∧
      tool.requiredPermissions ⊆ request.availablePermissions :=
    fun name selected => ((mem_selectTools chosen).mp selected).2
  have exact_ : ∀ permission, permission ∈ plan_.requiredPermissions ↔
      Required skills tools mcp request.availablePermissions plan_ permission := by
    intro permission
    rw [union, Finset.mem_union, mem_requiredPermissions, needed]
    constructor
    · rintro (⟨⟨skill, registered, selected, needs⟩ | ⟨tool, registered, selected, needs⟩, _⟩ |
        ⟨offer, authorized, selected, needs⟩)
      · exact .skill skill registered selected needs
      · exact .tool tool registered selected needs
      · exact .capability offer authorized selected needs
    · intro required
      cases required with
      | skill skill registered selected needs =>
          -- the filter keeps the permission, as the skill was eligible
          obtain ⟨eligible, among, same, enough⟩ := skilled _ selected
          obtain rfl := List.inj_on_of_nodup_map skills.ids_unique among registered same
          exact .inl ⟨.inl ⟨_, registered, selected, needs⟩, enough needs⟩
      | tool tool registered selected needs =>
          obtain ⟨eligible, among, same, enough⟩ := tooled _ selected
          obtain rfl := tool_named among registered same
          exact .inl ⟨.inr ⟨_, registered, selected, needs⟩, enough needs⟩
      | capability offer authorized selected needs =>
          exact .inr ⟨offer, authorized, selected, needs⟩
  refine ⟨skilled, tooled, ?_, ?_, exact_, ?_, ?_⟩
  · intro name selected
    obtain ⟨offer, resolved⟩ := resolves name selected
    exact ⟨offer, (resolve_authorized resolved).mpr rfl⟩
  · intro permission required
    rw [union, Finset.mem_union, mem_requiredPermissions, needed] at required
    rcases required with ⟨_, available⟩ | ⟨offer, authorized, _, needs⟩
    · exact available
    · rcases Finset.mem_union.mp needs with needs | needs
      · exact authorized.2.1 needs
      · exact authorized.2.2 needs
  · intro tool registered requested enough
    exact (mem_selectTools chosen).mpr ⟨requested, tool, registered, rfl, enough⟩
  · intro offer authorized requested
    have discovered : offer.2.name ∈ mcp.discover request.availablePermissions := by
      obtain ⟨offered, enough⟩ := authorized_offer.mp authorized
      exact mem_discover.mpr ⟨offer, offered, rfl, enough⟩
    rw [ofMcp]
    exact List.mem_filter.mpr ⟨(Finset.mem_sort _).mpr requested,
      List.contains_iff_mem.mpr discovered⟩

def statusTool : ToolDefinition where
  name := ⟨"git.status", by decide⟩
  requiredPermissions := {.gitRead}
  permissions_valid := by decide

def statusTools : ToolRegistry := ⟨[statusTool], by decide⟩

def readRequest : CapabilityRoutingRequest :=
  { sampleRequest with
    availablePermissions := {.gitRead}
    requestedTools := {statusTool.name}
    sets_few := by decide }

theorem readRequest_planned : ∃ plan_,
    plan id ⟨[], by decide, List.nodup_nil⟩ statusTools sampleRegistry readRequest = .ok plan_ := by
  have valid : (skillRequest readRequest).validate = .ok (skillRequest readRequest) :=
    if_pos (by decide)
  have listed : sampleCapability.name ∈ sampleRegistry.discover {.gitRead} :=
    mem_discover.mpr ⟨(sampleServer ⟨"alpha", by decide⟩ {.gitRead} (by decide),
      sampleCapability), mem_offers.mpr ⟨List.mem_cons_self, rfl, List.mem_singleton_self _⟩, rfl,
      by decide⟩
  have selected : selectedCapabilities readRequest sampleRegistry = [sampleCapability.name] := by
    unfold selectedCapabilities
    dsimp only [readRequest, sampleRequest]
    rw [Finset.sort_singleton, List.filter_cons_of_pos (List.contains_iff_mem.mpr listed),
      List.filter_nil]
  have registered : readRequest.requestedTools ⊆
      (statusTools.tools.map fun tool => tool.name).toFinset := by decide
  cases planned : plan id ⟨[], by decide, List.nodup_nil⟩ statusTools sampleRegistry readRequest
    with
  | ok plan_ => exact ⟨plan_, rfl⟩
  | error e =>
      unfold plan at planned
      rw [valid] at planned
      dsimp only at planned
      split at planned
      · next refused =>
          unfold selectTools at refused
          rw [if_pos registered] at refused
          cases refused
      · split at planned
        · next failed =>
            rw [selected] at failed
            cases failed
        · cases planned

theorem plan_sound_sample : ∃ plan_,
    plan id ⟨[], by decide, List.nodup_nil⟩ statusTools sampleRegistry readRequest = .ok plan_ ∧
      Sound ⟨[], by decide, List.nodup_nil⟩ statusTools sampleRegistry readRequest plan_ := by
  obtain ⟨plan_, planned⟩ := readRequest_planned
  exact ⟨plan_, planned, plan_sound id _ _ _ _ plan_ planned⟩

end Plan

end SynapseOS.CapabilityRouter
