import Mathlib.Data.List.Nodup
import Mathlib.Data.List.ProdSigma
import SynapseOS.Permissions.Types

/-! The stored authority behind a permission (`infrastructure/permissions/policy.py`). -/

namespace SynapseOS.Permissions

open Tools

namespace PermissionStore

/-- `autonomy_level BETWEEN 0 AND 5`. -/
abbrev AutonomyLevel := Fin 6

structure Agent where
  id : UUID
  slug : String
  autonomyLevel : AutonomyLevel

structure AgentRun where
  id : UUID
  agentId : UUID
  taskId : UUID

structure Task where
  id : UUID
  projectId : UUID
  assignedAgentId : Option UUID

/-- A grant; the rows need not be unique for an agent, a project and a permission. -/
structure AgentPermission where
  agentId : UUID
  permission : Permission
  projectId : Option UUID
  revokedAt : Option ℚ
  expiresAt : Option ℚ

end PermissionStore

structure PermissionStore where
  agents : List PermissionStore.Agent
  runs : List PermissionStore.AgentRun
  tasks : List PermissionStore.Task
  permissions : List PermissionStore.AgentPermission
  unique_slugs : (agents.map fun agent => agent.slug).Nodup

def minimumAutonomy : Permission → Nat
  | .filesystemRead => 0
  | .filesystemWrite => 1
  | .gitRead => 0
  | .gitWrite => 2
  | .shellExecute => 3
  | .testsExecute => 1
  | .networkAccess => 3
  | .databaseRead => 0
  | .databaseWrite => 3
  | .deploymentStaging => 3
  | .deploymentProduction => 4

/-- `_MINIMUM_RISK_AUTONOMY`, which has no critical entry. -/
def minimumRiskAutonomy : ToolRiskLevel → Option Nat
  | .low => some 0
  | .medium => some 1
  | .high => some 2
  | .critical => none

def PolicyRequest.permissionTuple (request : PolicyRequest) : List Permission :=
  sortPermissions (allPermissions.filter fun permission =>
    decide (permission ∈ request.requiredPermissions))

theorem permissionTuple_bound (request : PolicyRequest) : request.permissionTuple.length ≤ 11 := by
  unfold PolicyRequest.permissionTuple sortPermissions
  rw [List.length_mergeSort]
  exact List.length_filter_le _ _

def policyDecision (request : PolicyRequest) (evaluatedAt : ℚ) (outcome : PermissionOutcome)
    (reasonCode : PermissionReasonCode) (safeMessage : String)
    (bounds : 1 ≤ safeMessage.length ∧ safeMessage.length ≤ 255)
    (consistent : outcome.explains reasonCode = true) : PermissionDecision where
  agentId := request.agentId
  agentRunId := request.agentRunId
  projectId := request.projectId
  taskId := request.taskId
  toolName := request.toolName
  outcome := outcome
  requiredPermissions := request.permissionTuple
  reasonCode := reasonCode
  safeMessage := safeMessage
  correlationId := request.correlationId
  evaluatedAt := evaluatedAt
  permission_bounds := permissionTuple_bound request
  message_bounds := bounds
  consistent := consistent

namespace PermissionStore

variable (store : PermissionStore) (request : PolicyRequest) (evaluatedAt : ℚ)

def joined (request : PolicyRequest) (row : Agent × AgentRun × Task) : Bool :=
  decide (row.2.1.agentId = row.1.id ∧ row.2.2.id = row.2.1.taskId ∧
    row.2.1.id = request.agentRunId ∧ row.1.slug = request.agentId.text ∧
    row.2.1.taskId = request.taskId ∧ row.2.2.id = request.taskId ∧
    row.2.2.projectId = request.projectId ∧ row.2.2.assignedAgentId = some row.1.id)

def autonomyLevel : Option AutonomyLevel :=
  (((store.agents.product (store.runs.product store.tasks)).filter (joined request)).map
    fun row => row.1.autonomyLevel).head?

def AgentPermission.active (grant : AgentPermission) (projectId : UUID) (instant : ℚ) : Bool :=
  decide ((grant.projectId = none ∨ grant.projectId = some projectId) ∧ grant.revokedAt = none ∧
    ∀ expiresAt ∈ grant.expiresAt, instant < expiresAt)

/-- A grant no longer holds at the time at which it expires. -/
example : AgentPermission.active ⟨1, .gitRead, none, none, some 5⟩ 2 5 = false := by decide

def granted : List Permission :=
  (store.permissions.filter fun grant =>
    decide ((store.agents.find? fun agent => decide (agent.slug = request.agentId.text)).map
        (fun agent => agent.id) = some grant.agentId) &&
      decide (grant.permission ∈ request.requiredPermissions) &&
      grant.active request.projectId evaluatedAt).map fun grant => grant.permission

end PermissionStore

/-- The session of a policy: its rows, and what a read of them raises. -/
structure PolicySession where
  store : PermissionStore
  scalarRaises : Option PyExn
  scalarsRaises : Option PyExn

/-- A read inside the `try` of `evaluate`. -/
def readAuthority {α : Type} (raises : Option PyExn) (value : α) : Except PyExn α :=
  match raises with
  | none => .ok value
  | some e => .error (sanitize e (.permission .policy))

def approve (request : PolicyRequest) (evaluatedAt : ℚ) (level : PermissionStore.AutonomyLevel)
    (granted : List Permission) : Except PyExn PermissionDecision :=
  if ¬ request.requiredPermissions ⊆ granted.toFinset then
    .ok (policyDecision request evaluatedAt .deny .missingPermission
      "A required permission is not granted." (by decide) rfl)
  else if Permission.deploymentProduction ∈ request.requiredPermissions then
    .ok (policyDecision request evaluatedAt .ask .humanApprovalRequired
      "Human approval is required." (by decide) rfl)
  else if request.riskLevel = .critical then
    .ok (policyDecision request evaluatedAt .ask .humanApprovalRequired
      "Human approval is required." (by decide) rfl)
  else if ∃ permission ∈ request.requiredPermissions, level.val < minimumAutonomy permission then
    .ok (policyDecision request evaluatedAt .ask .autonomyApprovalRequired
      "Additional approval is required for this autonomy level." (by decide) rfl)
  else
    match minimumRiskAutonomy request.riskLevel with
    | none => .error .otherError
    | some minimum =>
        if level.val < minimum then
          .ok (policyDecision request evaluatedAt .ask .autonomyApprovalRequired
            "Additional approval is required for this autonomy level." (by decide) rfl)
        else
          .ok (policyDecision request evaluatedAt .allow .granted "Permission granted."
            (by decide) rfl)

/-- `SQLAlchemyPermissionPolicy.evaluate`; a naive time is `none`. -/
def PolicySession.evaluate (session : PolicySession) (request : PolicyRequest)
    (evaluatedAt : Option ℚ) : Except PyExn PermissionDecision :=
  match evaluatedAt with
  | none => .error (.permission .policy)
  | some evaluatedAt => do
      match ← readAuthority session.scalarRaises (session.store.autonomyLevel request) with
      | none =>
          pure (policyDecision request evaluatedAt .deny .invalidScope
            "Permission scope is invalid." (by decide) rfl)
      | some level =>
          let granted ← readAuthority session.scalarsRaises (session.store.granted
            request evaluatedAt)
          approve request evaluatedAt level granted

def PermissionStore.session (store : PermissionStore) : PolicySession := ⟨store, none, none⟩

namespace PermissionStore

def Allows (store : PermissionStore) (request : PolicyRequest) (evaluatedAt : ℚ) : Prop :=
  ∃ decision, store.session.evaluate request (some evaluatedAt) = .ok decision ∧
    decision.outcome = .allow

structure Consistent (store : PermissionStore) (request : PolicyRequest) (agent : Agent) :
    Prop where
  agent_stored : agent ∈ store.agents
  slug : agent.slug = request.agentId.text
  run : ∃ run ∈ store.runs, run.id = request.agentRunId ∧ run.agentId = agent.id ∧
    run.taskId = request.taskId
  task : ∃ task ∈ store.tasks, task.id = request.taskId ∧ task.projectId = request.projectId ∧
    task.assignedAgentId = some agent.id

def Granted (store : PermissionStore) (agent : Agent) (projectId : UUID) (instant : ℚ)
    (permission : Permission) : Prop :=
  ∃ grant ∈ store.permissions, grant.agentId = agent.id ∧ grant.permission = permission ∧
    grant.active projectId instant = true

/-- What has to hold for a request to be allowed. -/
structure Authorized (store : PermissionStore) (request : PolicyRequest) (instant : ℚ)
    (agent : Agent) : Prop where
  consistent : Consistent store request agent
  granted : ∀ permission ∈ request.requiredPermissions,
    Granted store agent request.projectId instant permission
  unproductive : .deploymentProduction ∉ request.requiredPermissions
  uncritical : request.riskLevel ≠ .critical
  trusted : ∀ permission ∈ request.requiredPermissions,
    minimumAutonomy permission ≤ agent.autonomyLevel
  daring : ∀ minimum ∈ minimumRiskAutonomy request.riskLevel, minimum ≤ agent.autonomyLevel.val

variable {store : PermissionStore} {request : PolicyRequest} {instant : ℚ}

theorem joined_iff {agent : Agent} {run : AgentRun} {task : Task} :
    joined request (agent, run, task) = true ↔
      agent.slug = request.agentId.text ∧
        (run.id = request.agentRunId ∧ run.agentId = agent.id ∧ run.taskId = request.taskId) ∧
        task.id = request.taskId ∧ task.projectId = request.projectId ∧
        task.assignedAgentId = some agent.id := by
  simp only [joined, decide_eq_true_eq]
  constructor
  · rintro ⟨ofAgent, _, run_, slug, ofTask, task_, project, assigned⟩
    exact ⟨slug, ⟨run_, ofAgent, ofTask⟩, task_, project, assigned⟩
  · rintro ⟨slug, ⟨run_, ofAgent, ofTask⟩, task_, project, assigned⟩
    exact ⟨ofAgent, task_.trans ofTask.symm, run_, slug, ofTask, task_, project, assigned⟩

theorem slug_agent {first second : Agent} (stored : first ∈ store.agents)
    (among : second ∈ store.agents) (same : first.slug = second.slug) : first = second :=
  List.inj_on_of_nodup_map store.unique_slugs stored among same

theorem mem_joins {agent : Agent} {run : AgentRun} {task : Task} :
    (agent, run, task) ∈ (store.agents.product (store.runs.product store.tasks)).filter
        (joined request) ↔
      (agent ∈ store.agents ∧ run ∈ store.runs ∧ task ∈ store.tasks) ∧
        joined request (agent, run, task) = true := by
  rw [List.mem_filter]
  exact and_congr_left fun _ => List.mem_product.trans (and_congr_right fun _ => List.mem_product)

theorem autonomyLevel_some {level : AutonomyLevel} :
    store.autonomyLevel request = some level ↔
      ∃ agent, Consistent store request agent ∧ agent.autonomyLevel = level := by
  unfold autonomyLevel
  constructor
  · intro read
    have among := List.mem_of_mem_head? (Option.mem_def.mpr read)
    rcases List.mem_map.mp among with ⟨⟨agent, run, task⟩, row, rfl⟩
    rw [mem_joins] at row
    rcases row with ⟨⟨stored, running, tasked⟩, joined⟩
    rw [joined_iff] at joined
    rcases joined with ⟨slug, ofRun, ofTask⟩
    exact ⟨agent, ⟨stored, slug, ⟨run, running, ofRun⟩, ⟨task, tasked, ofTask⟩⟩, rfl⟩
  · rintro ⟨agent, ⟨stored, slug, ⟨run, running, ofRun⟩, ⟨task, tasked, ofTask⟩⟩, rfl⟩
    have row := mem_joins.mpr ⟨⟨stored, running, tasked⟩, joined_iff.mpr ⟨slug, ofRun, ofTask⟩⟩
    cases found : (store.agents.product (store.runs.product store.tasks)).filter (joined request)
      with
    | nil =>
        rw [found] at row
        cases row
    | cons first rest =>
        obtain ⟨other, otherRun, otherTask⟩ := first
        have firstRow : (other, otherRun, otherTask) ∈
            (store.agents.product (store.runs.product store.tasks)).filter (joined request) := by
          rw [found]
          exact List.mem_cons_self
        rcases mem_joins.mp firstRow with ⟨⟨otherStored, _⟩, otherJoined⟩
        have same := slug_agent otherStored stored ((joined_iff.mp otherJoined).1.trans slug.symm)
        rw [← same]
        rfl

theorem autonomyLevel_none :
    store.autonomyLevel request = none ↔ ∀ agent, ¬Consistent store request agent := by
  rw [Option.eq_none_iff_forall_ne_some]
  constructor
  · intro unread agent consistent
    refine unread agent.autonomyLevel ?_
    rw [autonomyLevel_some]
    exact ⟨agent, consistent, rfl⟩
  · intro inconsistent level read
    rw [autonomyLevel_some] at read
    rcases read with ⟨agent, consistent, _⟩
    exact inconsistent agent consistent

theorem agent_found {agent : Agent} (consistent : Consistent store request agent) :
    store.agents.find? (fun other => decide (other.slug = request.agentId.text)) = some agent := by
  cases found : store.agents.find? (fun other => decide (other.slug = request.agentId.text)) with
  | none =>
      have absent := List.find?_eq_none.mp found agent consistent.agent_stored
      exact absurd consistent.slug (by simpa using absent)
  | some other =>
      have slug : other.slug = request.agentId.text := by simpa using List.find?_some found
      rw [slug_agent (List.mem_of_find?_eq_some found) consistent.agent_stored
        (slug.trans consistent.slug.symm)]

theorem mem_granted {agent : Agent} (consistent : Consistent store request agent)
    {permission : Permission} :
    permission ∈ store.granted request instant ↔
      permission ∈ request.requiredPermissions ∧
        Granted store agent request.projectId instant permission := by
  unfold granted Granted
  rw [agent_found consistent, List.mem_map]
  simp only [List.mem_filter, Option.map_some, Bool.and_eq_true, decide_eq_true_eq,
    Option.some.injEq]
  constructor
  · rintro ⟨grant, ⟨stored, ⟨ofAgent, required⟩, active⟩, rfl⟩
    exact ⟨required, grant, stored, ofAgent.symm, rfl, active⟩
  · rintro ⟨required, grant, stored, ofAgent, rfl, active⟩
    exact ⟨grant, ⟨stored, ⟨ofAgent.symm, required⟩, active⟩, rfl⟩

/-- The answer allows exactly when every gate lets the request through. -/
theorem approve_allows {level : AutonomyLevel} {granted : List Permission} :
    (∃ decision, approve request instant level granted = .ok decision ∧ decision.outcome = .allow) ↔
      request.requiredPermissions ⊆ granted.toFinset ∧
        Permission.deploymentProduction ∉ request.requiredPermissions ∧
        request.riskLevel ≠ .critical ∧
        (∀ permission ∈ request.requiredPermissions, minimumAutonomy permission ≤ level) ∧
        ∀ minimum ∈ minimumRiskAutonomy request.riskLevel, minimum ≤ level.val := by
  unfold approve
  by_cases covered : request.requiredPermissions ⊆ granted.toFinset
  · rw [if_neg (not_not.mpr covered)]
    by_cases productive : Permission.deploymentProduction ∈ request.requiredPermissions
    · rw [if_pos productive]
      simp [productive, policyDecision]
    · rw [if_neg productive]
      by_cases critical : request.riskLevel = .critical
      · rw [if_pos critical]
        simp [critical, policyDecision]
      · rw [if_neg critical]
        by_cases distrusted : ∃ permission ∈ request.requiredPermissions,
            level.val < minimumAutonomy permission
        · rw [if_pos distrusted]
          rcases distrusted with ⟨permission, required, short⟩
          constructor
          · rintro ⟨decision, same, allows⟩
            obtain rfl := Except.ok.inj same
            cases allows
          · rintro ⟨_, _, _, trusted, _⟩
            exact absurd (trusted permission required) (by omega)
        · rw [if_neg distrusted]
          have trusted : ∀ permission ∈ request.requiredPermissions,
              minimumAutonomy permission ≤ level := by
            intro permission required
            exact not_lt.mp fun short => distrusted ⟨permission, required, short⟩
          cases risk : request.riskLevel with
          | critical => exact absurd risk critical
          | low | medium | high =>
              simp only [minimumRiskAutonomy]
              split_ifs with short
              · simp [policyDecision, covered, productive, Nat.not_le.mpr short]
              · simp [policyDecision, covered, productive, Nat.not_lt.mp short]
                exact trusted
  · rw [if_pos covered]
    simp [covered, policyDecision]

theorem session_evaluate (store : PermissionStore) (request : PolicyRequest) (instant : ℚ) :
    store.session.evaluate request (some instant) =
      match store.autonomyLevel request with
      | none =>
          .ok (policyDecision request instant .deny .invalidScope "Permission scope is invalid."
          (by decide) rfl)
      | some level => approve request instant level (store.granted request instant) := by
  cases level : store.autonomyLevel request <;>
    simp [PolicySession.evaluate, session, readAuthority, level] <;> rfl

theorem allows_iff :
    Allows store request instant ↔ ∃ agent, Authorized store request instant agent := by
  unfold Allows
  rw [session_evaluate]
  cases level : store.autonomyLevel request with
  | none =>
      rw [autonomyLevel_none] at level
      constructor
      · rintro ⟨decision, same, allows⟩
        obtain rfl := Except.ok.inj same
        cases allows
      · rintro ⟨agent, authorized⟩
        exact absurd authorized.consistent (level agent)
  | some level =>
      rw [autonomyLevel_some] at level
      obtain ⟨agent, consistent, rfl⟩ := level
      have covered : request.requiredPermissions ⊆ (store.granted request instant).toFinset ↔
          ∀ permission ∈ request.requiredPermissions,
            Granted store agent request.projectId instant permission := by
        constructor
        · intro within permission required
          exact ((mem_granted consistent).mp (List.mem_toFinset.mp (within required))).2
        · intro granted permission required
          exact List.mem_toFinset.mpr ((mem_granted consistent).mpr ⟨required, granted _ required⟩)
      simp only [approve_allows, covered]
      constructor
      · rintro ⟨granted, unproductive, uncritical, trusted, daring⟩
        exact ⟨agent, consistent, granted, unproductive, uncritical, trusted, daring⟩
      · rintro ⟨other, authorized⟩
        have same := slug_agent authorized.consistent.agent_stored consistent.agent_stored
          (authorized.consistent.slug.trans consistent.slug.symm)
        rw [← same]
        exact ⟨authorized.granted, authorized.unproductive, authorized.uncritical,
          authorized.trusted, authorized.daring⟩

section Changes

def grant (store : PermissionStore) (row : AgentPermission) : PermissionStore :=
  { store with permissions := row :: store.permissions }

def alter (store : PermissionStore) (change : AgentPermission → AgentPermission) :
    PermissionStore :=
  { store with permissions := store.permissions.map change }

def revoke (store : PermissionStore) (chosen : AgentPermission → Bool) (revokedAt : ℚ) :
    PermissionStore :=
  store.alter fun row => if chosen row = true then { row with revokedAt := some revokedAt } else row

def expire (store : PermissionStore) (chosen : AgentPermission → Bool) (expiresAt : ℚ) :
    PermissionStore :=
  store.alter fun row =>
    if chosen row = true
      then { row with expiresAt := some (row.expiresAt.elim expiresAt (min expiresAt)) }
    else row

def raiseAutonomy (store : PermissionStore) (chosen : Agent → Bool) (level : AutonomyLevel) :
    PermissionStore where
  agents := store.agents.map fun agent =>
    { agent with autonomyLevel := if chosen agent = true then max agent.autonomyLevel level
        else agent.autonomyLevel }
  runs := store.runs
  tasks := store.tasks
  permissions := store.permissions
  unique_slugs := by
    rw [List.map_map]
    exact store.unique_slugs

end Changes

end PermissionStore

def PolicyRequest.require (request : PolicyRequest) (permission : Permission) : PolicyRequest :=
  { request with
    requiredPermissions := insert permission request.requiredPermissions
    nonempty := Finset.insert_nonempty _ _ }

namespace PermissionStore

variable {store : PermissionStore} {request : PolicyRequest} {instant : ℚ}

theorem allows_grant (row : AgentPermission) (allows : Allows store request instant) :
    Allows (store.grant row) request instant := by
  rw [allows_iff] at allows ⊢
  rcases allows with ⟨agent, authorized⟩
  refine ⟨agent, ⟨?_, ?_, authorized.unproductive, authorized.uncritical, authorized.trusted,
    authorized.daring⟩⟩
  · exact ⟨authorized.consistent.agent_stored, authorized.consistent.slug,
      authorized.consistent.run, authorized.consistent.task⟩
  · intro permission required
    rcases authorized.granted permission required with ⟨held, stored, active⟩
    exact ⟨held, List.mem_cons_of_mem row stored, active⟩

theorem allows_raise (chosen : Agent → Bool) (level : AutonomyLevel)
    (allows : Allows store request instant) :
    Allows (store.raiseAutonomy chosen level) request instant := by
  rw [allows_iff] at allows ⊢
  rcases allows with ⟨agent, authorized⟩
  have raised : agent.autonomyLevel ≤
      (if chosen agent = true then max agent.autonomyLevel level else agent.autonomyLevel) := by
    split_ifs
    · exact le_max_left _ _
    · exact le_rfl
  refine ⟨_, ⟨⟨List.mem_map_of_mem authorized.consistent.agent_stored,
    authorized.consistent.slug, authorized.consistent.run, authorized.consistent.task⟩,
    authorized.granted, authorized.unproductive, authorized.uncritical, ?_, ?_⟩⟩
  · intro permission required
    exact (authorized.trusted permission required).trans raised
  · intro minimum least
    exact (authorized.daring minimum least).trans raised

theorem allows_altered {change : AgentPermission → AgentPermission}
    (owner : ∀ row, (change row).agentId = row.agentId)
    (subject_ : ∀ row, (change row).permission = row.permission)
    (weaker : ∀ row projectId, (change row).active projectId instant = true →
      row.active projectId instant = true)
    (allows : Allows (store.alter change) request instant) : Allows store request instant := by
  rw [allows_iff] at allows ⊢
  rcases allows with ⟨agent, authorized⟩
  refine ⟨agent, ⟨⟨authorized.consistent.agent_stored, authorized.consistent.slug,
    authorized.consistent.run, authorized.consistent.task⟩, ?_, authorized.unproductive,
    authorized.uncritical, authorized.trusted, authorized.daring⟩⟩
  intro permission required
  rcases authorized.granted permission required with ⟨changed, stored, ofAgent, named, active⟩
  rcases List.mem_map.mp stored with ⟨row, held, rfl⟩
  exact ⟨row, held, (owner row).symm.trans ofAgent, (subject_ row).symm.trans named,
    weaker row _ active⟩

theorem allows_revoked {chosen : AgentPermission → Bool} {revokedAt : ℚ}
    (allows : Allows (store.revoke chosen revokedAt) request instant) :
    Allows store request instant := by
  apply allows_altered _ _ _ allows
  · intro row
    split_ifs <;> rfl
  · intro row
    split_ifs <;> rfl
  · intro row projectId active
    split_ifs at active with revoked
    · simp [AgentPermission.active] at active
    · exact active

theorem allows_expired {chosen : AgentPermission → Bool} {expiresAt : ℚ}
    (allows : Allows (store.expire chosen expiresAt) request instant) :
    Allows store request instant := by
  apply allows_altered _ _ _ allows
  · intro row
    split_ifs <;> rfl
  · intro row
    split_ifs <;> rfl
  · intro row projectId active
    split_ifs at active with expired
    · simp only [AgentPermission.active, decide_eq_true_eq] at active ⊢
      refine ⟨active.1, active.2.1, ?_⟩
      intro earlier expires
      have before := active.2.2 _ rfl
      rw [Option.mem_def.mp expires] at before
      exact before.trans_le (min_le_right _ _)
    · exact active

theorem allows_earlier {later : ℚ} (order : instant ≤ later) (allows : Allows store request later) :
    Allows store request instant := by
  rw [allows_iff] at allows ⊢
  rcases allows with ⟨agent, authorized⟩
  refine ⟨agent, ⟨authorized.consistent, ?_, authorized.unproductive, authorized.uncritical,
    authorized.trusted, authorized.daring⟩⟩
  intro permission required
  rcases authorized.granted permission required with ⟨row, stored, ofAgent, named, active⟩
  refine ⟨row, stored, ofAgent, named, ?_⟩
  simp only [AgentPermission.active, decide_eq_true_eq] at active ⊢
  exact ⟨active.1, active.2.1, fun expiresAt expires => order.trans_lt (active.2.2 _ expires)⟩

theorem allows_fewer {permission : Permission}
    (allows : Allows store (request.require permission) instant) :
    Allows store request instant := by
  rw [allows_iff] at allows ⊢
  rcases allows with ⟨agent, authorized⟩
  have more : ∀ other ∈ request.requiredPermissions,
      other ∈ (request.require permission).requiredPermissions :=
    fun other required => Finset.mem_insert_of_mem required
  exact ⟨agent, ⟨⟨authorized.consistent.agent_stored, authorized.consistent.slug,
    authorized.consistent.run, authorized.consistent.task⟩,
    fun other required => authorized.granted other (more other required),
    fun production => authorized.unproductive (more _ production), authorized.uncritical,
    fun other required => authorized.trusted other (more other required), authorized.daring⟩⟩

/-- A request is allowed exactly when it is authorized. More grants and more autonomy keep it
allowed; revoked or expired grants and further required permissions allow nothing new. -/
theorem policy_allows (store : PermissionStore) (request : PolicyRequest) (instant : ℚ) :
    (Allows store request instant ↔ ∃ agent, Authorized store request instant agent) ∧
      (∀ row, Allows store request instant → Allows (store.grant row) request instant) ∧
      (∀ chosen level, Allows store request instant →
        Allows (store.raiseAutonomy chosen level) request instant) ∧
      (∀ chosen revokedAt, Allows (store.revoke chosen revokedAt) request instant →
        Allows store request instant) ∧
      (∀ chosen expiresAt, Allows (store.expire chosen expiresAt) request instant →
        Allows store request instant) ∧
      (∀ later, instant ≤ later → Allows store request later → Allows store request instant) ∧
      ∀ permission, Allows store (request.require permission) instant →
        Allows store request instant :=
  ⟨allows_iff, fun row => allows_grant row, fun chosen level => allows_raise chosen level,
    fun _ _ => allows_revoked, fun _ _ => allows_expired, fun _ => allows_earlier,
    fun _ => allows_fewer⟩

end PermissionStore

end SynapseOS.Permissions
