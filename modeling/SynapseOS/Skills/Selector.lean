import SynapseOS.Core.Fields
import SynapseOS.Permissions.Types

/-! The ranking of skills (`core/skills/types.py`, `registry.py`, `selector.py`). -/

namespace SynapseOS.Skills

open Execution Tools Permissions

structure SkillMetadata where
  id : Identifier
  name : PyStr
  description : PyStr
  domains : Finset Identifier
  technologies : Finset Identifier
  tags : Finset Identifier
  requiredPermissions : Finset Permission
  texts_valid : (1 ≤ name.length ∧ name.length ≤ 1024) ∧ 1 ≤ description.length ∧
    description.length ≤ 1024
  sets_valid : ∀ items ∈ [domains, technologies, tags], 1 ≤ items.card ∧ items.card ≤ 64
  permissions_valid : requiredPermissions.Nonempty

structure SkillRegistry where
  skills : List SkillMetadata
  skills_few : skills.length ≤ 256
  ids_unique : (skills.map fun skill => skill.id).Nodup

/-- `definitions`, by identifier. -/
def SkillRegistry.definitions (registry : SkillRegistry) : List SkillMetadata :=
  registry.skills.insertionSort fun first second => first.id ≤ second.id

structure SkillSelectionRequest where
  taskDescription : PyStr
  agentRole : PyStr
  domains : Finset Identifier
  technologies : Finset Identifier
  tags : Finset Identifier
  availablePermissions : Finset Permission
  maxResults : Nat

def shortText (text : PyStr) : Bool := decide (1 ≤ text.length ∧ text.length ≤ 1024)

def SkillSelectionRequest.validate (request : SkillSelectionRequest) :
    Except ValidationError SkillSelectionRequest :=
  if (shortText request.taskDescription && shortText request.agentRole &&
    decide (request.domains.card ≤ 64 ∧
      request.technologies.card ≤ 64 ∧ request.tags.card ≤ 64 ∧
      request.availablePermissions.card ≤ 11 ∧
      1 ≤ request.maxResults ∧ request.maxResults ≤ 64)) = true then .ok request
  else .error (.invalid "SkillSelectionRequest")

inductive SkillSelectionReason
  | domain
  | technology
  | tag
  | taskDescription
  | agentRole
  deriving DecidableEq, Repr

def SkillSelectionReason.value : SkillSelectionReason → String
  | .domain => "DOMAIN"
  | .technology => "TECHNOLOGY"
  | .tag => "TAG"
  | .taskDescription => "TASK_DESCRIPTION"
  | .agentRole => "AGENT_ROLE"

structure SkillMatch where
  skillId : Identifier
  score : Nat
  reasons : List SkillSelectionReason
  score_positive : 0 < score
  reasons_valid : 1 ≤ reasons.length ∧ reasons.length ≤ 5 ∧ reasons.Nodup

section Scoring

-- `str.lower` of Python
variable (lower : PyStr → PyStr)

/-- `_TOKEN_PATTERN.findall(value.lower())`: the longest runs of `[a-z0-9]`. -/
def tokens (value : PyStr) : Finset PyStr :=
  (((lower value).splitOnP fun point => !(lowerLetter point || digit point)).filter
    fun run => decide (run ≠ [])).toFinset

def metadataTokens (metadata : SkillMetadata) : Finset PyStr :=
  let identifierTokens (identifier : Identifier) := tokens lower (.ofString identifier.text)
  identifierTokens metadata.id ∪ tokens lower metadata.name ∪ tokens lower metadata.description ∪
    metadata.domains.biUnion identifierTokens ∪ metadata.technologies.biUnion identifierTokens ∪
    metadata.tags.biUnion identifierTokens

def scored (metadata : SkillMetadata) (request : SkillSelectionRequest) :
    List (SkillSelectionReason × Nat) :=
  let domainMatches := (metadata.domains ∩ request.domains).card
  let technologyMatches := (metadata.technologies ∩ request.technologies).card
  let tagMatches := (metadata.tags ∩ request.tags).card
  let known := metadataTokens lower metadata
  itemIf (decide (domainMatches ≠ 0)) (.domain, 8 * domainMatches) ++
    itemIf (decide (technologyMatches ≠ 0)) (.technology, 6 * technologyMatches) ++
    itemIf (decide (tagMatches ≠ 0)) (.tag, 4 * tagMatches) ++
    itemIf (decide ((known ∩ tokens lower request.taskDescription).Nonempty))
    (.taskDescription, 3) ++
    itemIf (decide ((known ∩ tokens lower request.agentRole).Nonempty)) (.agentRole, 2)

variable {lower : PyStr → PyStr} {metadata : SkillMetadata} {request : SkillSelectionRequest}

theorem itemIf_map {α β : Type} {condition : Bool} {item : α} {f : α → β} :
    (itemIf condition item).map f = itemIf condition (f item) := by
  cases condition <;> rfl

theorem scored_reasons : ((scored lower metadata request).map Prod.fst).Sublist
    [.domain, .technology, .tag, .taskDescription, .agentRole] := by
  simp only [scored, List.map_append, itemIf_map]
  exact (((itemIf_sublist.append itemIf_sublist).append itemIf_sublist).append
    itemIf_sublist).append itemIf_sublist

theorem scored_positive : ∀ factor ∈ scored lower metadata request, 0 < factor.2 := by
  intro factor among
  simp only [scored, itemIf, List.mem_append] at among
  rcases among with (((among | among) | among) | among) | among
  all_goals
    split at among
    · next present =>
        rw [List.mem_singleton.mp among]
        simp only [decide_eq_true_eq] at present
        omega
    · cases among

theorem match_valid (matched : scored lower metadata request ≠ []) :
    let reasons := ((scored lower metadata request).map Prod.fst).insertionSort fun first second =>
      first.value ≤ second.value
    0 < ((scored lower metadata request).map Prod.snd).sum ∧ 1 ≤ reasons.length ∧
    reasons.length ≤ 5 ∧
      reasons.Nodup := by
  have sorted :=
    List.perm_insertionSort (fun first second : SkillSelectionReason => first.value ≤ second.value)
    ((scored lower metadata request).map Prod.fst)
  have some_ : 0 < (scored lower metadata request).length := List.length_pos_iff.mpr matched
  refine ⟨?_, ?_, ?_, ?_⟩
  · obtain ⟨factor, among⟩ := List.exists_mem_of_ne_nil _ matched
    have part := List.single_le_sum (l := (scored lower metadata request).map Prod.snd)
      (fun _ _ => Nat.zero_le _) factor.2 (List.mem_map_of_mem among)
    have positive := scored_positive factor among
    omega
  · rw [sorted.length_eq, List.length_map]
    exact some_
  · rw [sorted.length_eq]
    exact scored_reasons.length_le
  · rw [sorted.nodup_iff]
    exact scored_reasons.nodup (by decide)

variable (lower : PyStr → PyStr) (metadata : SkillMetadata) (request : SkillSelectionRequest)

def score : Option SkillMatch :=
  if matched : scored lower metadata request ≠ [] then
    some {
      skillId := metadata.id
      score := ((scored lower metadata request).map Prod.snd).sum
      reasons := ((scored lower metadata request).map Prod.fst).insertionSort fun first second =>
        first.value ≤ second.value
      score_positive := (match_valid matched).1
      reasons_valid := (match_valid matched).2 }
  else none

def select (registry : SkillRegistry) : List SkillMatch :=
  let eligible := registry.definitions.filter fun skill =>
    decide (skill.requiredPermissions ⊆ request.availablePermissions)
  let ranked :=
    (eligible.filterMap fun skill => score lower skill request).insertionSort fun first second =>
    second.score < first.score ∨ (second.score = first.score ∧ first.skillId ≤ second.skillId)
  ranked.take request.maxResults

theorem select_few (registry : SkillRegistry) :
    (select lower request registry).length ≤ request.maxResults :=
  List.length_take_le _ _

end Scoring

end SynapseOS.Skills
