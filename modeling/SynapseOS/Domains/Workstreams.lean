import SynapseOS.Core.Fields
import SynapseOS.Lib.Peeling

/-! Workstreams of a domain decomposition and the check of their dependencies
(`core/domain_decomposition/types.py`). -/

namespace SynapseOS.Domains

open Execution Tools

structure DomainWorkstream where
  id : Identifier
  name : PyStr
  purpose : PyStr
  sourceDomains : List PyStr
  responsibilities : List PyStr
  requiredCapabilities : List Identifier
  dependencies : List Identifier

section Members

-- `str.casefold` of Python
variable (casefold : PyStr → PyStr)

def runs (inside : Nat → Bool) (text : PyStr) : List PyStr :=
  (text.splitOnP fun point => !inside point).filter fun run => !run.isEmpty

/-- `_canonical_workstream_id`: what is no `[a-z0-9]` becomes single hyphens between the runs. -/
def canonicalWorkstreamId (name : PyStr) : PyStr :=
  let identifier :=
    [0x2D].intercalate (runs (fun point => lowerLetter point || digit point) (casefold name))
  (identifier.take 128).rdropWhile fun point => decide (point = 0x2D)

def technicalScopeTerms : List PyStr :=
  [.ofString "component", .ofString "components", .ofString "controller", .ofString "controllers",
    .ofString "endpoint", .ofString "endpoints", .ofString "file", .ofString "files",
    .ofString "page", .ofString "pages"]

def fileSuffixes : List PyStr :=
  [.ofString ".css", .ofString ".html", .ofString ".js", .ofString ".json", .ofString ".jsx",
    .ofString ".md", .ofString ".py", .ofString ".sql", .ofString ".ts", .ofString ".tsx",
    .ofString ".vue", .ofString ".yaml", .ofString ".yml"]

def hasTechnicalGranularity (value : PyStr) : Bool :=
  let normalized := strip (casefold value)
  normalized.contains 0x2F || normalized.contains 0x5C ||
    fileSuffixes.any (fun ending => ending.isSuffixOf normalized) ||
    (runs lowerLetter normalized).any fun term => technicalScopeTerms.contains term

def DomainWorkstream.requireUniqueMembers (workstream : DomainWorkstream) : Except String Unit :=
  let texts (identifiers : List Identifier) := identifiers.map fun identifier =>
    PyStr.ofString identifier.text
  if PyStr.ofString workstream.id.text ≠ canonicalWorkstreamId casefold workstream.name then
    .error "workstream ID must be derived from its canonical name"
  else if (workstream.name :: workstream.purpose :: workstream.responsibilities).any
      (hasTechnicalGranularity casefold) = true then
    .error "workstream must remain at business domain or service granularity"
  else if ∃ values ∈ [workstream.responsibilities, workstream.sourceDomains,
      texts workstream.requiredCapabilities, texts workstream.dependencies],
      ¬ (values.map casefold).Nodup then
    .error "workstream lists must contain unique values"
  else if workstream.id ∈ workstream.dependencies then .error "workstream cannot depend on itself"
  else .ok ()

variable (workstreams : List DomainWorkstream)

def identifiers : List Identifier := workstreams.map fun workstream => workstream.id

def foldedNames : List PyStr := workstreams.map fun workstream => casefold workstream.name

def foldedDomains : List PyStr :=
  (workstreams.flatMap fun workstream => workstream.sourceDomains).map casefold

def dependenciesOf (identifier : Identifier) : Finset Identifier :=
  match workstreams.find? fun workstream => decide (workstream.id = identifier) with
  | some workstream => workstream.dependencies.toFinset
  | none => ∅

def requireValidDependencyGraph : Except String Unit :=
  let known := (identifiers workstreams).toFinset
  if ¬ (identifiers workstreams).Nodup then .error "workstream IDs must be unique"
  else if ¬ (foldedNames casefold workstreams).Nodup then .error "workstream names must be unique"
  else if ∃ workstream ∈ workstreams, ¬ dependenciesOf workstreams workstream.id ⊆ known then
    .error "workstream dependency must reference an existing workstream"
  else if ∃ domain ∈ foldedDomains casefold workstreams, 4 <
    (foldedDomains casefold workstreams).count domain then
    .error "architecture domain is fragmented into too many workstreams"
  else if Peeling.peel (dependenciesOf workstreams) ∅ known = true then .ok ()
  else .error "workstream dependency graph must be acyclic"

structure DomainDecomposition where
  rationale : PyStr
  workstreams : List DomainWorkstream
  workstreams_few : 1 ≤ workstreams.length ∧ workstreams.length ≤ 32
  members : ∀ workstream ∈ workstreams, workstream.requireUniqueMembers casefold = .ok ()
  graph : requireValidDependencyGraph casefold workstreams = .ok ()

end Members

section Graph

variable {casefold : PyStr → PyStr} {workstreams : List DomainWorkstream}

def DependsOn (workstreams : List DomainWorkstream) (first second : Identifier) : Prop :=
  ∃ workstream ∈ workstreams, workstream.id = first ∧ second ∈ workstream.dependencies

def Closed (workstreams : List DomainWorkstream) : Prop :=
  ∀ first second, DependsOn workstreams first second → second ∈ identifiers workstreams

def Acyclic (workstreams : List DomainWorkstream) : Prop :=
  ∀ identifier, ¬ Relation.TransGen (DependsOn workstreams) identifier identifier

def Topological (order : List DomainWorkstream) : Prop :=
  ∀ front workstream back, order = front ++ workstream :: back →
    ∀ dependency ∈ workstream.dependencies, dependency ∈ identifiers front

theorem dependenciesOf_id (unique : (identifiers workstreams).Nodup) {workstream : DomainWorkstream}
    (among : workstream ∈ workstreams) :
    dependenciesOf workstreams workstream.id = workstream.dependencies.toFinset := by
  have found : workstreams.find? (fun other => decide (other.id = workstream.id)) =
      some workstream := by
    induction workstreams with
    | nil => cases among
    | cons head rest ih =>
        obtain ⟨apart, unique⟩ := List.nodup_cons.mp unique
        rcases List.mem_cons.mp among with rfl | later
        · exact List.find?_cons_of_pos (decide_eq_true rfl)
        · have other : head.id ≠ workstream.id := by
            intro same
            apply apart
            exact List.mem_map.mpr ⟨workstream, later, same.symm⟩
          rw [List.find?_cons_of_neg (by simpa using other)]
          exact ih unique later
  unfold dependenciesOf
  rw [found]

theorem needed_iff (unique : (identifiers workstreams).Nodup) {first second : Identifier} :
    Peeling.Needed (dependenciesOf workstreams) second first ↔
    DependsOn workstreams first second := by
  unfold Peeling.Needed
  constructor
  · intro needed
    unfold dependenciesOf at needed
    split at needed
    · next workstream found =>
        have same : workstream.id = first := by simpa using List.find?_some found
        exact ⟨workstream, List.mem_of_find?_eq_some found, same, List.mem_toFinset.mp needed⟩
    · exact (Finset.notMem_empty _ needed).elim
  · rintro ⟨workstream, among, rfl, named⟩
    rw [dependenciesOf_id unique among]
    exact List.mem_toFinset.mpr named

theorem acyclic_iff (unique : (identifiers workstreams).Nodup) :
    Acyclic workstreams ↔ ∀ identifier ∈ (identifiers workstreams).toFinset,
      ¬ Relation.TransGen (Peeling.Needed (dependenciesOf workstreams)) identifier identifier := by
  have turned : Peeling.Needed (dependenciesOf workstreams) = Function.swap
      (DependsOn workstreams) := by
    funext second first
    exact propext (needed_iff unique)
  have cycles :
    ∀ identifier, Relation.TransGen (Peeling.Needed (dependenciesOf workstreams))
      identifier identifier ↔
      Relation.TransGen (DependsOn workstreams) identifier identifier := by
    intro identifier
    rw [turned, Relation.transGen_swap]
  constructor
  · intro acyclic identifier _ cycle
    exact acyclic identifier ((cycles identifier).mp cycle)
  · intro acyclic identifier cycle
    refine acyclic identifier ?_ ((cycles identifier).mpr cycle)
    obtain ⟨_, ⟨workstream, among, rfl, _⟩, _⟩ := Relation.TransGen.head'_iff.mp cycle
    exact List.mem_toFinset.mpr (List.mem_map_of_mem among)

theorem closed_iff (unique : (identifiers workstreams).Nodup) :
    Closed workstreams ↔ ∀ workstream ∈ workstreams,
      dependenciesOf workstreams workstream.id ⊆ (identifiers workstreams).toFinset := by
  constructor
  · intro closed workstream among need needed
    exact List.mem_toFinset.mpr (closed workstream.id need ((needed_iff unique).mp needed))
  · rintro within first second ⟨workstream, among, rfl, named⟩
    refine List.mem_toFinset.mp (within workstream among ?_)
    rw [dependenciesOf_id unique among]
    exact List.mem_toFinset.mpr named

theorem topological_of_ordered (unique : (identifiers workstreams).Nodup) {order : List Identifier}
    (whole : order.Perm (identifiers workstreams))
    (ordered : Peeling.Ordered (dependenciesOf workstreams) ∅ order) :
    ∃ sorted : List DomainWorkstream, sorted.Perm workstreams ∧ Topological sorted := by
  have named : ∀ identifier ∈ order, ∃ workstream ∈ workstreams, workstream.id = identifier := by
    intro identifier among
    exact List.mem_map.mp (whole.mem_iff.mp among)
  obtain ⟨sorted, within, same⟩ : ∃ sorted : List DomainWorkstream,
      (∀ workstream ∈ sorted, workstream ∈ workstreams) ∧ identifiers sorted = order := by
    clear whole ordered
    induction order with
    | nil => exact ⟨[], nofun, rfl⟩
    | cons identifier rest ih =>
        obtain ⟨workstream, among, rfl⟩ := named identifier List.mem_cons_self
        obtain ⟨sorted, within, rfl⟩ := ih fun other later =>
          named other (List.mem_cons_of_mem _ later)
        refine ⟨workstream :: sorted, ?_, rfl⟩
        intro other inside
        rcases List.mem_cons.mp inside with rfl | later
        · exact among
        · exact within other later
  subst same
  refine ⟨sorted, ?_, ?_⟩
  · have few : sorted.length = workstreams.length := by simpa [identifiers] using whole.length_eq
    have distinct : sorted.Nodup := List.Nodup.of_map _ (whole.nodup_iff.mpr unique)
    exact (List.subperm_of_subset distinct within).perm_of_length_le few.ge
  · rintro front workstream back rfl dependency depends
    have split : identifiers (front ++ workstream :: back) =
        identifiers front ++ workstream.id :: identifiers back := by
      unfold identifiers
      rw [List.map_append, List.map_cons]
    rw [split] at ordered
    have own : workstream ∈ workstreams := within workstream (by simp)
    have needed : dependency ∈ dependenciesOf workstreams workstream.id := by
      rw [dependenciesOf_id unique own]
      exact List.mem_toFinset.mpr depends
    exact (Peeling.ordered_before ordered needed).resolve_left (Finset.notMem_empty _)

theorem check_peels (unique : (identifiers workstreams).Nodup)
    (named : (foldedNames casefold workstreams).Nodup)
    (unfragmented : ∀ domain, (foldedDomains casefold workstreams).count domain ≤ 4) :
    requireValidDependencyGraph casefold workstreams = .ok () ↔ Closed workstreams ∧
      Peeling.peel (dependenciesOf workstreams) ∅ (identifiers workstreams).toFinset = true := by
  have whole : ¬ ∃ domain ∈ foldedDomains casefold workstreams,
      4 < (foldedDomains casefold workstreams).count domain := by
    rintro ⟨domain, _, many⟩
    exact absurd (unfragmented domain) (by omega)
  unfold requireValidDependencyGraph
  rw [if_neg (not_not.mpr unique), if_neg (not_not.mpr named), closed_iff unique]
  by_cases closed : ∀ workstream ∈ workstreams,
      dependenciesOf workstreams workstream.id ⊆ (identifiers workstreams).toFinset
  · rw [if_neg (by push Not; exact closed), if_neg whole]
    by_cases peeled :
    Peeling.peel (dependenciesOf workstreams) ∅ (identifiers workstreams).toFinset = true
    · rw [if_pos peeled]
      exact ⟨fun _ => ⟨closed, peeled⟩, fun _ => rfl⟩
    · rw [if_neg peeled]
      exact ⟨nofun, fun both => (peeled both.2).elim⟩
  · rw [if_pos (by push Not at closed; exact closed)]
    exact ⟨nofun, fun both => (closed both.1).elim⟩

/-- A closed graph peels exactly when it has no cycle. -/
theorem peels_acyclic (unique : (identifiers workstreams).Nodup) (closed : Closed workstreams) :
    Peeling.peel (dependenciesOf workstreams) ∅ (identifiers workstreams).toFinset = true ↔
      Acyclic workstreams := by
  rw [acyclic_iff unique]
  apply Peeling.peel_acyclic
  intro identifier among
  obtain ⟨workstream, inside, rfl⟩ := List.mem_map.mp (List.mem_toFinset.mp among)
  exact (closed_iff unique).mp closed workstream inside

theorem accepted_order (accepted : requireValidDependencyGraph casefold workstreams = .ok ()) :
    ∃ order : List DomainWorkstream, order.Perm workstreams ∧ Topological order := by
  unfold requireValidDependencyGraph at accepted
  dsimp only at accepted
  split_ifs at accepted with unique _ _ _ peeled
  obtain ⟨order, distinct, same, ordered⟩ := Peeling.peel_order peeled
  refine topological_of_ordered unique ?_ ordered
  exact List.perm_of_nodup_nodup_toFinset_eq distinct unique same

theorem DomainDecomposition.ordered (decomposition : DomainDecomposition casefold) :
    ∃ order : List DomainWorkstream, order.Perm decomposition.workstreams ∧ Topological order :=
  accepted_order decomposition.graph

/-- The check accepts exactly the dependencies that name workstreams and have no cycle, and then the
workstreams have a topological order. -/
theorem graph_accepted (unique : (identifiers workstreams).Nodup)
    (named : (foldedNames casefold workstreams).Nodup)
    (unfragmented : ∀ domain, (foldedDomains casefold workstreams).count domain ≤ 4) :
    (requireValidDependencyGraph casefold workstreams = .ok () ↔ Closed workstreams ∧
      Acyclic workstreams) ∧
      (requireValidDependencyGraph casefold workstreams = .ok () →
        ∃ order : List DomainWorkstream, order.Perm workstreams ∧ Topological order) := by
  refine ⟨?_, accepted_order⟩
  rw [check_peels unique named unfragmented]
  constructor
  · rintro ⟨closed, peeled⟩
    exact ⟨closed, (peels_acyclic unique closed).mp peeled⟩
  · rintro ⟨closed, acyclic⟩
    exact ⟨closed, (peels_acyclic unique closed).mpr acyclic⟩

end Graph

section Sample

def sampleWorkstream (id : Identifier) (name : PyStr) (dependencies : List Identifier) :
    DomainWorkstream where
  id
  name
  purpose := .ofString "Sells"
  sourceDomains := [name]
  responsibilities := [.ofString "Sells"]
  requiredCapabilities := [id]
  dependencies

def orders : DomainWorkstream :=
  sampleWorkstream ⟨"orders", by decide⟩ (.ofString "orders") []

def billing : DomainWorkstream :=
  sampleWorkstream ⟨"billing", by decide⟩ (.ofString "billing") [orders.id]

/-- Two workstreams of which one needs the other are accepted. -/
theorem graph_accepted_sample :
    requireValidDependencyGraph id [billing, orders] = .ok () ∧
      ∃ order : List DomainWorkstream, order.Perm [billing, orders] ∧ Topological order := by
  have chain : ∀ first second, DependsOn [billing, orders] first second → first = billing.id ∧
      second = orders.id := by
    rintro first second ⟨workstream, among, rfl, named⟩
    simp only [List.mem_cons, List.not_mem_nil, or_false] at among
    rcases among with rfl | rfl
    · exact ⟨rfl, List.mem_singleton.mp named⟩
    · cases named
  have apart : billing.id ≠ orders.id := by decide
  have unique : (identifiers [billing, orders]).Nodup := by decide
  have named : (foldedNames id [billing, orders]).Nodup := by decide
  have unfragmented : ∀ domain, (foldedDomains id [billing, orders]).count domain ≤ 4 := by
    intro domain
    exact List.count_le_length.trans (by decide)
  have accepts := graph_accepted unique named unfragmented
  have accepted : requireValidDependencyGraph id [billing, orders] = .ok () := by
    refine accepts.1.mpr ⟨fun first second depends => ?_, fun identifier cycle => ?_⟩
    · rw [(chain first second depends).2]
      exact List.mem_cons_of_mem _ List.mem_cons_self
    · obtain ⟨next, first, _⟩ := Relation.TransGen.head'_iff.mp cycle
      obtain ⟨before, _, last⟩ := Relation.TransGen.tail'_iff.mp cycle
      exact apart ((chain _ _ first).1.symm.trans (chain _ _ last).2)
  exact ⟨accepted, accepts.2 accepted⟩

end Sample

end SynapseOS.Domains
