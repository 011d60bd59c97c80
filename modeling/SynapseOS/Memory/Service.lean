import Mathlib.Data.Finset.Sort
import Mathlib.Data.List.Lex
import SynapseOS.Core.Text
import SynapseOS.Execution.Json
import SynapseOS.Lib.Transition
import SynapseOS.Queue.Types

/-! The memory service (`infrastructure/memory/service.py`, `database/repositories/memory.py`), with
its calls in sessions of their own. -/

namespace SynapseOS.Memory

open Execution Transition

inductive MemoryScope
  | agent
  | project
  | company
  deriving DecidableEq, Repr

inductive MemoryType
  | general
  | decision
  | failure
  deriving DecidableEq, Repr

structure MemoryEntry where
  id : UUID
  createdAt : Nat
  scope : MemoryScope
  memoryType : MemoryType
  title : PyStr
  content : PyStr
  source : PyStr
  projectId : Option UUID
  agentId : Option UUID
  tags : List PyStr
  confidence : Option ℚ
  supersededById : Option UUID
  deriving DecidableEq

structure CreateRequest where
  scope : MemoryScope
  memoryType : MemoryType
  title : PyStr
  content : PyStr
  source : PyStr
  projectId : Option UUID
  agentId : Option UUID
  tags : List PyStr
  confidence : Option ℚ

structure ValueError where
  message : String
  deriving DecidableEq

def validateScope (scope : MemoryScope) (projectId agentId : Option UUID) :
    Except ValueError Unit :=
  match scope with
  | .agent => if agentId = none then .error ⟨"agent memory requires agent_id"⟩ else .ok ()
  | .project =>
      if projectId = none ∨ agentId ≠ none then
        .error ⟨"project memory requires project_id and no agent_id"⟩
      else .ok ()
  | .company =>
      if projectId ≠ none ∨ agentId ≠ none then
        .error ⟨"company memory cannot have project_id or agent_id"⟩
      else .ok ()

def require (condition : Bool) (message : String) : Except ValueError Unit :=
  if condition = true then .ok () else .error ⟨message⟩

def validateText (value : PyStr) (field : String) (maximum : Nat) : Except ValueError Unit :=
  require (decide (strip value ≠ [] ∧ value.length ≤ maximum)) (field ++ " is invalid")

def createEntry (id : UUID) (createdAt : Nat)
    (request : CreateRequest) : Except ValueError MemoryEntry := do
  validateScope request.scope request.projectId request.agentId
  validateText request.title "title" 255
  validateText request.content "content" 16384
  validateText request.source "source" 255
  require (request.confidence.all fun value => decide (0 ≤ value ∧ value ≤ 1))
    "confidence must be between 0 and 1"
  let tags := request.tags.toFinset.sort
  require (decide (tags.length ≤ 32) && tags.all fun tag => decide (tag ≠ [] ∧ tag.length ≤ 64))
    "tags are invalid"
  return { id, createdAt, tags, supersededById := none
           scope := request.scope, memoryType := request.memoryType, title := request.title
           content := request.content, source := request.source, projectId := request.projectId
           agentId := request.agentId, confidence := request.confidence }

def getById (store : List MemoryEntry) (id : UUID) : Option MemoryEntry :=
  store.find? fun entry => decide (entry.id = id)

structure Write where
  added : MemoryEntry
  superseded : Option UUID

inductive Call
  | create (request : CreateRequest)
  | supersede (entryId : UUID) (title content source : PyStr)

def Call.run (store : List MemoryEntry) (id : UUID) (createdAt : Nat) :
    Call → Except ValueError Write
  | .create request => do
      let added ← createEntry id createdAt request
      return ⟨added, none⟩
  | .supersede entryId title content source =>
      match getById store entryId with
      | none => .error ⟨"memory does not exist"⟩
      | some old =>
          if old.supersededById ≠ none then .error ⟨"memory is already superseded"⟩
          else do
            let added ← createEntry id createdAt
              ⟨old.scope, old.memoryType, title, content, source, old.projectId,
                old.agentId, old.tags, old.confidence⟩
            return ⟨added, some entryId⟩

inductive Session
  | fresh
  | pending (write : Write)
  | closed

/-- The committed entries and the sessions, with every supersession that was committed. -/
structure State where
  store : List MemoryEntry
  sessions : Nat → Session
  supersessions : List (UUID × UUID)

def State.initial : State := ⟨[], fun _ => .fresh, []⟩

def State.setSession (state : State) (session : Nat) (now : Session) : State :=
  { state with sessions := fun other => if other = session then now else state.sessions other }

def markSuperseded (old new : UUID) (entry : MemoryEntry) : MemoryEntry :=
  if entry.id = old then { entry with supersededById := some new } else entry

def Write.apply (write : Write) (store : List MemoryEntry) : List MemoryEntry :=
  match write.superseded with
  | none => store ++ [write.added]
  | some old => store.map (markSuperseded old write.added.id) ++ [write.added]

inductive Action
  | perform (session : Nat) (call : Call) (id : UUID) (createdAt : Nat)
  | commit (session : Nat)
  | rollback (session : Nat)

/-- One step of one session. A row whose identifier is taken is refused with the whole commit. -/
def step (state : State) : Action → Option State
  | .perform session call id createdAt =>
      match state.sessions session with
      | .fresh =>
          match call.run state.store id createdAt with
          | .error _ => some (state.setSession session .closed)
          | .ok write => some (state.setSession session (.pending write))
      | _ => none
  | .commit session =>
      match state.sessions session with
      | .pending write =>
          if (getById state.store write.added.id).isSome = true
            then some (state.setSession session .closed)
          else
            some { (state.setSession session .closed) with
              store := write.apply state.store
              supersessions := state.supersessions ++
                (write.superseded.map fun old => (old, write.added.id)).toList }
      | _ => none
  | .rollback session =>
      match state.sessions session with
      | .pending _ => some (state.setSession session .closed)
      | _ => none

section Search

structure SearchQuery where
  query : Option PyStr
  scope : Option MemoryScope
  projectId : Option UUID
  agentId : Option UUID
  tags : List PyStr
  activeOnly : Bool
  limit : Int
  offset : Int

-- the database's `ILIKE '%…%'`
variable (contains : PyStr → PyStr → Bool)

def SearchQuery.selects (search : SearchQuery) (entry : MemoryEntry) : Bool :=
  search.query.all (fun text => decide (text = []) || contains text entry.title ||
    contains text entry.content) && search.scope.all (fun scope => decide (entry.scope = scope)) &&
    search.projectId.all (fun projectId => decide (entry.projectId = some projectId)) &&
    search.agentId.all (fun agentId => decide (entry.agentId = some agentId)) &&
    search.tags.all (fun tag => entry.tags.contains tag) &&
    (!search.activeOnly || decide (entry.supersededById = none))

def SearchQuery.results (search : SearchQuery) (store : List MemoryEntry) :
    Except ValueError (List MemoryEntry) :=
  if 1 ≤ search.limit ∧ search.limit ≤ 100 then
    if 0 ≤ search.offset then
      let selected := store.filter (search.selects contains)
      let ordered := selected.insertionSort fun first second =>
        second.createdAt < first.createdAt ∨
          (second.createdAt = first.createdAt ∧ second.id ≤ first.id)
      .ok ((ordered.drop search.offset.toNat).take search.limit.toNat)
    else .error ⟨"offset must be non-negative"⟩
  else .error ⟨"limit must be between 1 and 100"⟩

end Search

end SynapseOS.Memory
