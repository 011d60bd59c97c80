import SynapseOS.Execution.AsciiReading
import SynapseOS.Runtime.Structure

/-! The encoding of a progress shape, which tells different shapes apart
(`core/runtime/stagnation.py`). -/

namespace SynapseOS.Runtime

open Tools Execution

mutual

def Shape.sorted : Shape → Shape
  | .scalar name => .scalar name
  | .list items => .list (Shape.sortedItems items)
  | .dict entries => .dict (sortedBy Prod.fst (Shape.sortedEntries entries))

def Shape.sortedItems : List Shape → List Shape
  | [] => []
  | item :: rest => item.sorted :: Shape.sortedItems rest

def Shape.sortedEntries : List (String × Shape) → List (String × Shape)
  | [] => []
  | (key, value) :: rest => (key, value.sorted) :: Shape.sortedEntries rest

end

mutual

def Shape.written : Shape → PyStr
  | .scalar name => asciiText name
  | .list items => [0x5B] ++ commas (Shape.writtenItems items) ++ [0x5D]
  | .dict entries => [0x7B] ++ commas (Shape.writtenEntries entries) ++ [0x7D]

def Shape.writtenItems : List Shape → List PyStr
  | [] => []
  | item :: rest => item.written :: Shape.writtenItems rest

def Shape.writtenEntries : List (String × Shape) → List PyStr
  | [] => []
  | (key, value) :: rest => (asciiText key ++ [0x3A] ++ value.written) :: Shape.writtenEntries rest

end

section Written

def Shape.mark : Shape → Nat
  | .scalar _ => 0x22
  | .list _ => 0x5B
  | .dict _ => 0x7B

def writtenEntry (entry : String × Shape) : PyStr := asciiText entry.1 ++ [0x3A] ++ entry.2.written

theorem writtenItems_map (items : List Shape) :
    Shape.writtenItems items = items.map Shape.written := by
  induction items with
  | nil => rfl
  | cons item rest ih => rw [Shape.writtenItems, ih, List.map_cons]

theorem writtenEntries_map (entries : List (String × Shape)) :
    Shape.writtenEntries entries = entries.map writtenEntry := by
  induction entries with
  | nil => rfl
  | cons entry rest ih => rw [Shape.writtenEntries, ih, List.map_cons, writtenEntry]

theorem written_list (items : List Shape) (rest : PyStr) : (Shape.list items).written ++ rest =
    0x5B :: (commas (items.map Shape.written) ++ 0x5D :: rest) := by
  rw [Shape.written, writtenItems_map]
  simp

theorem written_dict (entries : List (String × Shape)) (rest : PyStr) :
    (Shape.dict entries).written ++ rest =
    0x7B :: (commas (entries.map writtenEntry) ++ 0x7D :: rest) := by
  rw [Shape.written, writtenEntries_map]
  simp

theorem written_mark (shape : Shape) : ∃ tail, shape.written = shape.mark :: tail := by
  cases shape with
  | scalar name => exact ⟨_, rfl⟩
  | list items => exact ⟨_, rfl⟩
  | dict entries => exact ⟨_, rfl⟩

theorem same_mark {shape other : Shape} {rest behind : PyStr}
    (same : shape.written ++ rest = other.written ++ behind) :
    shape.mark = other.mark := by
  obtain ⟨tail, text⟩ := written_mark shape
  obtain ⟨more, others⟩ := written_mark other
  rw [text, others] at same
  exact (List.cons.inj same).1

theorem written_apart : StartsApart Shape.written 0x5D := by
  intro shape
  obtain ⟨tail, text⟩ := written_mark shape
  refine ⟨shape.mark, tail, text, ?_⟩
  cases shape <;> simp [Shape.mark]

theorem writtenEntry_apart : StartsApart writtenEntry 0x7D := fun _ => ⟨0x22, _, rfl, by decide⟩

theorem writtenEntry_delimits {entry : String × Shape} (value : Delimits Shape.written entry.2) :
    Delimits writtenEntry entry := by
  intro other rest behind same
  rw [writtenEntry, writtenEntry, List.append_assoc, List.append_assoc, List.append_assoc,
    List.append_assoc] at same
  obtain ⟨key, later⟩ := asciiText_delimits entry.1 other.1 _ _ same
  obtain ⟨shape, done⟩ := value other.2 rest behind (List.cons.inj later).2
  exact ⟨Prod.ext key shape, done⟩

mutual

theorem written_delimits (shape : Shape) : Delimits Shape.written shape := by
  intro other rest behind same
  have marks := same_mark same
  cases shape with
  | scalar name =>
      cases other with
      | scalar next =>
          obtain ⟨names, done⟩ := asciiText_delimits name next rest behind same
          exact ⟨congrArg Shape.scalar names, done⟩
      | list | dict => cases marks
  | list items =>
      cases other with
      | list others =>
          rw [written_list, written_list] at same
          obtain ⟨parts, done⟩ := intercalate_delimits (by decide) written_apart
            (items_delimit items) (List.cons.inj same).2
          exact ⟨congrArg Shape.list parts, done⟩
      | scalar | dict => cases marks
  | dict entries =>
      cases other with
      | dict others =>
          rw [written_dict, written_dict] at same
          obtain ⟨parts, done⟩ := intercalate_delimits (by decide) writtenEntry_apart
            (entries_delimit entries) (List.cons.inj same).2
          exact ⟨congrArg Shape.dict parts, done⟩
      | scalar | list => cases marks

theorem items_delimit (items : List Shape) : ∀ item ∈ items, Delimits Shape.written item := by
  cases items with
  | nil => nofun
  | cons item rest =>
      intro found member
      rcases List.mem_cons.mp member with same | later
      · rw [same]
        exact written_delimits item
      · exact items_delimit rest found later

theorem entries_delimit (entries : List (String × Shape)) :
    ∀ entry ∈ entries, Delimits writtenEntry entry := by
  cases entries with
  | nil => nofun
  | cons entry rest =>
      obtain ⟨key, value⟩ := entry
      intro found member
      rcases List.mem_cons.mp member with same | later
      · rw [same]
        exact writtenEntry_delimits (written_delimits value)
      · exact entries_delimit rest found later

end

end Written

section Sorted

theorem sortedEntries_eq {entries : List (String × Shape)}
    (sorted : ∀ entry ∈ entries, entry.2.sorted = entry.2) :
    Shape.sortedEntries entries = entries := by
  induction entries with
  | nil => rfl
  | cons entry rest ih =>
      have own : entry.2.sorted = entry.2 := sorted entry List.mem_cons_self
      rw [Shape.sortedEntries, own,
        ih fun other member => sorted other (List.mem_cons_of_mem _ member)]

theorem sortedBy_again {α κ : Type} [LinearOrder κ] (key : α → κ) (items : List α) :
    sortedBy key (sortedBy key items) = sortedBy key items := ranked_sorted ranked_pairwise

mutual

theorem shape_sorted (value : JsonValue) : (shape value).sorted = shape value := by
  cases value with
  | null | boolean | string | integer | number => rfl
  | list items => rw [shape, Shape.sorted, shapes_sorted items]
  | dict entries =>
      have each : ∀ entry ∈ sortedBy Prod.fst (entryShapes entries), entry.2.sorted = entry.2 :=
        fun entry member => entries_sorted entries entry (sortedBy_perm.mem_iff.mp member)
      rw [shape_dict, Shape.sorted, sortedEntries_eq each, sortedBy_again]

theorem shapes_sorted (items : List JsonValue) :
    Shape.sortedItems (shapes items) = shapes items := by
  cases items with
  | nil => rfl
  | cons item rest => rw [shapes, Shape.sortedItems, shape_sorted item, shapes_sorted rest]

theorem entries_sorted (entries : List (String × JsonValue)) :
    ∀ entry ∈ entryShapes entries, entry.2.sorted = entry.2 := by
  cases entries with
  | nil => nofun
  | cons entry rest =>
      obtain ⟨key, value⟩ := entry
      intro found member
      rcases List.mem_cons.mp member with same | later
      · rw [same]
        exact shape_sorted value
      · exact entries_sorted rest found later

end

end Sorted

section Canonical

def RuntimeAction.value : RuntimeAction → String
  | .toolCall => "TOOL_CALL"
  | .complete => "COMPLETE"
  | .escalate => "ESCALATE"

def RuntimeVerificationOutcome.value : RuntimeVerificationOutcome → String
  | .continue_ => "CONTINUE"
  | .complete => "COMPLETE"
  | .escalate => "ESCALATE"

def errorValue : ToolErrorCode → String
  | .toolNotFound => "TOOL_NOT_FOUND"
  | .toolNotDeclared => "TOOL_NOT_DECLARED"
  | .permissionDenied => "PERMISSION_DENIED"
  | .approvalRequired => "APPROVAL_REQUIRED"
  | .permissionAuditFailed => "PERMISSION_AUDIT_FAILED"
  | .invalidInput => "INVALID_INPUT"
  | .workspaceViolation => "WORKSPACE_VIOLATION"
  | .unsupportedFile => "UNSUPPORTED_FILE"
  | .outputLimit => "OUTPUT_LIMIT"
  | .toolFailed => "TOOL_FAILED"
  | .auditFailed => "AUDIT_FAILED"
  | .toolTimedOut => "TOOL_TIMED_OUT"
  | .cancelled => "CANCELLED"
  | .targetNotFound => "TARGET_NOT_FOUND"
  | .targetConflict => "TARGET_CONFLICT"
  | .patchMismatch => "PATCH_MISMATCH"
  | .mutationFailed => "MUTATION_FAILED"
  | .compensationFailed => "COMPENSATION_FAILED"

theorem values_injective {α : Type} {value : α → String} (all : List α) (every : ∀ a, a ∈ all)
    (unique : (all.map value).Nodup) : Function.Injective value :=
  fun first second same => List.inj_on_of_nodup_map unique (every first) (every second) same

theorem action_injective : Function.Injective RuntimeAction.value :=
  values_injective [.toolCall, .complete, .escalate] (fun action => by cases action <;> decide)
    (by decide)

theorem outcome_injective : Function.Injective RuntimeVerificationOutcome.value :=
  values_injective [.continue_, .complete, .escalate] (fun outcome => by cases outcome <;> decide)
    (by decide)

theorem errorValue_injective : Function.Injective errorValue :=
  values_injective [.toolNotFound, .toolNotDeclared, .permissionDenied, .approvalRequired,
    .permissionAuditFailed,
    .invalidInput, .workspaceViolation, .unsupportedFile, .outputLimit, .toolFailed, .auditFailed,
    .toolTimedOut,
    .cancelled, .targetNotFound, .targetConflict, .patchMismatch, .mutationFailed,
    .compensationFailed] (fun code => by cases code <;> decide) (by decide)

def optionText : Option String → PyStr
  | none => .ofString "null"
  | some text => asciiText text

def field (key : String) (text : PyStr) : PyStr := asciiText key ++ [0x3A] ++ text

/-- `json.dumps(canonical, sort_keys=True, separators=(",", ":"))`. -/
def Canonical.text (canonical : Canonical) : PyStr :=
  [0x7B] ++ commas [field "action" (asciiText canonical.action.value),
    field "argument_shape" canonical.argumentShape.sorted.written,
    field "tool_error_code" (optionText (canonical.toolErrorCode.map errorValue)),
    field "tool_name" (optionText (canonical.toolName.map Identifier.text)),
    field "verification_outcome"
      (optionText (canonical.verificationOutcome.map RuntimeVerificationOutcome.value))] ++
    [0x7D]

theorem optionText_delimits (text : Option String) : Delimits optionText text := by
  intro other rest behind same
  cases text with
  | none =>
      cases other with
      | none => exact ⟨rfl, List.append_cancel_left same⟩
      | some other => cases (List.cons.inj same).1
  | some text =>
      cases other with
      | none => cases (List.cons.inj same).1
      | some other =>
          obtain ⟨texts, done⟩ := asciiText_delimits text other rest behind same
          exact ⟨congrArg some texts, done⟩

theorem Canonical.text_eq (canonical : Canonical) :
    canonical.text = 0x7B :: (asciiText "action" ++ 0x3A ::
    (asciiText canonical.action.value ++ 0x2C :: (asciiText "argument_shape" ++ 0x3A ::
    (canonical.argumentShape.sorted.written ++ 0x2C :: (asciiText "tool_error_code" ++ 0x3A ::
    (optionText (canonical.toolErrorCode.map errorValue) ++ 0x2C ::
      (asciiText "tool_name" ++ 0x3A ::
    (optionText (canonical.toolName.map Identifier.text) ++ 0x2C ::
      (asciiText "verification_outcome" ++ 0x3A ::
    (optionText (canonical.verificationOutcome.map RuntimeVerificationOutcome.value) ++
      [0x7D])))))))))) := by
  simp only [Canonical.text, commas, field, List.intercalate_cons_cons, List.intercalate_singleton,
    List.append_assoc, List.cons_append, List.nil_append]

theorem option_map_inj {α β : Type} {f : α → β} (injective : Function.Injective f)
    {first second : Option α}
    (same : first.map f = second.map f) : first = second := Option.map_injective injective same

/-- Progress shapes whose dictionaries are sorted have different texts unless they are equal. -/
theorem Canonical.text_injective {first second : Canonical}
    (one : first.argumentShape.sorted = first.argumentShape)
    (other : second.argumentShape.sorted = second.argumentShape) (same : first.text = second.text) :
    first = second := by
  rw [text_eq, text_eq, one, other] at same
  have behind {key : String} {text more : PyStr} (same : asciiText key ++ 0x3A :: text =
      asciiText key ++ 0x3A :: more) :
      text = more := (List.cons.inj (List.append_cancel_left same)).2
  obtain ⟨action, same⟩ := asciiText_delimits _ _ _ _ (behind (List.cons.inj same).2)
  obtain ⟨shape, same⟩ := written_delimits _ _ _ _ (behind (List.cons.inj same).2)
  obtain ⟨code, same⟩ := optionText_delimits _ _ _ _ (behind (List.cons.inj same).2)
  obtain ⟨name, same⟩ := optionText_delimits _ _ _ _ (behind (List.cons.inj same).2)
  obtain ⟨outcome, _⟩ := optionText_delimits _ _ _ _ (behind (List.cons.inj same).2)
  have names : Function.Injective Identifier.text := fun a b same => by
    cases a
    cases b
    cases same
    rfl
  cases first
  cases second
  cases action_injective action
  cases option_map_inj errorValue_injective code
  cases option_map_inj names name
  cases option_map_inj outcome_injective outcome
  cases shape
  rfl

end Canonical

end SynapseOS.Runtime
