import Mathlib.Data.String.Basic
import SynapseOS.Core.Text
import SynapseOS.Execution.Json

/-! The field constraints of the pydantic models, on code points. -/

namespace SynapseOS

open Execution Tools

inductive ValidationError
  | invalid (model : String)
  deriving DecidableEq

def digit (point : Nat) : Bool := decide (0x30 ≤ point ∧ point ≤ 0x39)

def lowerLetter (point : Nat) : Bool := decide (0x61 ≤ point ∧ point ≤ 0x7A)

def upperLetter (point : Nat) : Bool := decide (0x41 ≤ point ∧ point ≤ 0x5A)

def asciiAlphanumeric (point : Nat) : Bool := digit point || lowerLetter point || upperLetter point

def lowerHexPoint (point : Nat) : Bool := digit point || decide (0x61 ≤ point ∧ point ≤ 0x66)

/-- `^[0-9a-f]{40,64}$`. -/
def shaText (text : PyStr) : Bool :=
  decide (40 ≤ text.length ∧ text.length ≤ 64) && text.all lowerHexPoint

/-- `[a-z0-9._:-]`. -/
def identifierPoint (point : Nat) : Bool :=
  lowerLetter point || digit point || [0x2E, 0x5F, 0x3A, 0x2D].contains point

/-- `^[a-z0-9][a-z0-9._:-]{0,127}$`, or with letters only at the start. -/
def identifierText (digits : Bool) : PyStr → Bool
  | [] => false
  | head :: tail =>
      (lowerLetter head || (digits && digit head)) && decide (tail.length ≤ 127) &&
        tail.all identifierPoint

/-- `Field(min_length=1, max_length=…)` with `_require_nonblank`. -/
def boundedText (maximum : Nat) (text : PyStr) : Bool :=
  decide (1 ≤ text.length ∧ text.length ≤ maximum ∧ strip text ≠ [])

def slashParts : PyStr → List PyStr
  | [] => [[]]
  | point :: rest =>
      if point = 0x2F then [] :: slashParts rest
      else
        match slashParts rest with
        | [] => [[point]]
        | part :: parts => (point :: part) :: parts

/-- `_require_normalized_relative_path` on a text of 1 to 1024 points. `as_posix` drops the parts
that are empty or a dot. -/
def relativePath (text : PyStr) : Bool :=
  decide (1 ≤ text.length ∧ text.length ≤ 1024) && !text.contains 0x5C &&
    decide (text.drop 1 |>.head? |>.all (· ≠ 0x3A)) && decide (text.head? ≠ some 0x2F) &&
    decide (PyStr.ofString ".." ∉ slashParts text) &&
    (decide (text = PyStr.ofString ".") ||
      (slashParts text).all fun part => decide (part ≠ [] ∧ part ≠ PyStr.ofString "."))

instance : LinearOrder Identifier :=
  LinearOrder.lift' (fun identifier => identifier.text) fun first second same => by
    cases first
    cases second
    cases same
    rfl

instance : IsTrans Identifier (· ≤ ·) := inferInstance

instance : Std.Antisymm (α := Identifier) (· ≤ ·) := inferInstance

instance : Std.Total (α := Identifier) (· ≤ ·) := inferInstance

/-- `Field(ge=0.0, le=1.0, allow_inf_nan=False)`. -/
abbrev UnitScore : Type := { score : ℚ // 0 ≤ score ∧ score ≤ 1 }

abbrev JsonObject := List (String × JsonValue)

def JsonObject.get (data : JsonObject) (key : String) : Option JsonValue :=
  (data.find? fun entry => decide (entry.1 = key)).map Prod.snd

def itemIf {α : Type} (condition : Bool) (item : α) : List α :=
  if condition = true then [item] else []

theorem itemIf_nil {α : Type} {condition : Bool} {item : α} :
    itemIf condition item = [] ↔ condition = false := by
  cases condition <;> simp [itemIf]

theorem mem_itemIf {α : Type} {condition : Bool} {item other : α} :
    other ∈ itemIf condition item ↔ condition = true ∧ other = item := by
  cases condition <;> simp [itemIf]

theorem itemIf_sublist {α : Type} {condition : Bool} {item : α} :
    (itemIf condition item).Sublist [item] := by
  cases condition
  · exact List.nil_sublist _
  · exact List.Sublist.refl _

theorem mapM_validates {ε α β : Type} {f : α → Except ε β} {related : α → β → Prop}
    {items : List α} (each : ∀ item ∈ items, ∃ value, f item = .ok value ∧ related item value) :
    ∃ values, items.mapM f = .ok values ∧ List.Forall₂ related items values := by
  induction items with
  | nil => exact ⟨[], rfl, .nil⟩
  | cons item rest ih =>
      obtain ⟨value, passes, first⟩ := each item List.mem_cons_self
      obtain ⟨values, later, others⟩ := ih fun other among =>
        each other (List.mem_cons_of_mem _ among)
      refine ⟨value :: values, ?_, .cons first others⟩
      rw [List.mapM_cons, passes, later]
      rfl

theorem bind_ok {ε α β : Type} {first : Except ε α} {rest : α → Except ε β} {b : β}
    (ok : (first >>= rest) = .ok b) : ∃ a, first = .ok a ∧ rest a = .ok b := by
  cases first with
  | error raised => cases ok
  | ok a => exact ⟨a, rfl, ok⟩

theorem mapM_values {ε α β : Type} {f : α → Except ε β} {value : α → β} {items : List α}
    (each : ∀ item ∈ items, f item = .ok (value item)) : items.mapM f = .ok (items.map value) := by
  induction items with
  | nil => rfl
  | cons item rest ih =>
      rw [List.mapM_cons, each item List.mem_cons_self,
        ih fun other among => each other (List.mem_cons_of_mem _ among)]
      rfl

theorem mapM_raises {ε α β : Type} {f : α → Except ε β} {items : List α} {item : α} {refused : ε}
    (among : item ∈ items) (raised : f item = .error refused) : ∃ error, items.mapM f =
      .error error := by
  cases passed : items.mapM f with
  | error error => exact ⟨error, rfl⟩
  | ok values =>
      induction items generalizing values with
      | nil => cases among
      | cons head rest ih =>
          rw [List.mapM_cons] at passed
          obtain ⟨value, first, passed⟩ := bind_ok passed
          obtain ⟨others, later, _⟩ := bind_ok passed
          rcases List.mem_cons.mp among with rfl | inside
          · rw [raised] at first
            cases first
          · obtain ⟨error, other⟩ := ih inside others later
            cases other

theorem mapM_error {ε α β : Type} {f : α → Except ε β} {items : List α} {raised : ε}
    (failed : items.mapM f = .error raised) : ∃ item ∈ items, f item = .error raised := by
  induction items with
  | nil => cases failed
  | cons item rest ih =>
      rw [List.mapM_cons] at failed
      rcases first : f item with error | value
      · rw [first] at failed
        cases failed
        exact ⟨item, List.mem_cons_self, first⟩
      · rcases later : rest.mapM f with error | values
        · rw [first, later] at failed
          cases failed
          rcases ih later with ⟨other, among, raises⟩
          exact ⟨other, List.mem_cons_of_mem _ among, raises⟩
        · rw [first, later] at failed
          cases failed

theorem mapM_related {ε α β : Type} {f : α → Except ε β} {items : List α} {values : List β}
    (ok : items.mapM f = .ok values) : List.Forall₂ (fun item value => f item = .ok value)
      items values := by
  induction items generalizing values with
  | nil =>
      cases ok
      exact .nil
  | cons item rest ih =>
      rw [List.mapM_cons] at ok
      obtain ⟨value, first, ok⟩ := bind_ok ok
      obtain ⟨others, later, ok⟩ := bind_ok ok
      cases ok
      exact .cons first (ih later)

theorem mapM_accepts {ε α β : Type} {f : α → Except ε β} {items : List α} {values : List β}
    (mapped : items.mapM f = .ok values) : ∀ item ∈ items, ∃ value, f item = .ok value := by
  intro item among
  obtain ⟨place, bound, rfl⟩ := List.mem_iff_getElem.mp among
  have pairs := mapM_related mapped
  have same : items.length = values.length := pairs.length_eq
  exact ⟨values[place], List.Forall₂.get pairs bound (same ▸ bound)⟩

theorem related_mem {α β : Type} {related : α → β → Prop} {items : List α} {values : List β}
    (pairs : List.Forall₂ related items values) {value : β} (among : value ∈ values) :
    ∃ item ∈ items, related item value := by
  induction pairs with
  | nil => cases among
  | cons first _ ih =>
      rcases List.mem_cons.mp among with rfl | later
      · exact ⟨_, List.mem_cons_self, first⟩
      · obtain ⟨item, there, related⟩ := ih later
        exact ⟨item, List.mem_cons_of_mem _ there, related⟩

theorem related_map {α β γ : Type} {related : α → β → Prop} {items : List α} {values : List β}
    (pairs : List.Forall₂ related items values) {f : α → γ} {g : β → γ}
    (same : ∀ item value, related item value → f item = g value) : items.map f = values.map g := by
  induction pairs with
  | nil => rfl
  | cons first _ ih => rw [List.map_cons, List.map_cons, same _ _ first, ih]

end SynapseOS
