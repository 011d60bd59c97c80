import Mathlib.Data.String.Basic
import SynapseOS.Lib.Ranked
import SynapseOS.Runtime.Stagnation

/-! The shape of an argument is its structure of types (`core/runtime/stagnation.py`). -/

namespace SynapseOS.Runtime

open Tools

mutual

def Distinct : JsonValue → Prop
  | .list items => DistinctItems items
  | .dict entries => (entries.map Prod.fst).Nodup ∧ DistinctEntries entries
  | .null | .boolean _ | .string _ | .integer _ | .number _ => True

def DistinctItems : List JsonValue → Prop
  | [] => True
  | item :: rest => Distinct item ∧ DistinctItems rest

def DistinctEntries : List (String × JsonValue) → Prop
  | [] => True
  | (_, value) :: rest => Distinct value ∧ DistinctEntries rest

end

mutual

/-- Two values have the same types at the same places, whatever the order of their keys. -/
def SameStructure : JsonValue → JsonValue → Prop
  | .null, .null => True
  | .boolean _, .boolean _ => True
  | .string _, .string _ => True
  | .integer _, .integer _ => True
  | .number _, .number _ => True
  | .list items, .list others => SameItems items others
  | .dict entries, .dict others => entries.length = others.length ∧ SameEntries entries others
  | _, _ => False

def SameItems : List JsonValue → List JsonValue → Prop
  | [], [] => True
  | item :: rest, other :: others => SameStructure item other ∧ SameItems rest others
  | _, _ => False

def SameEntries : List (String × JsonValue) → List (String × JsonValue) → Prop
  | [], _ => True
  | (key, value) :: rest, others =>
      (∃ other, (key, other) ∈ others ∧ SameStructure value other) ∧ SameEntries rest others

end

section Shapes

theorem entryShapes_map (entries : List (String × JsonValue)) :
    entryShapes entries = entries.map fun entry => (entry.1, shape entry.2) := by
  induction entries with
  | nil => rfl
  | cons entry rest ih => rw [entryShapes, ih, List.map_cons]

theorem entryShapes_keys (entries : List (String × JsonValue)) :
    (entryShapes entries).map Prod.fst = entries.map Prod.fst := by
  rw [entryShapes_map, List.map_map]
  rfl

theorem distinct_entry {entries : List (String × JsonValue)} (distinct : DistinctEntries entries)
    {key : String} {value : JsonValue} (member : (key, value) ∈ entries) : Distinct value := by
  induction entries with
  | nil => cases member
  | cons entry rest ih =>
      rcases List.mem_cons.mp member with same | later
      · rw [← same] at distinct
        exact distinct.1
      · exact ih distinct.2 later

theorem sorted_iff {entries others : List (String × Shape)}
    (unique : (entries.map Prod.fst).Nodup) :
    sortedBy Prod.fst entries = sortedBy Prod.fst others ↔ entries.Perm others := by
  constructor
  · intro same
    have sorted : (sortedBy Prod.fst entries).Perm others := by
      rw [same]
      exact sortedBy_perm
    exact sortedBy_perm.symm.trans sorted
  · intro perm
    refine sortedBy_eq perm fun first here second there same => ?_
    exact List.inj_on_of_nodup_map unique here there same

theorem perm_iff {entries others : List (String × Shape)} (unique : (entries.map Prod.fst).Nodup) :
    entries.Perm others ↔ entries.length = others.length ∧ ∀ entry ∈ entries, entry ∈ others := by
  constructor
  · intro perm
    exact ⟨perm.length_eq, fun entry member => perm.mem_iff.mp member⟩
  · rintro ⟨lengths, among⟩
    exact (List.Nodup.of_map _ unique).subperm among |>.perm_of_length_le lengths.ge

theorem shape_dict (entries : List (String × JsonValue)) :
    shape (.dict entries) = .dict (sortedBy Prod.fst (entryShapes entries)) := by
  rw [shape]
  rfl

mutual

/-- Values have the same shape exactly if they have the same structure. -/
theorem shape_iff (first : JsonValue) (one : Distinct first) (second : JsonValue)
    (other : Distinct second) : shape first = shape second ↔ SameStructure first second := by
  cases first with
  | null => cases second <;> simp [shape, SameStructure]
  | boolean => cases second <;> simp [shape, SameStructure]
  | string => cases second <;> simp [shape, SameStructure]
  | integer => cases second <;> simp [shape, SameStructure]
  | number => cases second <;> simp [shape, SameStructure]
  | list items =>
      cases second with
      | list others =>
          rw [shape, shape, Shape.list.injEq, SameStructure]
          exact shapes_iff items one others other
      | null | boolean | string | integer | number | dict => simp [shape, SameStructure]
  | dict entries =>
      cases second with
      | dict others =>
          have unique : ((entryShapes entries).map Prod.fst).Nodup := by
            rw [entryShapes_keys]
            exact one.1
          have lengths (entries : List (String × JsonValue)) : (entryShapes entries).length =
              entries.length := by
            rw [entryShapes_map, List.length_map]
          rw [shape_dict, shape_dict, Shape.dict.injEq, sorted_iff unique, perm_iff unique,
            lengths, lengths, SameStructure, entries_iff entries one.2 others other.2]
      | null | boolean | string | integer | number | list => simp [shape, SameStructure]

theorem shapes_iff (items : List JsonValue) (one : DistinctItems items) (others : List JsonValue)
    (other : DistinctItems others) : shapes items = shapes others ↔ SameItems items others := by
  cases items with
  | nil => cases others <;> simp [shapes, SameItems]
  | cons item rest =>
      cases others with
      | nil => simp [shapes, SameItems]
      | cons next more =>
          rw [shapes, shapes, List.cons.injEq, SameItems, shape_iff item one.1 next other.1,
            shapes_iff rest one.2 more other.2]

theorem entries_iff (entries : List (String × JsonValue)) (one : DistinctEntries entries)
    (others : List (String × JsonValue)) (other : DistinctEntries others) :
    (∀ entry ∈ entryShapes entries, entry ∈ entryShapes others) ↔ SameEntries entries others := by
  cases entries with
  | nil => simp [entryShapes, SameEntries]
  | cons entry rest =>
      obtain ⟨key, value⟩ := entry
      have own : (key, shape value) ∈ entryShapes others ↔
          ∃ found, (key, found) ∈ others ∧ SameStructure value found := by
        rw [entryShapes_map, List.mem_map]
        constructor
        · rintro ⟨⟨name, found⟩, member, same⟩
          obtain ⟨rfl, shapes⟩ := Prod.mk.inj same
          exact ⟨found, member,
            (shape_iff value one.1 found (distinct_entry other member)).mp shapes.symm⟩
        · rintro ⟨found, member, same⟩
          have shapes := (shape_iff value one.1 found (distinct_entry other member)).mpr same
          exact ⟨(key, found), member, by rw [shapes]⟩
      rw [entryShapes, List.forall_mem_cons, own, entries_iff rest one.2 others other, SameEntries]

end

end Shapes

end SynapseOS.Runtime
