import Mathlib.Data.List.Nodup
import Mathlib.Tactic

/-! Insertion-ordered dictionaries. Assigning to a present key keeps its place,
assigning to a fresh key appends it, and iteration follows the insertion order. -/

namespace SynapseOS

variable {κ α : Type} [DecidableEq κ]

namespace Assoc

def get (key : κ) : List (κ × α) → Option α
  | [] => none
  | (k, v) :: rest => if k = key then some v else get key rest

def set (key : κ) (value : α) : List (κ × α) → List (κ × α)
  | [] => [(key, value)]
  | (k, v) :: rest => if k = key then (key, value) :: rest else (k, v) :: set key value rest

def erase (key : κ) (entries : List (κ × α)) : List (κ × α) :=
  entries.filter (fun entry => decide (entry.1 ≠ key))

theorem get_nil (key : κ) : get key ([] : List (κ × α)) = none := rfl

theorem get_cons (key : κ) (entry : κ × α) (rest : List (κ × α)) :
    get key (entry :: rest) = if entry.1 = key then some entry.2 else get key rest := rfl

theorem set_nil (key : κ) (value : α) : set key value [] = [(key, value)] := rfl

theorem set_cons (key : κ) (value : α) (entry : κ × α) (rest : List (κ × α)) :
    set key value (entry :: rest) =
      if entry.1 = key then (key, value) :: rest else entry :: set key value rest := rfl

theorem get_set (key other : κ) (value : α) (entries : List (κ × α)) :
    get other (set key value entries) = if key = other then some value else get other entries := by
  induction entries with
  | nil => simp [set_nil, get_nil, get_cons]
  | cons entry rest ih =>
      obtain ⟨k, v⟩ := entry
      by_cases same : k = key
      · subst same
        by_cases hit : k = other <;> simp [set_cons, get_cons, hit]
      · by_cases hit : k = other
        · subst hit
          simp [set_cons, get_cons, same, Ne.symm same]
        · simp [set_cons, get_cons, same, hit, ih]

theorem get_erase (key other : κ) (entries : List (κ × α)) :
    get other (erase key entries) = if key = other then none else get other entries := by
  induction entries with
  | nil => simp [erase, get_nil]
  | cons entry rest ih =>
      obtain ⟨k, v⟩ := entry
      by_cases same : k = key
      · subst same
        by_cases hit : k = other
        · simpa [erase, hit] using ih
        · simpa [erase, get_cons, hit] using ih
      · by_cases hit : k = other
        · subst hit
          simp [erase, get_cons, same, Ne.symm same]
        · simpa [erase, get_cons, same, hit] using ih

theorem keys_set (key : κ) (value : α) (entries : List (κ × α)) :
    (set key value entries).map Prod.fst =
      if key ∈ entries.map Prod.fst then entries.map Prod.fst
      else entries.map Prod.fst ++ [key] := by
  induction entries with
  | nil => simp [set_nil]
  | cons entry rest ih =>
      obtain ⟨k, v⟩ := entry
      by_cases same : k = key
      · simp [set_cons, same]
      · by_cases inside : key ∈ rest.map Prod.fst
        · simp only [set_cons, if_neg same, List.map_cons, ih, List.mem_cons, inside, or_true,
            if_true]
        · have outside : key ∉ k :: rest.map Prod.fst := by
            simp only [List.mem_cons, inside, or_false]
            exact Ne.symm same
          simp only [set_cons, if_neg same, List.map_cons, ih, if_neg inside, if_neg outside,
            List.cons_append]

theorem nodup_set (key : κ) (value : α) (entries : List (κ × α))
    (unique : (entries.map Prod.fst).Nodup) : ((set key value entries).map Prod.fst).Nodup := by
  rw [keys_set]
  split
  · exact unique
  · next absent => exact List.concat_eq_append ▸ unique.concat absent

theorem nodup_erase (key : κ) (entries : List (κ × α))
    (unique : (entries.map Prod.fst).Nodup) : ((erase key entries).map Prod.fst).Nodup :=
  unique.sublist (List.filter_sublist.map Prod.fst)

theorem set_fresh (key : κ) (value : α) (entries : List (κ × α)) (fresh : get key entries = none) :
    set key value entries = entries ++ [(key, value)] := by
  induction entries with
  | nil => rfl
  | cons entry rest ih =>
      obtain ⟨k, v⟩ := entry
      by_cases same : k = key
      · simp [get_cons, same] at fresh
      · simp only [get_cons, if_neg same] at fresh
        simp [set_cons, same, ih fresh]

theorem set_held (key : κ) (value : α) (entries : List (κ × α))
    (held : get key entries = some value) : set key value entries = entries := by
  induction entries with
  | nil => cases held
  | cons entry rest ih =>
      obtain ⟨k, v⟩ := entry
      by_cases same : k = key
      · simp only [get_cons, if_pos same] at held
        cases held
        simp [set_cons, same]
      · simp only [get_cons, if_neg same] at held
        simp [set_cons, same, ih held]

theorem erase_set (key : κ) (value : α) (entries : List (κ × α)) :
    erase key (set key value entries) = erase key entries := by
  induction entries with
  | nil => simp [set_nil, erase]
  | cons entry rest ih =>
      obtain ⟨k, v⟩ := entry
      unfold erase at ih ⊢
      by_cases same : k = key
      · simp [set_cons, same]
      · rw [set_cons, if_neg same, List.filter_cons_of_pos (by simpa using same), ih,
          List.filter_cons_of_pos (by simpa using same)]

theorem erase_fresh (key : κ) (entries : List (κ × α)) (fresh : get key entries = none) :
    erase key entries = entries := by
  induction entries with
  | nil => rfl
  | cons entry rest ih =>
      obtain ⟨k, v⟩ := entry
      by_cases same : k = key
      · simp [get_cons, same] at fresh
      · simp only [get_cons, if_neg same] at fresh
        have kept := ih fresh
        unfold erase at kept ⊢
        rw [List.filter_cons_of_pos (by simpa using same), kept]

theorem get_isSome (key : κ) (entries : List (κ × α)) :
    (get key entries).isSome ↔ key ∈ entries.map Prod.fst := by
  induction entries with
  | nil => simp [get_nil]
  | cons entry rest ih =>
      obtain ⟨k, v⟩ := entry
      by_cases same : k = key
      · simp [get_cons, same]
      · simp only [get_cons, if_neg same, List.map_cons, List.mem_cons, Ne.symm same, false_or]
        exact ih

theorem get_concat (key other : κ) (value : α) (entries : List (κ × α))
    (fresh : get key entries = none) :
    get other (entries ++ [(key, value)]) = if key = other then some value
      else get other entries := by
  rw [← set_fresh key value entries fresh, get_set]

theorem erase_concat (key : κ) (value : α) (entries : List (κ × α))
    (fresh : get key entries = none) : erase key (entries ++ [(key, value)]) = entries := by
  have kept := erase_fresh key entries fresh
  unfold erase at kept ⊢
  rw [List.filter_append, kept]
  simp

def adjust (key : κ) (f : α → α) : List (κ × α) → List (κ × α)
  | [] => []
  | (k, v) :: rest => if k = key then (k, f v) :: rest else (k, v) :: adjust key f rest

theorem adjust_nil (key : κ) (f : α → α) : adjust key f [] = [] := rfl

theorem adjust_cons (key : κ) (f : α → α) (entry : κ × α) (rest : List (κ × α)) :
    adjust key f (entry :: rest) =
      if entry.1 = key then (entry.1, f entry.2) :: rest else entry :: adjust key f rest := rfl

theorem get_adjust (key other : κ) (f : α → α) (entries : List (κ × α)) :
    get other (adjust key f entries) =
      if key = other then (get key entries).map f else get other entries := by
  induction entries with
  | nil => simp [adjust_nil, get_nil]
  | cons entry rest ih =>
      obtain ⟨k, v⟩ := entry
      by_cases same : k = key
      · subst same
        by_cases hit : k = other <;> simp [adjust_cons, get_cons, hit]
      · by_cases hit : k = other
        · subst hit
          simp [adjust_cons, get_cons, same, Ne.symm same]
        · simp [adjust_cons, get_cons, same, hit, ih]

theorem adjust_concat (key : κ) (value : α) (f : α → α) (entries : List (κ × α))
    (fresh : get key entries = none) :
    adjust key f (entries ++ [(key, value)]) = entries ++ [(key, f value)] := by
  induction entries with
  | nil => simp [adjust_cons]
  | cons entry rest ih =>
      obtain ⟨k, v⟩ := entry
      by_cases same : k = key
      · simp [get_cons, same] at fresh
      · simp only [get_cons, if_neg same] at fresh
        simp [adjust_cons, same, ih fresh]

theorem mem_iff_get (key : κ) (value : α) (entries : List (κ × α))
    (unique : (entries.map Prod.fst).Nodup) :
    (key, value) ∈ entries ↔ get key entries = some value := by
  induction entries with
  | nil => simp [get_nil]
  | cons entry rest ih =>
      obtain ⟨k, v⟩ := entry
      obtain ⟨outside, tailUnique⟩ := List.nodup_cons.mp unique
      by_cases same : k = key
      · subst same
        have absent : (k, value) ∉ rest := by
          intro member
          exact outside (List.mem_map.mpr ⟨_, member, rfl⟩)
        simp [get_cons, absent, eq_comm]
      · simp [get_cons, same, Ne.symm same, ih tailUnique]

end Assoc

/-- A dictionary carries the uniqueness of its keys. -/
structure Dict (κ α : Type) where
  entries : List (κ × α)
  unique : (entries.map Prod.fst).Nodup

namespace Dict

def empty : Dict κ α := ⟨[], List.nodup_nil⟩

def get (d : Dict κ α) (key : κ) : Option α := Assoc.get key d.entries

def set (d : Dict κ α) (key : κ) (value : α) : Dict κ α :=
  ⟨Assoc.set key value d.entries, Assoc.nodup_set key value d.entries d.unique⟩

/-- `d.pop(key, None)` with the popped value dropped. -/
def pop (d : Dict κ α) (key : κ) : Dict κ α :=
  ⟨Assoc.erase key d.entries, Assoc.nodup_erase key d.entries d.unique⟩

def setDefault (d : Dict κ α) (key : κ) (value : α) : Dict κ α :=
  if (d.get key).isSome then d else d.set key value

@[simp] theorem get_empty (key : κ) : (empty : Dict κ α).get key = none := rfl

theorem get_set (d : Dict κ α) (key other : κ) (value : α) :
    (d.set key value).get other = if key = other then some value else d.get other :=
  Assoc.get_set key other value d.entries

@[simp] theorem get_set_self (d : Dict κ α) (key : κ) (value : α) :
    (d.set key value).get key = some value := by
  rw [get_set, if_pos rfl]

theorem get_set_other (d : Dict κ α) (key other : κ) (value : α) (different : key ≠ other) :
    (d.set key value).get other = d.get other := by
  rw [get_set, if_neg different]

theorem get_pop (d : Dict κ α) (key other : κ) :
    (d.pop key).get other = if key = other then none else d.get other :=
  Assoc.get_erase key other d.entries

theorem get_setDefault (d : Dict κ α) (key other : κ) (value : α) :
    (d.setDefault key value).get other =
      if key = other then some ((d.get key).getD value) else d.get other := by
  unfold setDefault
  by_cases same : key = other
  · subst same
    cases present : d.get key <;> simp [present]
  · cases present : d.get key <;> simp [same, get_set_other]

def mapValues (d : Dict κ α) (f : κ → α → α) : Dict κ α where
  entries := d.entries.map fun entry => (entry.1, f entry.1 entry.2)
  unique := by
    rw [List.map_map]
    exact d.unique

theorem get_mapValues (d : Dict κ α) (f : κ → α → α) (key : κ) :
    (d.mapValues f).get key = (d.get key).map (f key) := by
  obtain ⟨entries, unique⟩ := d
  show Assoc.get key (entries.map fun entry => (entry.1, f entry.1 entry.2)) =
    (Assoc.get key entries).map (f key)
  clear unique
  induction entries with
  | nil => rfl
  | cons entry rest ih =>
      by_cases same : entry.1 = key
      · subst same
        simp [Assoc.get_cons]
      · simp only [List.map_cons, Assoc.get_cons, if_neg same, ih]

theorem mem_entries (d : Dict κ α) (key : κ) (value : α) :
    (key, value) ∈ d.entries ↔ d.get key = some value :=
  Assoc.mem_iff_get key value d.entries d.unique

section Index

variable (key : α → κ) (items : List α)

def indexLast : Dict κ α × Bool :=
  items.foldl (fun (indexed, twice) item =>
    (indexed.set (key item) item, twice || (indexed.get (key item)).isSome)) (.empty, false)

def indexFirst : Dict κ α :=
  items.foldl (fun indexed item => indexed.setDefault (key item) item) .empty

variable {key items}

theorem indexLast_concat (item : α) : indexLast key (items ++ [item]) =
    ((indexLast key items).1.set (key item) item,
      (indexLast key items).2 || ((indexLast key items).1.get (key item)).isSome) := by
  unfold indexLast
  rw [List.foldl_append]
  rfl

theorem indexFirst_concat (item : α) :
    indexFirst key (items ++ [item]) = (indexFirst key items).setDefault (key item) item := by
  unfold indexFirst
  rw [List.foldl_append]
  rfl

omit [DecidableEq κ] in
theorem concat_split {start front back : List α} {last item : α}
    (split : start ++ [last] = front ++ item :: back) :
    (back = [] ∧ start = front ∧ last = item) ∨
      ∃ middle, back = middle ++ [last] ∧ start = front ++ item :: middle := by
  rcases List.eq_nil_or_concat' back with rfl | ⟨middle, final, rfl⟩
  · obtain ⟨same, ends⟩ := List.append_inj' split rfl
    cases ends
    exact .inl ⟨rfl, same, rfl⟩
  · have both : start ++ [last] = (front ++ item :: middle) ++ [final] := by
      rw [split, List.append_assoc, List.cons_append]
    obtain ⟨same, ends⟩ := List.append_inj' both rfl
    cases ends
    exact .inr ⟨middle, rfl, same⟩

/-- What is found under a key is the last item that has it. -/
theorem indexLast_last {k : κ} {item : α} : (indexLast key items).1.get k = some item ↔
    key item = k ∧ ∃ front back, items = front ++ item :: back ∧ ∀ later ∈ back, key later ≠ k := by
  induction items using List.reverseRecOn with
  | nil => simp [indexLast]
  | append_singleton start last ih =>
      rw [indexLast_concat, get_set]
      by_cases own : key last = k
      · rw [if_pos own]
        constructor
        · intro same
          cases same
          exact ⟨own, start, [], rfl, nofun⟩
        · rintro ⟨_, front, back, split, later⟩
          rcases concat_split split with ⟨_, _, same⟩ | ⟨middle, rfl, _⟩
          · rw [same]
          · exact absurd own (later last (by simp))
      · rw [if_neg own, ih]
        constructor
        · rintro ⟨same, front, back, rfl, later⟩
          refine ⟨same, front, back ++ [last], by simp, ?_⟩
          intro other among
          rcases List.mem_append.mp among with before | final
          · exact later other before
          · rw [List.mem_singleton.mp final]
            exact own
        · rintro ⟨same, front, back, split, later⟩
          rcases concat_split split with ⟨_, _, ends⟩ | ⟨middle, rfl, starts⟩
          · exact absurd (ends ▸ same) own
          · exact ⟨same, front, middle, starts, fun other among => later other (by simp [among])⟩

theorem indexLast_mem {k : κ} {item : α} (held : (indexLast key items).1.get k = some item) :
    item ∈ items ∧ key item = k := by
  induction items using List.reverseRecOn with
  | nil => cases held
  | append_singleton front last ih =>
      rw [indexLast_concat, get_set] at held
      split at held
      · next same =>
          cases held
          exact ⟨by simp, same⟩
      · obtain ⟨among, same⟩ := ih held
        exact ⟨List.mem_append_left _ among, same⟩

theorem indexLast_isSome (k : κ) :
    ((indexLast key items).1.get k).isSome = true ↔ k ∈ items.map key := by
  induction items using List.reverseRecOn with
  | nil => simp [indexLast]
  | append_singleton front last ih =>
      rw [indexLast_concat, get_set, List.map_append, List.mem_append, ← ih]
      by_cases same : key last = k
      · simp [same]
      · simp [same, Ne.symm same]

theorem indexLast_twice : (indexLast key items).2 = false ↔ (items.map key).Nodup := by
  induction items using List.reverseRecOn with
  | nil => simp [indexLast]
  | append_singleton front last ih =>
      have known : ((indexLast key front).1.get (key last)).isSome = true ↔ _ := indexLast_isSome _
      rw [indexLast_concat, List.map_append, List.nodup_append]
      simp only [Bool.or_eq_false_iff, ih, List.map_cons, List.map_nil, List.nodup_singleton,
        List.mem_singleton, forall_eq, true_and]
      rw [← Bool.not_eq_true, known]
      constructor
      · rintro ⟨unique, fresh⟩
        exact ⟨unique, fun k among same => fresh (same ▸ among)⟩
      · rintro ⟨unique, apart⟩
        exact ⟨unique, fun among => apart _ among rfl⟩

theorem indexLast_get {k : κ} {item : α} (unique : (items.map key).Nodup) :
    (indexLast key items).1.get k = some item ↔ item ∈ items ∧ key item = k := by
  constructor
  · exact indexLast_mem
  · rintro ⟨among, rfl⟩
    obtain ⟨other, held⟩ := Option.isSome_iff_exists.mp
      ((indexLast_isSome (key item)).mpr (List.mem_map_of_mem among))
    obtain ⟨there, same⟩ := indexLast_mem held
    rw [held, List.inj_on_of_nodup_map unique there among same]

theorem indexFirst_mem {k : κ} {item : α} (held : (indexFirst key items).get k = some item) :
    item ∈ items ∧ key item = k := by
  induction items using List.reverseRecOn with
  | nil => cases held
  | append_singleton front last ih =>
      rw [indexFirst_concat, get_setDefault] at held
      split at held
      · next same =>
          cases known : (indexFirst key front).get (key last) with
          | none =>
              rw [known] at held
              cases held
              exact ⟨by simp, same⟩
          | some first =>
              rw [known] at held
              cases held
              obtain ⟨among, own⟩ := ih (same ▸ known)
              exact ⟨List.mem_append_left _ among, own⟩
      · obtain ⟨among, own⟩ := ih held
        exact ⟨List.mem_append_left _ among, own⟩

theorem indexFirst_find (k : κ) :
    (indexFirst key items).get k = items.find? fun item => decide (key item = k) := by
  induction items using List.reverseRecOn with
  | nil => rfl
  | append_singleton front last ih =>
      rw [indexFirst_concat, get_setDefault, List.find?_append, ← ih]
      by_cases same : key last = k
      · subst same
        have only : ([last].find? fun item => decide (key item = key last)) = some last := by simp
        rw [if_pos rfl, only]
        cases (indexFirst key front).get (key last) <;> rfl
      · rw [if_neg same, List.find?_cons_of_neg (by simpa using same), List.find?_nil,
          Option.or_none]

/-- Without repeated keys the first item of a key is the last. -/
theorem indexFirst_get (unique : (items.map key).Nodup) (k : κ) :
    (indexFirst key items).get k = (indexLast key items).1.get k := by
  induction items using List.reverseRecOn with
  | nil => rfl
  | append_singleton front last ih =>
      rw [List.map_append, List.nodup_append] at unique
      obtain ⟨before, _, apart⟩ := unique
      have absent : (indexLast key front).1.get (key last) = none := by
        rw [← Option.not_isSome_iff_eq_none, indexLast_isSome]
        intro among
        exact apart _ among _ (by simp) rfl
      rw [indexFirst_concat, indexLast_concat, get_setDefault, get_set, ih before]
      by_cases same : key last = k
      · subst same
        rw [if_pos rfl, if_pos rfl, ih before, absent]
        rfl
      · rw [if_neg same, if_neg same]

end Index

section FromKeys

theorem fromKeys_unique (keys : List κ) :
    keys.eraseDups.Nodup ∧ keys.eraseDups.length ≤ keys.length := by
  induction size : keys.length using Nat.strong_induction_on generalizing keys with
  | _ _ ih =>
      cases keys with
      | nil => simp
      | cons key rest =>
          have shorter := List.length_filter_le (fun other => !other == key) rest
          rw [List.length_cons] at size
          obtain ⟨unique, fits⟩ := ih _ (by omega) (rest.filter fun other => !other == key) rfl
          rw [List.eraseDups_cons, List.nodup_cons, List.length_cons]
          refine ⟨⟨?_, unique⟩, by omega⟩
          rw [List.mem_eraseDups, List.mem_filter]
          simp

end FromKeys

end Dict

end SynapseOS
