import SynapseOS.Lib.Dict

/-! Items grouped under their keys in a dictionary of lists, and dictionaries rebuilt value by
value. -/

namespace SynapseOS

namespace Dict

variable {κ α β ε : Type} [DecidableEq κ]

/-- `d[key].append(value)`, where a fresh key has the empty list. -/
def append (d : Dict κ (List α)) (key : κ) (value : α) : Dict κ (List α) :=
  d.set key ((d.get key).getD [] ++ [value])

section Gathers

variable {ι : Type} (key : ι → Option κ) (value : ι → α)

def valuesAt (items : List ι) (k : κ) : List α :=
  items.filterMap fun item => if key item = some k then some (value item) else none

def Gathers (items : List ι) (d : Dict κ (List α)) : Prop :=
  ∀ k, d.get k = if valuesAt key value items k = [] then none else some (valuesAt key value items k)

variable {key value}

theorem valuesAt_concat (items : List ι) (item : ι) (k : κ) :
    valuesAt key value (items ++ [item]) k =
    valuesAt key value items k ++ if key item = some k then [value item] else [] := by
  unfold valuesAt
  rw [List.filterMap_append]
  congr 1
  by_cases own : key item = some k
  · simp [own]
  · simp [own]

theorem valuesAt_perm {items others : List ι} (same : items.Perm others) (k : κ) :
    (valuesAt key value items k).Perm (valuesAt key value others k) :=
  same.filterMap _

theorem mem_valuesAt {items : List ι} {k : κ} {v : α} :
    v ∈ valuesAt key value items k ↔ ∃ item ∈ items, key item = some k ∧ value item = v := by
  unfold valuesAt
  rw [List.mem_filterMap]
  constructor
  · rintro ⟨item, member, found⟩
    by_cases own : key item = some k
    · rw [if_pos own] at found
      exact ⟨item, member, own, Option.some.inj found⟩
    · rw [if_neg own] at found
      cases found
  · rintro ⟨item, member, own, same⟩
    exact ⟨item, member, by rw [if_pos own, same]⟩

theorem valuesAt_related {related : α → α → Prop} {items others : List ι}
    (each : List.Forall₂ (fun i j => key i = key j ∧ related (value i) (value j)) items others)
    (k : κ) : List.Forall₂ related (valuesAt key value items k) (valuesAt key value others k) := by
  induction each with
  | nil => exact .nil
  | @cons item other _ _ step _ ih =>
      unfold valuesAt at ih ⊢
      by_cases own : key item = some k
      · have same : key other = some k := step.1 ▸ own
        simp only [List.filterMap_cons, if_pos own, if_pos same]
        exact .cons step.2 ih
      · have apart : ¬ key other = some k := step.1 ▸ own
        simp only [List.filterMap_cons, if_neg own, if_neg apart]
        exact ih

theorem valuesAt_filter {kept : ι → Bool} {k : κ}
    (keeps : ∀ item, key item = some k → kept item = true)
    (items : List ι) : valuesAt key value (items.filter kept) k = valuesAt key value items k := by
  unfold valuesAt
  rw [List.filterMap_filter]
  apply List.filterMap_congr
  intro item _
  by_cases own : key item = some k
  · rw [if_pos (keeps item own)]
  · simp [own]

theorem gathers_nil : Gathers key value [] (.empty : Dict κ (List α)) := by
  intro k
  rfl

theorem gathers_append {items : List ι} {d : Dict κ (List α)} (gathered : Gathers key value items d)
    {item : ι} {k : κ} (own : key item = some k) :
    Gathers key value (items ++ [item]) (d.append k (value item)) := by
  intro other
  rw [append, get_set, gathered k, valuesAt_concat, own]
  by_cases same : k = other
  · subst same
    by_cases none_ : valuesAt key value items k = []
    · simp [none_]
    · simp [none_]
  · have apart : ¬ some k = some other := fun equal => same (Option.some.inj equal)
    rw [if_neg same, if_neg apart, List.append_nil]
    exact gathered other

theorem gathers_skip {items : List ι} {d : Dict κ (List α)} (gathered : Gathers key value items d)
    {item : ι} (keyless : key item = none) : Gathers key value (items ++ [item]) d := by
  intro other
  have same : valuesAt key value (items ++ [item]) other = valuesAt key value items other := by
    rw [valuesAt_concat, keyless]
    simp
  rw [same]
  exact gathered other

end Gathers

/-- `{key: f(value) for key, value in d.items()}`. -/
def comprehend (f : α → Except ε β) (d : Dict κ α) : Except ε (Dict κ β) :=
  d.entries.foldlM (fun made entry => return made.set entry.1 (← f entry.2)) .empty

theorem foldlM_comprehend {f : α → Except ε β} {g : α → β} (entries : List (κ × α))
    (start : Dict κ β)
    (made : ∀ entry ∈ entries, f entry.2 = .ok (g entry.2))
    (unique : (entries.map Prod.fst).Nodup) :
    ∃ d, entries.foldlM (fun made entry => return made.set entry.1 (← f entry.2)) start = .ok d ∧
      ∀ k, d.get k = ((Assoc.get k entries).map g).or (start.get k) := by
  induction entries generalizing start with
  | nil => exact ⟨start, rfl, fun _ => rfl⟩
  | cons entry rest ih =>
      obtain ⟨outside, restUnique⟩ := List.nodup_cons.mp unique
      obtain ⟨d, run, found⟩ := ih (start.set entry.1 (g entry.2))
        (fun later member => made later (List.mem_cons_of_mem _ member)) restUnique
      refine ⟨d, ?_, fun k => ?_⟩
      · rw [List.foldlM_cons, made entry List.mem_cons_self]
        exact run
      · rw [found k, get_set]
        by_cases own : entry.1 = k
        · have absent : Assoc.get k rest = none := by
            rw [← Option.not_isSome_iff_eq_none, Assoc.get_isSome, ← own]
            exact outside
          simp [Assoc.get, own, absent]
        · simp [Assoc.get, own]

theorem comprehend_made {f : α → Except ε β} {g : α → β} (d : Dict κ α)
    (made : ∀ k value, d.get k = some value → f value = .ok (g value)) :
    ∃ e, d.comprehend f = .ok e ∧ ∀ k, e.get k = (d.get k).map g := by
  have each : ∀ entry ∈ d.entries, f entry.2 = .ok (g entry.2) := fun entry member =>
    made entry.1 entry.2 ((mem_entries d entry.1 entry.2).mp member)
  obtain ⟨e, run, found⟩ := foldlM_comprehend d.entries .empty each d.unique
  refine ⟨e, run, fun k => ?_⟩
  rw [found k, get_empty, Option.or_none]
  rfl

section Gathered

variable {ι : Type} {key : ι → Option κ} {value : ι → α} {items : List ι} {d : Dict κ (List α)}

/-- A comprehension that can be made of every list that has an item. -/
theorem comprehend_gathers (gathered : Gathers key value items d) {f : List α → Except ε β}
    {g : List α → β} (made : ∀ values, values ≠ [] → f values = .ok (g values)) :
    ∃ e, d.comprehend f = .ok e ∧ ∀ k, e.get k =
      if valuesAt key value items k = [] then none else some (g (valuesAt key value items k)) := by
  have each : ∀ k values, d.get k = some values → f values = .ok (g values) := by
    intro k values held
    rw [gathered k] at held
    by_cases none_ : valuesAt key value items k = []
    · rw [if_pos none_] at held
      cases held
    · rw [if_neg none_] at held
      cases held
      exact made _ none_
  obtain ⟨e, run, found⟩ := d.comprehend_made each
  refine ⟨e, run, fun k => ?_⟩
  rw [found k, gathered k]
  split
  · rfl
  · rfl

end Gathered

end Dict

end SynapseOS
