import Mathlib.Data.Fintype.Basic
import Mathlib.Data.List.Nodup
import Mathlib.Tactic

/-! Offers under names, each with the rights that it needs: what a holder of rights can see, and
what a name stands for when it has to be unambiguous. -/

namespace SynapseOS.Offers

variable {ο ν π : Type} [DecidableEq ν] [DecidableEq π]

def only : List ο → Option ο
  | [item] => some item
  | _ => none

theorem only_some {items : List ο} {item : ο} : only items = some item ↔ items = [item] := by
  constructor
  · intro found
    match items, found with
    | [_], found => rw [Option.some.inj found]
  · intro alone
    rw [alone]
    rfl

theorem filter_only {items : List ο} {item : ο} {chosen : ο → Bool} (once : items.Nodup)
    (among : item ∈ items)
    (picked : chosen item = true) (alone : ∀ other ∈ items, chosen other = true → other = item) :
    items.filter chosen = [item] := by
  have there : item ∈ items.filter chosen := List.mem_filter.mpr ⟨among, picked⟩
  have same : ∀ other ∈ items.filter chosen, other = item := by
    intro other present
    obtain ⟨inside, passes⟩ := List.mem_filter.mp present
    exact alone other inside passes
  have copies := List.eq_replicate_of_mem same
  have short : (items.filter chosen).length ≤ 1 := by
    have distinct := once.filter chosen
    rw [copies] at distinct
    exact List.nodup_replicate.mp distinct
  have long := List.length_pos_of_mem there
  rw [copies, show (items.filter chosen).length = 1 by omega]
  rfl

variable (nameOf : ο → ν) (needs : ο → Finset π) (offers : List ο)

def candidates (name : ν) (rights : Finset π) : List ο :=
  offers.filter fun offer => decide (nameOf offer = name ∧ needs offer ⊆ rights)

def sole (name : ν) (rights : Finset π) : Option ο :=
  only (candidates nameOf needs offers name rights)

variable {nameOf needs offers} {name : ν} {rights more : Finset π} {offer : ο}

theorem mem_candidates : offer ∈ candidates nameOf needs offers name rights ↔
    offer ∈ offers ∧ nameOf offer = name ∧ needs offer ⊆ rights := by
  rw [candidates, List.mem_filter, decide_eq_true_eq]

theorem sole_candidate (found : sole nameOf needs offers name rights = some offer) :
    offer ∈ offers ∧ nameOf offer = name ∧ needs offer ⊆ rights := by
  have alone : candidates nameOf needs offers name rights = [offer] := only_some.mp found
  apply mem_candidates.mp
  rw [alone]
  exact List.mem_singleton_self offer

/-- Where no name is given twice, an offer that is open is what its name stands for. -/
theorem sole_open (distinct : (offers.map nameOf).Nodup) (among : offer ∈ offers)
    (enough : needs offer ⊆ rights) : sole nameOf needs offers (nameOf offer) rights =
      some offer := by
  apply only_some.mpr
  refine filter_only distinct.of_map among (decide_eq_true ⟨rfl, enough⟩) fun other inside picked =>
    ?_
  exact List.inj_on_of_nodup_map distinct inside among (of_decide_eq_true picked).1

theorem sole_grows (distinct : (offers.map nameOf).Nodup) (grown : rights ⊆ more)
    (found : sole nameOf needs offers name rights = some offer) :
    sole nameOf needs offers name more = some offer := by
  obtain ⟨among, named, enough⟩ := sole_candidate found
  rw [← named]
  exact sole_open distinct among (enough.trans grown)

theorem distinct_of_sole [Fintype π] (each : ∀ offer ∈ offers,
    ∃ found, sole nameOf needs offers (nameOf offer) Finset.univ = some found) :
      (offers.map nameOf).Nodup := by
  rw [List.Nodup, List.pairwise_map, List.pairwise_iff_forall_sublist]
  intro first second both same
  obtain ⟨found, sole_⟩ := each first (both.subset List.mem_cons_self)
  have alone : candidates nameOf needs offers (nameOf first) Finset.univ = [found] :=
    only_some.mp sole_
  have kept : [first, second].filter (fun offer => decide (nameOf offer = nameOf first ∧
      needs offer ⊆ Finset.univ)) = [first, second] := by
    simp [same]
  have inside : [first, second].Sublist
      (candidates nameOf needs offers (nameOf first) Finset.univ) := by
    rw [← kept]
    exact both.filter _
  rw [alone] at inside
  have short := inside.length_le
  simp at short

end SynapseOS.Offers
