import Mathlib.Logic.Relation
import SpendPolicy.Proofs.Policy.Spending
import SpendPolicy.Proofs.Policy.WellFormed

set_option autoImplicit false

namespace SpendPolicy.Policy

inductive Parts where
  | operands
  | items

inductive Exchange (parts : Parts) : Policy → Policy → Prop
  | and (chosen : parts = .operands) (left right : Policy) :
    Exchange parts (.and left right) (.and right left)
  | or (chosen : parts = .operands) (left right : Policy) :
    Exchange parts (.or left right) (.or right left)
  | thresh (chosen : parts = .items) (required : Nat) {items moved : List Policy}
    (perm : items.Perm moved) : Exchange parts (.thresh required items) (.thresh required moved)
  | andLeft {left other : Policy} (inner : Exchange parts left other) (right : Policy) :
    Exchange parts (.and left right) (.and other right)
  | andRight {right other : Policy} (left : Policy) (inner : Exchange parts right other) :
    Exchange parts (.and left right) (.and left other)
  | orLeft {left other : Policy} (inner : Exchange parts left other) (right : Policy) :
    Exchange parts (.or left right) (.or other right)
  | orRight {right other : Policy} (left : Policy) (inner : Exchange parts right other) :
    Exchange parts (.or left right) (.or left other)
  | item (required : Nat) (before after : List Policy) {item other : Policy}
    (inner : Exchange parts item other) :
    Exchange parts (.thresh required (before ++ item :: after))
      (.thresh required (before ++ other :: after))

def Rearranged (parts : Parts) : Policy → Policy → Prop :=
  Relation.ReflTransGen (Exchange parts)

structure SameAnalysis (policy other : Policy) : Prop where
  spending : other.spending = policy.spending
  outside : Timelocks.ofLeaves other.outsideOnes.leaves = .ofLeaves policy.outsideOnes.leaves
  asksForOne : other.asksForOne = policy.asksForOne
  nestsOnes : other.nestsOnes = policy.nestsOnes
  reportsMix : other.reportsMix = policy.reportsMix

namespace SameAnalysis

variable {policy other last left right x y : Policy}

theorem refl (policy : Policy) : SameAnalysis policy policy :=
  ⟨rfl, rfl, rfl, rfl, rfl⟩

theorem trans (first : SameAnalysis policy other) (second : SameAnalysis other last) :
    SameAnalysis policy last where
  spending := second.spending.trans first.spending
  outside := second.outside.trans first.outside
  asksForOne := second.asksForOne.trans first.asksForOne
  nestsOnes := second.nestsOnes.trans first.nestsOnes
  reportsMix := second.reportsMix.trans first.reportsMix

theorem sane (same : SameAnalysis policy other) (sane : policy.Sane) : other.Sane where
  signature := same.spending ▸ sane.signature
  nonmalleable := same.spending ▸ sane.nonmalleable
  determined := same.nestsOnes ▸ sane.determined
  unmixed := same.reportsMix ▸ sane.unmixed

theorem sane_iff (same : SameAnalysis policy other) : other.Sane ↔ policy.Sane :=
  ⟨(⟨same.spending.symm, same.outside.symm, same.asksForOne.symm, same.nestsOnes.symm,
    same.reportsMix.symm⟩ : SameAnalysis other policy).sane, same.sane⟩

theorem and (first : SameAnalysis left x) (second : SameAnalysis right y) :
    SameAnalysis (.and left right) (.and x y) where
  spending := by rw [Policy.spending, first.spending, second.spending, Policy.spending]
  outside := by simp [outsideOnes, leaves, first.outside, second.outside]
  asksForOne := rfl
  nestsOnes := by rw [Policy.nestsOnes, first.nestsOnes, second.nestsOnes, Policy.nestsOnes]
  reportsMix := by simp [Policy.reportsMix, first.outside, second.outside]

theorem or (first : SameAnalysis left x) (second : SameAnalysis right y) :
    SameAnalysis (.or left right) (.or x y) where
  spending := by rw [Policy.spending, first.spending, second.spending, Policy.spending]
  outside := by simp [outsideOnes, leaves, first.outside, second.outside]
  asksForOne := rfl
  nestsOnes := by rw [Policy.nestsOnes, first.nestsOnes, second.nestsOnes, Policy.nestsOnes]
  reportsMix := by rw [Policy.reportsMix, first.reportsMix, second.reportsMix, Policy.reportsMix]

theorem and_swap (left right : Policy) : SameAnalysis (.and left right) (.and right left) where
  spending := Spending.andV_comm right.spending left.spending
  outside := by simp [outsideOnes, leaves, Timelocks.merge_comm]
  asksForOne := rfl
  nestsOnes := Bool.or_comm right.nestsOnes left.nestsOnes
  reportsMix := by simp [Policy.reportsMix, Timelocks.merge_comm]

theorem or_swap (left right : Policy) : SameAnalysis (.or left right) (.or right left) where
  spending := Spending.either_comm right.spending left.spending
  outside := by simp [outsideOnes, leaves, Timelocks.merge_comm]
  asksForOne := rfl
  nestsOnes := Bool.or_comm right.nestsOnes left.nestsOnes
  reportsMix := Bool.or_comm right.reportsMix left.reportsMix

theorem thresh {required : Nat} {items moved : List Policy}
    (spending : (itemSpendings items).Perm (itemSpendings moved))
    (outside : Timelocks.ofLeaves (leavesOfAll (outsideOnesOfAll moved)) =
      .ofLeaves (leavesOfAll (outsideOnesOfAll items)))
    (asksForOne : moved.any Policy.asksForOne = items.any Policy.asksForOne)
    (nestsOnes : moved.any Policy.nestsOnes = items.any Policy.nestsOnes) :
    SameAnalysis (.thresh required items) (.thresh required moved) := by
  have shown : Timelocks.ofLeaves (outsideOnes (.thresh required moved)).leaves =
      .ofLeaves (outsideOnes (.thresh required items)).leaves := by
    by_cases one : required = 1
    · simp [outsideOnes, leaves, one]
    · simpa [outsideOnes, leaves, one] using outside
  refine ⟨Spending.thresh_perm spending, shown, rfl, ?_, ?_⟩
  · simp only [Policy.nestsOnes, anyNestsOnes_eq_any, asksForOne, nestsOnes]
  · exact congrArg Timelocks.mixes shown

theorem thresh_perm (required : Nat) {items moved : List Policy} (perm : items.Perm moved) :
    SameAnalysis (.thresh required items) (.thresh required moved) := by
  apply thresh
  · rw [itemSpendings_eq_map, itemSpendings_eq_map]
    exact perm.map _
  · apply Timelocks.ofLeaves_perm
    simp only [leavesOfAll_eq_flatMap, outsideOnesOfAll_eq_map]
    exact (perm.map _).flatMap_right _
  · exact perm.symm.any_eq
  · exact perm.symm.any_eq

theorem thresh_item (required : Nat) (before after : List Policy) (same : SameAnalysis policy other) :
    SameAnalysis (.thresh required (before ++ policy :: after))
      (.thresh required (before ++ other :: after)) := by
  apply thresh
  · simp [same.spending]
  · simp [same.outside]
  · simp [same.asksForOne]
  · simp [same.nestsOnes]

end SameAnalysis

section Exchange

variable {parts : Parts} {policy other : Policy}

theorem Exchange.sameAnalysis (exchange : Exchange parts policy other) :
    SameAnalysis policy other := by
  induction exchange with
  | and _ left right => exact .and_swap left right
  | or _ left right => exact .or_swap left right
  | thresh _ required perm => exact .thresh_perm required perm
  | andLeft _ right ih => exact .and ih (.refl right)
  | andRight left _ ih => exact .and (.refl left) ih
  | orLeft _ right ih => exact .or ih (.refl right)
  | orRight left _ ih => exact .or (.refl left) ih
  | item required before after _ ih => exact .thresh_item required before after ih

theorem Exchange.leaves_perm (exchange : Exchange parts policy other) :
    policy.leaves.Perm other.leaves := by
  induction exchange with
  | and _ left right | or _ left right => exact List.perm_append_comm
  | thresh _ _ perm =>
    simp only [leaves, leavesOfAll_eq_flatMap]
    exact perm.flatMap_right _
  | andLeft _ right ih | orLeft _ right ih => exact ih.append_right _
  | andRight left _ ih | orRight left _ ih => exact ih.append_left _
  | item _ before after _ ih =>
    simp only [leaves, leavesOfAll_eq_flatMap, List.flatMap_append, List.flatMap_cons]
    exact (ih.append_right _).append_left _

theorem Exchange.wellFormed (exchange : Exchange parts policy other)
    (wellFormed : policy.WellFormed) : other.WellFormed := by
  induction exchange with
  | and | or => exact wellFormed.symm
  | thresh _ _ perm =>
    obtain ⟨positive, bounded, legible, each⟩ := wellFormed
    refine ⟨positive, perm.length_eq ▸ bounded, legible, allWellFormed_iff.mpr ?_⟩
    exact fun item inside => allWellFormed_iff.mp each item (perm.mem_iff.mpr inside)
  | andLeft _ _ ih | orLeft _ _ ih => exact ⟨ih wellFormed.1, wellFormed.2⟩
  | andRight _ _ ih | orRight _ _ ih => exact ⟨wellFormed.1, ih wellFormed.2⟩
  | item _ before after _ ih =>
    obtain ⟨positive, bounded, legible, each⟩ := wellFormed
    refine ⟨positive, by simpa using bounded, legible, ?_⟩
    simp only [allWellFormed_iff, List.forall_mem_append, List.forall_mem_cons] at each ⊢
    exact ⟨each.1, ih each.2.1, each.2.2⟩

namespace Rearranged

theorem sameAnalysis (rearranged : Rearranged parts policy other) : SameAnalysis policy other := by
  induction rearranged with
  | refl => exact .refl policy
  | tail _ exchange ih => exact ih.trans exchange.sameAnalysis

theorem leaves_perm (rearranged : Rearranged parts policy other) :
    policy.leaves.Perm other.leaves := by
  induction rearranged with
  | refl => exact .refl _
  | tail _ exchange ih => exact ih.trans exchange.leaves_perm

theorem keys_nodup_iff (rearranged : Rearranged parts policy other) :
    other.keys.Nodup ↔ policy.keys.Nodup := by
  rw [keys_eq_leaves, keys_eq_leaves]
  exact (rearranged.leaves_perm.filterMap _).nodup_iff.symm

theorem wellFormed (rearranged : Rearranged parts policy other) (wellFormed : policy.WellFormed) :
    other.WellFormed := by
  induction rearranged with
  | refl => exact wellFormed
  | tail _ exchange ih => exact exchange.wellFormed ih

end Rearranged

end Exchange

end SpendPolicy.Policy
