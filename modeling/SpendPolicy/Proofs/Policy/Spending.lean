import SpendPolicy.Miniscript.Spending
import SpendPolicy.Proofs.Policy.Timelocks

set_option autoImplicit false

namespace SpendPolicy

attribute [ext] Spending

namespace Spending

def either (x y : Spending) : Spending :=
  { needsSignature := x.needsSignature && y.needsSignature
    forced := x.forced && y.forced
    expressive := x.expressive && y.expressive
    nonmalleable := x.nonmalleable && y.nonmalleable }

def item (x : Spending) : Spending :=
  if x.expressive then x else .wrap .l x

variable {x y : Spending} {required : Nat} {items others : List Spending}

theorem andV_comm (x y : Spending) : x.andV y = y.andV x := by
  simp only [andV, Bool.or_comm, Bool.and_comm]

theorem either_comm (x y : Spending) : x.either y = y.either x := by
  simp only [either, Bool.and_comm]

theorem thresh_perm (perm : items.Perm others) : thresh required others = thresh required items := by
  simp only [thresh, perm.length_eq, perm.countP_eq, perm.all_eq]

theorem nonmalleable_item (x : Spending) : x.item.nonmalleable = x.nonmalleable := by
  unfold item
  split
  · rfl
  · simp [wrap, orI, zero]

theorem expressive_item (x : Spending) : x.item.expressive = (x.expressive || x.forced) := by
  unfold item
  split
  · next expressive => rw [expressive, Bool.true_or]
  · next dull => simp [wrap, orI, zero, dull]

theorem thresh_nonmalleable_iff : (thresh required items).nonmalleable = true ↔
    (∀ item ∈ items, item.expressive = true ∧ item.nonmalleable = true) ∧
      items.length ≤ items.countP needsSignature + required := by
  simp [thresh, forall_and]

end Spending

namespace Timelocks

theorem ofLeaves_perm {leaves others : List Leaf} (perm : leaves.Perm others) :
    ofLeaves others = ofLeaves leaves := by
  simp only [ofLeaves, perm.any_eq]

theorem exists_conflict_of_mixes {leaves : List Leaf} (mix : (ofLeaves leaves).mixes = true) :
    ∃ first ∈ leaves, ∃ second ∈ leaves, first.conflicts second = true := by
  simp only [mixes, ofLeaves, Bool.or_eq_true, Bool.and_eq_true, List.any_eq_true] at mix
  simp only [Leaf.conflicts_eq, mixes, merge, Bool.or_eq_true, Bool.and_eq_true]
  rcases mix with ⟨⟨first, here, height⟩, second, there, time⟩ |
    ⟨⟨first, here, height⟩, second, there, time⟩
  · exact ⟨first, here, second, there, .inl ⟨.inl height, .inr time⟩⟩
  · exact ⟨first, here, second, there, .inr ⟨.inl height, .inr time⟩⟩

theorem mixes_mono {leaves others : List Leaf} (fewer : leaves ⊆ others)
    (mix : (ofLeaves leaves).mixes = true) : (ofLeaves others).mixes = true := by
  obtain ⟨first, here, second, there, conflict⟩ := exists_conflict_of_mixes mix
  exact mixes_of_conflict (fewer here) (fewer there) conflict

end Timelocks

namespace Policy

mutual

def spending : Policy → Spending
  | .key _ => .key
  | .after _ | .older _ => .timelock
  | .hash _ _ => .hash
  | .and left right => left.spending.andV right.spending
  | .or left right => left.spending.either right.spending
  | .thresh required items => .thresh required (itemSpendings items)
  | .unknown => ⟨false, false, false, false⟩

def itemSpendings : List Policy → List Spending
  | [] => []
  | item :: items => item.spending.item :: itemSpendings items

end

def asksForOne : Policy → Bool
  | .thresh required _ => required == 1
  | .key _ | .after _ | .older _ | .hash _ _ | .and _ _ | .or _ _ | .unknown => false

mutual

def nestsOnes : Policy → Bool
  | .and left right | .or left right => left.nestsOnes || right.nestsOnes
  | .thresh required items => (required != 1 && items.any asksForOne) || anyNestsOnes items
  | .key _ | .after _ | .older _ | .hash _ _ | .unknown => false

def anyNestsOnes : List Policy → Bool
  | [] => false
  | item :: items => item.nestsOnes || anyNestsOnes items

end

/-- The mixes that the analysis finds in a policy that needs a signature. Outside the thresholds of one
all timelocks below a conjunction or a threshold count, those of alternatives included. -/
def reportsMix : Policy → Bool
  | .and left right => (Timelocks.ofLeaves (left.outsideOnes.leaves ++ right.outsideOnes.leaves)).mixes
  | .or left right => left.reportsMix || right.reportsMix
  | .thresh required items => (Timelocks.ofLeaves (outsideOnes (.thresh required items)).leaves).mixes
  | .key _ | .after _ | .older _ | .hash _ _ | .unknown => false

structure Sane (policy : Policy) : Prop where
  signature : policy.spending.needsSignature = true
  nonmalleable : policy.spending.nonmalleable = true
  determined : policy.nestsOnes = false
  unmixed : policy.reportsMix = false

@[simp] theorem itemSpendings_eq_map (items : List Policy) :
    itemSpendings items = items.map fun item => item.spending.item := by
  induction items with
  | nil => simp [itemSpendings]
  | cons item items ih => simp [itemSpendings, ih]

@[simp] theorem anyNestsOnes_eq_any (items : List Policy) :
    anyNestsOnes items = items.any nestsOnes := by
  induction items with
  | nil => simp [anyNestsOnes]
  | cons item items ih => simp [anyNestsOnes, ih]

namespace Sane

variable {left right : Policy}

theorem or (first : left.Sane) (second : right.Sane) : (Policy.or left right).Sane where
  signature := Bool.and_eq_true_iff.mpr ⟨first.signature, second.signature⟩
  nonmalleable := Bool.and_eq_true_iff.mpr ⟨first.nonmalleable, second.nonmalleable⟩
  determined := Bool.or_eq_false_iff.mpr ⟨first.determined, second.determined⟩
  unmixed := Bool.or_eq_false_iff.mpr ⟨first.unmixed, second.unmixed⟩

theorem and (first : left.Sane) (second : right.Sane)
    (apart : (Timelocks.ofLeaves (left.leaves ++ right.leaves)).mixes = false) :
    (Policy.and left right).Sane where
  signature := Bool.or_eq_true_iff.mpr (.inl first.signature)
  nonmalleable := Bool.and_eq_true_iff.mpr ⟨first.nonmalleable, second.nonmalleable⟩
  determined := Bool.or_eq_false_iff.mpr ⟨first.determined, second.determined⟩
  unmixed := by
    have outside : left.outsideOnes.leaves ++ right.outsideOnes.leaves ⊆ left.leaves ++ right.leaves := by
      intro leaf member
      rw [List.mem_append] at member ⊢
      exact member.imp (fun here => (mem_leaves_iff leaf left).mpr (.inl here))
        fun there => (mem_leaves_iff leaf right).mpr (.inl there)
    rw [Bool.eq_false_iff] at apart ⊢
    exact apart ∘ Timelocks.mixes_mono outside

end Sane

end Policy

end SpendPolicy
