import SpendPolicy.Proofs.Policy.Meaning
import SpendPolicy.Proofs.Policy.WellFormed

set_option autoImplicit false

namespace SpendPolicy

def Leaf.Legible : Leaf → Prop
  | .key name => Policy.Plain name
  | .after value | .older value => Numeral.Legible value
  | .hash _ _ => True

namespace Policy

structure Legible (policy : Policy) : Prop where
  leaves : ∀ leaf ∈ policy.leaves, leaf.Legible
  thresholds : ∀ threshold ∈ policy.thresholds, Numeral.Legible threshold.1 ∧ 0 < threshold.2

theorem Legible.plain {policy : Policy} (legible : policy.Legible) {name : Text}
    (member : name ∈ policy.keys) : Plain name :=
  legible.leaves (.key name) (mem_keys_iff.mp member)

theorem legible_of_isInRange {value : Nat} (range : Locktime.isInRange value = true) :
    Numeral.Legible value := by
  simp only [Locktime.isInRange, Bool.and_eq_true, decide_eq_true_eq] at range
  have bounded : value ≤ Locktime.maximum := by omega
  unfold Locktime.maximum at bounded
  calc value < 10 ^ 10 := by omega
    _ ≤ 10 ^ Numeral.maxDigits := Nat.pow_le_pow_right (by decide) (by decide)

theorem legible_leaf {policy : Policy} {leaf : Leaf} (single : policy.leaves = [leaf])
    (none : policy.thresholds = []) (legible : leaf.Legible) : policy.Legible := by
  constructor
  · intro other member
    rw [single] at member
    exact List.mem_singleton.mp member ▸ legible
  · simp [none]

theorem legible_both {policy left right : Policy} (leavesOf : policy.leaves = left.leaves ++ right.leaves)
    (thresholdsOf : policy.thresholds = left.thresholds ++ right.thresholds) (first : left.Legible)
    (second : right.Legible) : policy.Legible := by
  constructor
  · rw [leavesOf]
    exact List.forall_mem_append.mpr ⟨first.leaves, second.leaves⟩
  · rw [thresholdsOf]
    exact List.forall_mem_append.mpr ⟨first.thresholds, second.thresholds⟩

mutual

theorem WellFormed.legible {policy : Policy} (wellFormed : policy.WellFormed) : policy.Legible := by
  match policy with
  | .key _ => exact legible_leaf rfl rfl (IsName.plain wellFormed)
  | .after _ | .older _ => exact legible_leaf rfl rfl (legible_of_isInRange wellFormed)
  | .hash _ _ => exact legible_leaf rfl rfl trivial
  | .and left right | .or left right =>
    exact legible_both rfl rfl wellFormed.1.legible wellFormed.2.legible
  | .thresh required items =>
    obtain ⟨positive, bounded, number, each⟩ := wellFormed
    obtain ⟨inLeaves, inThresholds⟩ := each.legible
    exact ⟨inLeaves, List.forall_mem_cons.mpr ⟨⟨number, by omega⟩, inThresholds⟩⟩
  | .unknown => exact wellFormed.elim

theorem AllWellFormed.legible {items : List Policy} (each : AllWellFormed items) :
    (∀ leaf ∈ leavesOfAll items, leaf.Legible) ∧
      ∀ threshold ∈ thresholdsOfAll items, Numeral.Legible threshold.1 ∧ 0 < threshold.2 := by
  match items with
  | [] => simp [leavesOfAll, thresholdsOfAll]
  | item :: items =>
    have head := each.1.legible
    obtain ⟨inLeaves, inThresholds⟩ := AllWellFormed.legible each.2
    exact ⟨List.forall_mem_append.mpr ⟨head.leaves, inLeaves⟩,
      List.forall_mem_append.mpr ⟨head.thresholds, inThresholds⟩⟩

end

theorem legible_of_read {s : Text} {policy : Policy} (reads : read s = .ok policy) :
    policy.Legible :=
  (wellFormed_of_read reads).legible

end Policy

end SpendPolicy
