import SpendPolicy.Miniscript.Typing
import SpendPolicy.Proofs.Policy.Meaning

set_option autoImplicit false

namespace SpendPolicy

namespace Leaf

-- An absolute value is compared with absolute values only, a relative one with relative ones.
def conflicts : Leaf → Leaf → Bool
  | .after value, .after other =>
    Locktime.isAbsoluteHeight value != Locktime.isAbsoluteHeight other
  | .older value, .older other => Locktime.isRelativeTime value != Locktime.isRelativeTime other
  | _, _ => false

def timelocks : Leaf → Timelocks
  | .after value => .ofAfter value
  | .older value => .ofOlder value
  | .key _ | .hash _ _ => .none

theorem conflicts_eq (first second : Leaf) :
    first.conflicts second = (first.timelocks.merge second.timelocks).mixes := by
  have differ (a b : Bool) : (a != b) = ((a || b) && (!a || !b)) := by
    cases a <;> cases b <;> rfl
  cases first <;> cases second <;>
    simp [conflicts, differ, timelocks, Timelocks.ofAfter, Timelocks.ofOlder, Timelocks.none,
      Timelocks.merge, Timelocks.mixes, Bool.and_comm]

end Leaf

namespace Timelocks

def ofLeaves (leaves : List Leaf) : Timelocks :=
  ⟨leaves.any (·.timelocks.absoluteHeight), leaves.any (·.timelocks.absoluteTime),
    leaves.any (·.timelocks.relativeHeight), leaves.any (·.timelocks.relativeTime)⟩

@[simp] theorem ofLeaves_nil : ofLeaves [] = none :=
  rfl

@[simp] theorem ofLeaves_singleton (leaf : Leaf) : ofLeaves [leaf] = leaf.timelocks := by
  simp [ofLeaves]

@[simp] theorem ofLeaves_append (leaves others : List Leaf) :
    ofLeaves (leaves ++ others) = (ofLeaves leaves).merge (ofLeaves others) := by
  simp only [ofLeaves, merge, List.any_append]

theorem merge_comm (x y : Timelocks) : x.merge y = y.merge x := by
  simp only [merge, Bool.or_comm]

@[simp] theorem none_merge (x : Timelocks) : none.merge x = x := by
  simp only [merge, none, Bool.false_or]

theorem merge_assoc (x y z : Timelocks) : (x.merge y).merge z = x.merge (y.merge z) := by
  simp only [merge, Bool.or_assoc]

theorem mixes_of_conflict {leaves : List Leaf} {first second : Leaf} (inFirst : first ∈ leaves)
    (inSecond : second ∈ leaves) (conflict : first.conflicts second = true) :
    (ofLeaves leaves).mixes = true := by
  have either (flag : Timelocks → Bool)
      (holds : flag first.timelocks = true ∨ flag second.timelocks = true) :
      leaves.any (fun leaf => flag leaf.timelocks) = true :=
    holds.elim (fun here => List.any_eq_true.mpr ⟨first, inFirst, here⟩)
      (fun here => List.any_eq_true.mpr ⟨second, inSecond, here⟩)
  rw [Leaf.conflicts_eq] at conflict
  simp only [mixes, merge, Bool.or_eq_true, Bool.and_eq_true] at conflict
  simp only [mixes, ofLeaves, Bool.or_eq_true, Bool.and_eq_true]
  exact conflict.imp (And.imp (either absoluteHeight) (either absoluteTime))
    (And.imp (either relativeHeight) (either relativeTime))

end Timelocks

namespace Policy

def conflicts (x y : Policy) : Bool :=
  x.leaves.any fun first => y.leaves.any first.conflicts

def anyTwo (related : Policy → Policy → Bool) : List Policy → Bool
  | [] => false
  | item :: items => items.any (related item) || anyTwo related items

mutual

/-- Two parts that have to hold together conflict. A threshold of one asks for one item only. -/
def mixes : Policy → Bool
  | .and left right => left.mixes || right.mixes || left.conflicts right
  | .or left right => left.mixes || right.mixes
  | .thresh required items => anyMixes items || (decide (2 ≤ required) && anyTwo conflicts items)
  | .key _ | .after _ | .older _ | .hash _ _ | .unknown => false

def anyMixes : List Policy → Bool
  | [] => false
  | item :: items => item.mixes || anyMixes items

end

mutual

/-- The policy without what stands below its thresholds of one. -/
def outsideOnes : Policy → Policy
  | .and left right => .and left.outsideOnes right.outsideOnes
  | .or left right => .or left.outsideOnes right.outsideOnes
  | .thresh required items => .thresh required (if required = 1 then [] else outsideOnesOfAll items)
  | .key name => .key name
  | .after value => .after value
  | .older value => .older value
  | .hash algorithm digest => .hash algorithm digest
  | .unknown => .unknown

def outsideOnesOfAll : List Policy → List Policy
  | [] => []
  | item :: items => item.outsideOnes :: outsideOnesOfAll items

end

mutual

def leavesBelowOnes : Policy → List Leaf
  | .and left right | .or left right => left.leavesBelowOnes ++ right.leavesBelowOnes
  | .thresh required items =>
    if required = 1 then leavesOfAll items else leavesBelowOnesOfAll items
  | .key _ | .after _ | .older _ | .hash _ _ | .unknown => []

def leavesBelowOnesOfAll : List Policy → List Leaf
  | [] => []
  | item :: items => item.leavesBelowOnes ++ leavesBelowOnesOfAll items

end

def conflictsBelowOnes (x y : Policy) : Bool :=
  (x.leavesBelowOnes.any fun first => y.leaves.any first.conflicts)
    || x.leaves.any fun first => y.leavesBelowOnes.any first.conflicts

mutual

/-- Two parts that have to hold together conflict in a leaf that stands below a threshold of one. -/
def mixesBelowOnes : Policy → Bool
  | .and left right =>
    left.mixesBelowOnes || right.mixesBelowOnes || left.conflictsBelowOnes right
  | .or left right => left.mixesBelowOnes || right.mixesBelowOnes
  | .thresh required items =>
    if required = 1 then anyMixes items
    else anyMixesBelowOnes items || (decide (2 ≤ required) && anyTwo conflictsBelowOnes items)
  | .key _ | .after _ | .older _ | .hash _ _ | .unknown => false

def anyMixesBelowOnes : List Policy → Bool
  | [] => false
  | item :: items => item.mixesBelowOnes || anyMixesBelowOnes items

end

@[simp] theorem anyMixes_eq_any (items : List Policy) : anyMixes items = items.any mixes := by
  induction items with
  | nil => simp [anyMixes]
  | cons item items ih => simp [anyMixes, ih]

@[simp] theorem outsideOnesOfAll_eq_map (items : List Policy) :
    outsideOnesOfAll items = items.map outsideOnes := by
  induction items with
  | nil => simp [outsideOnesOfAll]
  | cons item items ih => simp [outsideOnesOfAll, ih]

@[simp] theorem leavesBelowOnesOfAll_eq_flatMap (items : List Policy) :
    leavesBelowOnesOfAll items = items.flatMap leavesBelowOnes := by
  induction items with
  | nil => simp [leavesBelowOnesOfAll]
  | cons item items ih => simp [leavesBelowOnesOfAll, ih]

@[simp] theorem anyMixesBelowOnes_eq_any (items : List Policy) :
    anyMixesBelowOnes items = items.any mixesBelowOnes := by
  induction items with
  | nil => simp [anyMixesBelowOnes]
  | cons item items ih => simp [anyMixesBelowOnes, ih]

theorem conflicts_iff {x y : Policy} :
    x.conflicts y = true ↔ ∃ first ∈ x.leaves, ∃ second ∈ y.leaves, first.conflicts second = true := by
  simp [conflicts, List.any_eq_true]

def Clashes (leaves : List Leaf) : Prop :=
  ∃ first ∈ leaves, ∃ second ∈ leaves, first.conflicts second = true

theorem Clashes.mono {leaves others : List Leaf} (clash : Clashes leaves) (more : leaves ⊆ others) :
    Clashes others := by
  obtain ⟨first, inFirst, second, inSecond, conflict⟩ := clash
  exact ⟨first, more inFirst, second, more inSecond, conflict⟩

theorem clashes_of_conflicts {x y : Policy} {leaves : List Leaf} (conflict : x.conflicts y = true)
    (left : x.leaves ⊆ leaves) (right : y.leaves ⊆ leaves) : Clashes leaves := by
  obtain ⟨first, inFirst, second, inSecond, conflict⟩ := conflicts_iff.mp conflict
  exact ⟨first, left inFirst, second, right inSecond, conflict⟩

theorem clashes_of_anyTwo {items : List Policy} (conflict : anyTwo conflicts items = true) :
    Clashes (items.flatMap leaves) := by
  induction items with
  | nil => cases conflict
  | cons item items ih =>
    rw [List.flatMap_cons]
    rcases Bool.or_eq_true_iff.mp conflict with here | later
    · obtain ⟨other, member, conflict⟩ := List.any_eq_true.mp here
      exact clashes_of_conflicts conflict (List.subset_append_left _ _) fun leaf inside =>
        List.mem_append_right _ (List.mem_flatMap.mpr ⟨other, member, inside⟩)
    · exact (ih later).mono (List.subset_append_right _ _)

-- Wherever a policy joins two parts, their leaves are among its own.
mutual

theorem clashes_of_mixes {policy : Policy} (mix : policy.mixes = true) : Clashes policy.leaves := by
  match policy with
  | .and left right =>
    simp only [mixes, Bool.or_eq_true] at mix
    rcases mix with (mix | mix) | conflict
    · exact (clashes_of_mixes mix).mono (List.subset_append_left _ _)
    · exact (clashes_of_mixes mix).mono (List.subset_append_right _ _)
    · exact clashes_of_conflicts conflict (List.subset_append_left _ _)
        (List.subset_append_right _ _)
  | .or left right =>
    simp only [mixes, Bool.or_eq_true] at mix
    rcases mix with mix | mix
    · exact (clashes_of_mixes mix).mono (List.subset_append_left _ _)
    · exact (clashes_of_mixes mix).mono (List.subset_append_right _ _)
  | .thresh required items =>
    rw [mixes, Bool.or_eq_true, Bool.and_eq_true] at mix
    rcases mix with mix | ⟨_, conflict⟩
    · exact clashes_of_anyMixes mix
    · rw [leaves, leavesOfAll_eq_flatMap]
      exact clashes_of_anyTwo conflict
  | .key _ | .after _ | .older _ | .hash _ _ | .unknown => cases mix

theorem clashes_of_anyMixes {items : List Policy} (mix : anyMixes items = true) :
    Clashes (leavesOfAll items) := by
  match items with
  | [] => cases mix
  | item :: items =>
    rcases Bool.or_eq_true_iff.mp mix with here | later
    · exact (clashes_of_mixes here).mono (List.subset_append_left _ _)
    · exact (clashes_of_anyMixes later).mono (List.subset_append_right _ _)

end

theorem not_mixes_of_timelocks {policy : Policy}
    (apart : (Timelocks.ofLeaves policy.leaves).mixes = false) : policy.mixes = false := by
  cases mix : policy.mixes with
  | false => rfl
  | true =>
    obtain ⟨first, inFirst, second, inSecond, conflict⟩ := clashes_of_mixes mix
    simp [Timelocks.mixes_of_conflict inFirst inSecond conflict] at apart

section BelowOnes

mutual

theorem mem_leaves_iff (leaf : Leaf) (policy : Policy) :
    leaf ∈ policy.leaves ↔ leaf ∈ policy.outsideOnes.leaves ∨ leaf ∈ policy.leavesBelowOnes := by
  match policy with
  | .and left right | .or left right =>
    simp only [leaves, outsideOnes, leavesBelowOnes, List.mem_append, mem_leaves_iff leaf left,
      mem_leaves_iff leaf right]
    exact or_or_or_comm
  | .thresh required items =>
    by_cases one : required = 1
    · simp [leaves, outsideOnes, leavesBelowOnes, one]
    · simp only [leaves, outsideOnes, leavesBelowOnes, one, if_false]
      exact mem_leavesOfAll_iff leaf items
  | .key _ | .after _ | .older _ | .hash _ _ | .unknown =>
    simp [leaves, outsideOnes, leavesBelowOnes]

theorem mem_leavesOfAll_iff (leaf : Leaf) (items : List Policy) :
    leaf ∈ leavesOfAll items ↔
      leaf ∈ leavesOfAll (outsideOnesOfAll items) ∨ leaf ∈ leavesBelowOnesOfAll items := by
  match items with
  | [] => simp [leavesOfAll, leavesBelowOnesOfAll]
  | item :: items =>
    simp only [leavesOfAll, outsideOnesOfAll, leavesBelowOnesOfAll, List.mem_append,
      mem_leaves_iff leaf item, mem_leavesOfAll_iff leaf items]
    exact or_or_or_comm

end

theorem conflicts_eq (x y : Policy) :
    x.conflicts y = (x.outsideOnes.conflicts y.outsideOnes || x.conflictsBelowOnes y) := by
  rw [Bool.eq_iff_iff]
  simp only [conflicts, conflictsBelowOnes, List.any_eq_true, Bool.or_eq_true,
    mem_leaves_iff _ x, mem_leaves_iff _ y]
  grind

theorem anyTwo_conflicts_eq (items : List Policy) :
    anyTwo conflicts items =
      (anyTwo conflicts (items.map outsideOnes) || anyTwo conflictsBelowOnes items) := by
  have each (x : Policy) (items : List Policy) : items.any x.conflicts =
      ((items.map outsideOnes).any x.outsideOnes.conflicts || items.any x.conflictsBelowOnes) := by
    rw [Bool.eq_iff_iff]
    simp only [List.any_map, List.any_eq_true, Bool.or_eq_true, Function.comp_apply,
      conflicts_eq x, and_or_left, exists_or]
  induction items with
  | nil => rfl
  | cons item items ih =>
    rw [List.map_cons, anyTwo, anyTwo, anyTwo, each, ih]
    ac_rfl

mutual

theorem mixes_eq (policy : Policy) :
    policy.mixes = (policy.outsideOnes.mixes || policy.mixesBelowOnes) := by
  match policy with
  | .and left right =>
    rw [mixes, outsideOnes, mixes, mixesBelowOnes, mixes_eq left, mixes_eq right, conflicts_eq]
    ac_rfl
  | .or left right =>
    rw [mixes, outsideOnes, mixes, mixesBelowOnes, mixes_eq left, mixes_eq right]
    ac_rfl
  | .thresh required items =>
    by_cases one : required = 1
    · simp [mixes, outsideOnes, mixesBelowOnes, one]
    · rw [mixes, outsideOnes, mixes, mixesBelowOnes, if_neg one, if_neg one, anyMixes_eq items,
        anyTwo_conflicts_eq, ← outsideOnesOfAll_eq_map, Bool.and_or_distrib_left]
      ac_rfl
  | .key _ | .after _ | .older _ | .hash _ _ | .unknown => rfl

theorem anyMixes_eq (items : List Policy) :
    anyMixes items = (anyMixes (outsideOnesOfAll items) || anyMixesBelowOnes items) := by
  match items with
  | [] => rfl
  | item :: items =>
    rw [anyMixes, outsideOnesOfAll, anyMixes, anyMixesBelowOnes, mixes_eq item, anyMixes_eq items]
    ac_rfl

end

end BelowOnes

end Policy

end SpendPolicy
