import SpendPolicy.Policy.Basic

set_option autoImplicit false

namespace SpendPolicy

structure Environment where
  signs : Text → Bool
  knows : HashAlgorithm → Bytes → Bool
  isAfter : Nat → Bool
  isOlder : Nat → Bool

namespace Environment

def keyless : Environment :=
  ⟨fun _ => false, fun _ _ => true, fun _ => true, fun _ => true⟩

end Environment

inductive Leaf where
  | key (name : Text)
  | after (value : Nat)
  | older (value : Nat)
  | hash (algorithm : HashAlgorithm) (digest : Bytes)
deriving DecidableEq, Repr

namespace Leaf

def key? : Leaf → Option Text
  | .key name => some name
  | .after _ | .older _ | .hash _ _ => none

def satisfied (env : Environment) : Leaf → Bool
  | .key name => env.signs name
  | .after value => env.isAfter value
  | .older value => env.isOlder value
  | .hash algorithm digest => env.knows algorithm digest

end Leaf

namespace Policy

mutual

def satisfied (env : Environment) : Policy → Bool
  | .key name => env.signs name
  | .after value => env.isAfter value
  | .older value => env.isOlder value
  | .hash algorithm digest => env.knows algorithm digest
  | .and left right => left.satisfied env && right.satisfied env
  | .or left right => left.satisfied env || right.satisfied env
  | .thresh required items => decide (required ≤ satisfiedCount env items)
  | .unknown => false

def satisfiedCount (env : Environment) : List Policy → Nat
  | [] => 0
  | item :: items => (if item.satisfied env then 1 else 0) + satisfiedCount env items

end

mutual

def leaves : Policy → List Leaf
  | .key name => [.key name]
  | .after value => [.after value]
  | .older value => [.older value]
  | .hash algorithm digest => [.hash algorithm digest]
  | .and left right | .or left right => left.leaves ++ right.leaves
  | .thresh _ items => leavesOfAll items
  | .unknown => []

def leavesOfAll : List Policy → List Leaf
  | [] => []
  | item :: items => item.leaves ++ leavesOfAll items

end

mutual

def thresholds : Policy → List (Nat × Nat)
  | .and left right | .or left right => left.thresholds ++ right.thresholds
  | .thresh required items => (required, items.length) :: thresholdsOfAll items
  | .key _ | .after _ | .older _ | .hash _ _ | .unknown => []

def thresholdsOfAll : List Policy → List (Nat × Nat)
  | [] => []
  | item :: items => item.thresholds ++ thresholdsOfAll items

end

@[simp] theorem satisfiedCount_eq_countP (env : Environment) (items : List Policy) :
    satisfiedCount env items = items.countP (satisfied env) := by
  induction items with
  | nil => simp [satisfiedCount]
  | cons item items ih => simp [satisfiedCount, ih, List.countP_cons, Nat.add_comm]

@[simp] theorem leavesOfAll_eq_flatMap (items : List Policy) :
    leavesOfAll items = items.flatMap leaves := by
  induction items with
  | nil => simp [leavesOfAll]
  | cons item items ih => simp [leavesOfAll, ih]

@[simp] theorem thresholdsOfAll_eq_flatMap (items : List Policy) :
    thresholdsOfAll items = items.flatMap thresholds := by
  induction items with
  | nil => simp [thresholdsOfAll]
  | cons item items ih => simp [thresholdsOfAll, ih]

mutual

theorem keys_eq_leaves (policy : Policy) : policy.keys = policy.leaves.filterMap Leaf.key? := by
  match policy with
  | .key _ | .after _ | .older _ | .hash _ _ | .unknown => rfl
  | .and left right | .or left right =>
    simp only [keys, leaves, List.filterMap_append, keys_eq_leaves left, keys_eq_leaves right]
  | .thresh _ items => exact keysOfAll_eq_leaves items

theorem keysOfAll_eq_leaves (items : List Policy) :
    keysOfAll items = (leavesOfAll items).filterMap Leaf.key? := by
  match items with
  | [] => rfl
  | item :: items =>
    simp only [keysOfAll, leavesOfAll, List.filterMap_append, keys_eq_leaves item,
      keysOfAll_eq_leaves items]

end

theorem mem_keys_iff {policy : Policy} {name : Text} :
    name ∈ policy.keys ↔ Leaf.key name ∈ policy.leaves := by
  rw [keys_eq_leaves, List.mem_filterMap]
  constructor
  · rintro ⟨leaf, member, names⟩
    cases leaf <;> cases names
    exact member
  · intro member
    exact ⟨.key name, member, rfl⟩

section Monotone

variable {env other : Environment}

mutual

theorem satisfied_mono {policy : Policy}
    (more : ∀ leaf ∈ policy.leaves, leaf.satisfied env = true → leaf.satisfied other = true)
    (holds : policy.satisfied env = true) : policy.satisfied other = true := by
  match policy with
  | .key name => exact more (.key name) (by simp [leaves]) holds
  | .after value => exact more (.after value) (by simp [leaves]) holds
  | .older value => exact more (.older value) (by simp [leaves]) holds
  | .hash algorithm digest => exact more (.hash algorithm digest) (by simp [leaves]) holds
  | .and left right =>
    obtain ⟨first, second⟩ := Bool.and_eq_true_iff.mp holds
    exact Bool.and_eq_true_iff.mpr
      ⟨satisfied_mono (fun leaf member => more leaf (List.mem_append_left _ member)) first,
        satisfied_mono (fun leaf member => more leaf (List.mem_append_right _ member)) second⟩
  | .or left right =>
    exact Bool.or_eq_true_iff.mpr ((Bool.or_eq_true_iff.mp holds).imp
      (satisfied_mono fun leaf member => more leaf (List.mem_append_left _ member))
      (satisfied_mono fun leaf member => more leaf (List.mem_append_right _ member)))
  | .thresh required items =>
    have enough : required ≤ satisfiedCount env items := of_decide_eq_true holds
    exact decide_eq_true (Nat.le_trans enough (satisfiedCount_mono more))

theorem satisfiedCount_mono {items : List Policy}
    (more : ∀ leaf ∈ leavesOfAll items, leaf.satisfied env = true → leaf.satisfied other = true) :
    satisfiedCount env items ≤ satisfiedCount other items := by
  match items with
  | [] => exact Nat.le_refl 0
  | item :: items =>
    have tail : satisfiedCount env items ≤ satisfiedCount other items :=
      satisfiedCount_mono fun leaf member => more leaf (List.mem_append_right _ member)
    have head : item.satisfied env = true → item.satisfied other = true :=
      satisfied_mono fun leaf member => more leaf (List.mem_append_left _ member)
    rw [satisfiedCount, satisfiedCount]
    split
    · next holds =>
      rw [if_pos (head holds)]
      omega
    · omega

end

end Monotone

theorem satisfied_keyless_of_unsigned {policy : Policy} {env : Environment}
    (unsigned : ∀ name ∈ policy.keys, env.signs name = false) (holds : policy.satisfied env = true) :
    policy.satisfied .keyless = true := by
  -- The two environments differ at the keys only, and of these none signs.
  apply satisfied_mono _ holds
  intro leaf member satisfied
  cases leaf with
  | key name =>
    have unheld := unsigned name (mem_keys_iff.mpr member)
    exact absurd satisfied (by simp [Leaf.satisfied, unheld])
  | after | older | hash => rfl

end Policy

end SpendPolicy
