import SpendPolicy.Miniscript.Basic
import SpendPolicy.Proofs.Policy.Meaning

set_option autoImplicit false

namespace SpendPolicy.Miniscript

mutual

def satisfiedWith (zero : Bool) (env : Environment) : Miniscript → Bool
  | .zero => zero
  | .key name => env.signs name
  | .after value => env.isAfter value
  | .older value => env.isOlder value
  | .hash algorithm digest => env.knows algorithm digest
  | .andV left right => left.satisfiedWith zero env && right.satisfiedWith zero env
  | .orD left right | .orI left right =>
    left.satisfiedWith zero env || right.satisfiedWith zero env
  | .thresh required items => decide (required ≤ satisfiedCount zero env items)
  | .wrap wrapper argument =>
    match wrapper with
    | .v | .s | .a | .n => argument.satisfiedWith zero env
    | .l => zero || argument.satisfiedWith zero env
    | .u => argument.satisfiedWith zero env || zero

def satisfiedCount (zero : Bool) (env : Environment) : List Miniscript → Nat
  | [] => 0
  | item :: items =>
    (if item.satisfiedWith zero env then 1 else 0) + satisfiedCount zero env items

end

def satisfied (env : Environment) (m : Miniscript) : Bool :=
  m.satisfiedWith false env

mutual

def leaves : Miniscript → List Leaf
  | .zero => []
  | .key name => [.key name]
  | .after value => [.after value]
  | .older value => [.older value]
  | .hash algorithm digest => [.hash algorithm digest]
  | .andV left right | .orD left right | .orI left right => left.leaves ++ right.leaves
  | .thresh _ items => leavesOfAll items
  | .wrap _ argument => argument.leaves

def leavesOfAll : List Miniscript → List Leaf
  | [] => []
  | item :: items => item.leaves ++ leavesOfAll items

end

mutual

def thresholds : Miniscript → List (Nat × Nat)
  | .andV left right | .orD left right | .orI left right => left.thresholds ++ right.thresholds
  | .thresh required items => (required, items.length) :: thresholdsOfAll items
  | .wrap _ argument => argument.thresholds
  | .zero | .key _ | .after _ | .older _ | .hash _ _ => []

def thresholdsOfAll : List Miniscript → List (Nat × Nat)
  | [] => []
  | item :: items => item.thresholds ++ thresholdsOfAll items

end

@[simp] theorem satisfiedCount_eq_countP (zero : Bool) (env : Environment)
    (items : List Miniscript) :
    satisfiedCount zero env items = items.countP (satisfiedWith zero env) := by
  induction items with
  | nil => simp [satisfiedCount]
  | cons item items ih => simp [satisfiedCount, ih, List.countP_cons, Nat.add_comm]

@[simp] theorem leavesOfAll_eq_flatMap (items : List Miniscript) :
    leavesOfAll items = items.flatMap leaves := by
  induction items with
  | nil => simp [leavesOfAll]
  | cons item items ih => simp [leavesOfAll, ih]

@[simp] theorem thresholdsOfAll_eq_flatMap (items : List Miniscript) :
    thresholdsOfAll items = items.flatMap thresholds := by
  induction items with
  | nil => simp [thresholdsOfAll]
  | cons item items ih => simp [thresholdsOfAll, ih]

mutual

theorem keys_eq_leaves (m : Miniscript) : m.keys = m.leaves.filterMap Leaf.key? := by
  match m with
  | .zero | .key _ | .after _ | .older _ | .hash _ _ => rfl
  | .andV left right | .orD left right | .orI left right =>
    simp only [keys, leaves, List.filterMap_append, keys_eq_leaves left, keys_eq_leaves right]
  | .thresh _ items => exact keysOfAll_eq_leaves items
  | .wrap _ argument => exact keys_eq_leaves argument

theorem keysOfAll_eq_leaves (items : List Miniscript) :
    keysOfAll items = (leavesOfAll items).filterMap Leaf.key? := by
  match items with
  | [] => rfl
  | item :: items =>
    simp only [keysOfAll, leavesOfAll, List.filterMap_append, keys_eq_leaves item,
      keysOfAll_eq_leaves items]

end

end SpendPolicy.Miniscript
