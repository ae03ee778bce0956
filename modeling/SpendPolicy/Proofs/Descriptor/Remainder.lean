import Mathlib.Data.Nat.Bitwise
import SpendPolicy.Descriptor.Checksum
import SpendPolicy.Proofs.Numeral.Positional

set_option autoImplicit false

namespace SpendPolicy.DescriptorChecksum

def tapped (top acc : Nat) (tap : Nat × Nat) : Nat :=
  if top.testBit tap.2 then acc ^^^ tap.1 else acc

theorem feedback_eq (top : Nat) : feedback top = generators.zipIdx.foldl (tapped top) 0 :=
  rfl

theorem tapped_xor (a b x y : Nat) (tap : Nat × Nat) :
    tapped (a ^^^ b) (x ^^^ y) tap = tapped a x tap ^^^ tapped b y tap := by
  unfold tapped
  rw [Nat.testBit_xor]
  cases a.testBit tap.2 <;> cases b.testBit tap.2
  · rfl
  · exact Nat.xor_assoc x y tap.1
  · exact Nat.xor_right_comm x y tap.1
  · -- The generator is in both sums, and in neither half of the difference.
    change x ^^^ y = x ^^^ tap.1 ^^^ (y ^^^ tap.1)
    rw [Nat.xor_comm y, Nat.xor_assoc, Nat.xor_xor_cancel_left]

theorem feedback_xor (a b : Nat) : feedback (a ^^^ b) = feedback a ^^^ feedback b := by
  have folds (taps : List (Nat × Nat)) (x y : Nat) :
      taps.foldl (tapped (a ^^^ b)) (x ^^^ y) =
        taps.foldl (tapped a) x ^^^ taps.foldl (tapped b) y := by
    induction taps generalizing x y with
    | nil => rfl
    | cons tap taps ih => rw [List.foldl_cons, tapped_xor, ih, List.foldl_cons, List.foldl_cons]
  exact folds generators.zipIdx 0 0

theorem feedback_lt (top : Nat) : feedback top < 2 ^ 40 := by
  have each : ∀ tap ∈ generators.zipIdx, tap.1 < 2 ^ 40 := by decide
  rw [feedback_eq]
  apply List.foldlRecOn (motive := fun acc => acc < 2 ^ 40) generators.zipIdx (tapped top) (by decide)
  intro acc low tap member
  unfold tapped
  split
  · exact Nat.xor_lt_two_pow low (each tap member)
  · exact low

theorem eq_zero_of_feedback {top : Nat} (small : top < 32) (low : feedback top % 32 = 0) : top = 0 := by
  have each : ∀ t < 32, feedback t % 32 = 0 → t = 0 := by decide
  exact each top small low

theorem polymod_xor (a b x y : Nat) : polymod (a ^^^ b) (x ^^^ y) = polymod a x ^^^ polymod b y := by
  simp only [polymod, Nat.and_xor_distrib_right, Nat.shiftLeft_xor_distrib, Nat.shiftRight_xor_distrib,
    feedback_xor]
  ac_rfl

theorem polymod_cancel (symbol p q : Nat) : polymod p symbol ^^^ polymod q symbol = polymod (p ^^^ q) 0 := by
  rw [← polymod_xor, Nat.xor_self]

section Step

variable (state symbol : Nat)

theorem polymod_eq :
    polymod state symbol = state % 2 ^ 35 * 2 ^ 5 ^^^ symbol ^^^ feedback (state / 2 ^ 35) := by
  rw [polymod, Nat.shiftLeft_eq, Nat.shiftRight_eq_div_pow, ← Nat.and_two_pow_sub_one_eq_mod]

theorem polymod_mod : polymod state symbol % 2 ^ 5 = symbol % 2 ^ 5 ^^^ feedback (state / 2 ^ 35) % 2 ^ 5 := by
  rw [polymod_eq, Nat.xor_mod_two_pow, Nat.xor_mod_two_pow, Nat.mul_mod_left, Nat.zero_xor]

theorem polymod_div :
    polymod state symbol / 2 ^ 5 = state % 2 ^ 35 ^^^ symbol / 2 ^ 5 ^^^ feedback (state / 2 ^ 35) / 2 ^ 5 := by
  rw [polymod_eq, Nat.xor_div_two_pow, Nat.xor_div_two_pow, Nat.mul_div_cancel _ (by decide)]

variable {state symbol}

theorem polymod_lt (small : symbol < 32) : polymod state symbol < 2 ^ 40 := by
  have shifted : state % 2 ^ 35 * 2 ^ 5 < 2 ^ 40 := by omega
  rw [polymod_eq]
  exact Nat.xor_lt_two_pow (Nat.xor_lt_two_pow shifted (by omega)) (feedback_lt _)

theorem polymod_of_lt (room : state < 2 ^ 35) (small : symbol < 32) :
    polymod state symbol = state * 32 + symbol := by
  have top : state / 2 ^ 35 = 0 := by omega
  have low := polymod_mod state symbol
  have high := polymod_div state symbol
  have none : feedback 0 = 0 := by decide
  rw [top, none, Nat.zero_mod, Nat.xor_zero] at low
  rw [top, none, Nat.zero_div, Nat.xor_zero, show symbol / 2 ^ 5 = 0 by omega, Nat.xor_zero] at high
  omega

theorem eq_zero_of_polymod (size : state < 2 ^ 40) (zero : polymod state 0 = 0) : state = 0 := by
  have low := polymod_mod state 0
  have high := polymod_div state 0
  rw [zero, Nat.zero_mod, Nat.zero_xor] at low
  have top : state / 2 ^ 35 = 0 := eq_zero_of_feedback (by omega) low.symm
  have none : feedback 0 = 0 := by decide
  rw [zero, top, none, Nat.zero_div, Nat.xor_zero, Nat.xor_zero] at high
  omega

end Step

theorem polymod_injective {p q symbol : Nat} (left : p < 2 ^ 40) (right : q < 2 ^ 40)
    (same : polymod p symbol = polymod q symbol) : p = q := by
  have step : polymod (p ^^^ q) 0 = 0 := by
    rw [← polymod_cancel symbol, same, Nat.xor_self]
  exact Nat.xor_eq_zero_iff.mp (eq_zero_of_polymod (Nat.xor_lt_two_pow left right) step)

theorem remainder_cons (state symbol : Nat) (symbols : List Nat) :
    remainder state (symbol :: symbols) = remainder (polymod state symbol) symbols :=
  rfl

theorem remainder_append (state : Nat) (xs ys : List Nat) :
    remainder state (xs ++ ys) = remainder (remainder state xs) ys :=
  List.foldl_append

theorem remainder_lt {state : Nat} {symbols : List Nat} (size : state < 2 ^ 40)
    (small : ∀ x ∈ symbols, x < 32) : remainder state symbols < 2 ^ 40 := by
  induction symbols generalizing state with
  | nil => exact size
  | cons x symbols ih =>
    obtain ⟨first, rest⟩ := List.forall_mem_cons.mp small
    exact ih (polymod_lt first) rest

theorem remainder_injective {p q : Nat} {symbols : List Nat} (left : p < 2 ^ 40) (right : q < 2 ^ 40)
    (small : ∀ x ∈ symbols, x < 32) (same : remainder p symbols = remainder q symbols) : p = q := by
  induction symbols generalizing p q with
  | nil => exact same
  | cons x symbols ih =>
    obtain ⟨first, rest⟩ := List.forall_mem_cons.mp small
    exact polymod_injective left right (ih (polymod_lt first) (polymod_lt first) rest same)

theorem remainder_xor (a b : Nat) (symbols : List Nat) :
    remainder (a ^^^ b) symbols =
      remainder a symbols ^^^ remainder b (List.replicate symbols.length 0) := by
  induction symbols generalizing a b with
  | nil => rfl
  | cons x symbols ih =>
    have step := polymod_xor a b x 0
    rw [Nat.xor_zero] at step
    rw [remainder_cons, step, ih]
    rfl

theorem remainder_zero_eq_value {symbols : List Nat} (short : symbols.length ≤ 8)
    (small : ∀ x ∈ symbols, x < 32) : remainder 0 symbols = Positional.value 32 symbols := by
  induction symbols using List.reverseRecOn with
  | nil => rfl
  | append_singleton symbols x ih =>
    rw [List.length_append, List.length_singleton] at short
    obtain ⟨earlier, last⟩ := List.forall_mem_append.mp small
    have bound := Positional.value_lt (by decide) earlier
    have room : 32 ^ symbols.length ≤ 32 ^ 7 := Nat.pow_le_pow_right (by decide) (by omega)
    rw [remainder_append, ih (by omega) earlier, Positional.value_append_singleton]
    exact polymod_of_lt (by omega) (last x (by simp))

section Burst

variable {state : Nat} {xs ys before after : List Nat}

theorem remainder_eq_iff (length : xs.length = ys.length) :
    remainder state xs = remainder state ys ↔ remainder 0 xs = remainder 0 ys := by
  have first := remainder_xor 0 state xs
  have second := remainder_xor 0 state ys
  rw [Nat.zero_xor] at first second
  rw [first, second, length]
  exact Nat.xor_left_inj

theorem remainder_burst (size : state < 2 ^ 40) (length : xs.length = ys.length) (short : xs.length ≤ 8)
    (small : ∀ x ∈ before ++ xs ++ after, x < 32) (small' : ∀ y ∈ before ++ ys ++ after, y < 32)
    (same : remainder state (before ++ xs ++ after) = remainder state (before ++ ys ++ after)) :
    xs = ys := by
  obtain ⟨upToHere, tail⟩ := List.forall_mem_append.mp small
  obtain ⟨_, digits⟩ := List.forall_mem_append.mp upToHere
  obtain ⟨upToHere', _⟩ := List.forall_mem_append.mp small'
  obtain ⟨_, digits'⟩ := List.forall_mem_append.mp upToHere'
  rw [remainder_append _ (before ++ xs), remainder_append _ (before ++ ys)] at same
  have met := remainder_injective (remainder_lt size upToHere) (remainder_lt size upToHere') tail same
  rw [remainder_append, remainder_append, remainder_eq_iff length,
    remainder_zero_eq_value short digits, remainder_zero_eq_value (length ▸ short) digits'] at met
  exact Positional.value_injective (by decide) length digits digits' met

end Burst

end SpendPolicy.DescriptorChecksum
