import Mathlib.Data.Nat.Digits.Lemmas
import SpendPolicy.Numeral.Positional

set_option autoImplicit false

namespace SpendPolicy.Positional

theorem value_eq_ofDigits (base : Nat) (ds : List Nat) :
    value base ds = Nat.ofDigits base ds.reverse := by
  induction ds using List.reverseRecOn with
  | nil => rfl
  | append_singleton ds d ih =>
    rw [value_append_singleton, ih, List.reverse_append, List.reverse_singleton,
      List.singleton_append, Nat.ofDigits_cons]
    ring

theorem digits_eq_reverse {base : Nat} (large : 1 < base) (n : Nat) :
    digits base n = (Nat.digits base n).reverse := by
  induction n using Nat.strongRecOn with
  | _ n ih =>
    rw [digits]
    by_cases positive : 0 < n
    · rw [if_pos ⟨large, positive⟩, ih (n / base) (Nat.div_lt_self positive large),
        Nat.digits_def' large positive, List.reverse_cons]
    · simp [Nat.eq_zero_of_not_pos positive]

theorem lt_of_mem_digits {base n d : Nat} (large : 1 < base) (member : d ∈ digits base n) :
    d < base := by
  rw [digits_eq_reverse large, List.mem_reverse] at member
  exact Nat.digits_lt_base large member

theorem value_append (base : Nat) (ds es : List Nat) :
    value base (ds ++ es) = value base ds * base ^ es.length + value base es := by
  rw [value_eq_ofDigits, value_eq_ofDigits, value_eq_ofDigits, List.reverse_append, Nat.ofDigits_append,
    List.length_reverse]
  ring

theorem value_cons (base d : Nat) (ds : List Nat) :
    value base (d :: ds) = d * base ^ ds.length + value base ds := by
  have first : value base [d] = d := by simp [value]
  rw [← List.singleton_append, value_append, first]

theorem value_lt {base : Nat} {ds : List Nat} (large : 1 < base) (small : ∀ d ∈ ds, d < base) :
    value base ds < base ^ ds.length := by
  have size : ds.reverse.length = ds.length := List.length_reverse
  rw [value_eq_ofDigits, ← size]
  exact Nat.ofDigits_lt_base_pow_length large fun d member => small d (List.mem_reverse.mp member)

theorem value_replicate_zero (base count : Nat) (ds : List Nat) :
    value base (List.replicate count 0 ++ ds) = value base ds := by
  induction count with
  | zero => rfl
  | succ count ih => rw [List.replicate_succ, List.cons_append, value_cons, ih, Nat.zero_mul,
      Nat.zero_add]

theorem value_cons_bounds {base d : Nat} {ds : List Nat} (large : 1 < base)
    (small : ∀ e ∈ ds, e < base) :
    d * base ^ ds.length ≤ value base (d :: ds) ∧
      value base (d :: ds) < (d + 1) * base ^ ds.length := by
  have rest := value_lt large small
  rw [value_cons, Nat.succ_mul]
  omega

theorem lt_length_digits_iff {base : Nat} (large : 1 < base) (n count : Nat) :
    count < (digits base n).length ↔ base ^ count ≤ n := by
  rw [digits_eq_reverse large, List.length_reverse]
  exact Nat.lt_digits_length_iff large n

theorem exists_digits_append {base count n : Nat} (large : 1 < base) (high : base ^ count ≤ n) :
    ∃ tail, digits base n = digits base (n / base ^ count) ++ tail := by
  induction count generalizing n with
  | zero => exact ⟨[], by simp⟩
  | succ count ih =>
    have positive : 0 < n := (Nat.pow_pos (by omega)).trans_le high
    have room : base ^ count ≤ n / base := by
      rwa [Nat.le_div_iff_mul_le (by omega), ← Nat.pow_succ]
    obtain ⟨tail, split⟩ := ih room
    refine ⟨tail ++ [n % base], ?_⟩
    rw [digits, if_pos ⟨large, positive⟩, split, Nat.div_div_eq_div_mul, Nat.pow_succ', List.append_assoc]

theorem head?_digits_ne_zero {base n : Nat} (large : 1 < base) :
    ∀ d ∈ (digits base n).head?, d ≠ 0 := by
  rw [digits_eq_reverse large, List.head?_reverse]
  intro d last zero
  have filled : Nat.digits base n ≠ [] := by
    rintro empty
    simp [empty] at last
  rw [List.getLast?_eq_some_getLast filled, Option.mem_some_iff] at last
  exact Nat.getLast_digit_ne_zero base (Nat.digits_ne_nil_iff_ne_zero.mp filled) (last.trans zero)

theorem digits_value {base : Nat} {ds : List Nat} (large : 1 < base) (small : ∀ d ∈ ds, d < base)
    (first : ∀ d ∈ ds.head?, d ≠ 0) : digits base (value base ds) = ds := by
  have last : ∀ filled : ds.reverse ≠ [], ds.reverse.getLast filled ≠ 0 := by
    intro filled
    apply first
    rw [List.getLast_reverse, Option.mem_def, List.head?_eq_some_head]
  rw [digits_eq_reverse large, value_eq_ofDigits, Nat.digits_ofDigits base large ds.reverse
    (fun d member => small d (List.mem_reverse.mp member)) last, List.reverse_reverse]

theorem value_injective {base : Nat} {ds es : List Nat} (large : 1 < base)
    (length : ds.length = es.length) (small : ∀ d ∈ ds, d < base) (small' : ∀ e ∈ es, e < base)
    (same : value base ds = value base es) : ds = es := by
  rw [value_eq_ofDigits, value_eq_ofDigits] at same
  have reversed := Nat.ofDigits_inj_of_len_eq large (by simpa using length) (by simpa using small)
    (by simpa using small') same
  exact List.reverse_injective reversed

theorem value_places {base count n : Nat} (small : n < base ^ count) :
    value base ((List.range count).map fun j => n / base ^ (count - 1 - j) % base) = n := by
  induction count generalizing n with
  | zero => simp [value, Nat.lt_one_iff.mp small]
  | succ count ih =>
    have places : (List.range count).map (fun j => n / base ^ (count + 1 - 1 - j) % base) =
        (List.range count).map fun j => n / base / base ^ (count - 1 - j) % base := by
      refine List.map_congr_left fun j inside => ?_
      have next : count + 1 - 1 - j = count - 1 - j + 1 := by
        have := List.mem_range.mp inside
        omega
      rw [next, Nat.pow_succ', Nat.div_div_eq_div_mul]
    have last : n / base ^ (count + 1 - 1 - count) % base = n % base := by simp
    have room : n / base < base ^ count := Nat.div_lt_of_lt_mul (by rwa [Nat.pow_succ'] at small)
    rw [List.range_succ, List.map_append, List.map_singleton, value_append_singleton, places, last, ih room,
      Nat.div_add_mod']

def rebase (base other : Nat) (ds : List Nat) : List Nat :=
  List.replicate (ds.takeWhile (· == 0)).length 0 ++ digits other (value base ds)

section Rebase

variable {base other : Nat} {ds : List Nat}

theorem leading_zeros (ds : List Nat) :
    ds = List.replicate (ds.takeWhile (· == 0)).length 0 ++ ds.dropWhile (· == 0) := by
  have zeros : ds.takeWhile (· == 0) = List.replicate (ds.takeWhile (· == 0)).length 0 :=
    List.eq_replicate_iff.mpr ⟨rfl, fun d member => by
      simpa using List.all_eq_true.mp List.all_takeWhile d member⟩
  rw [← zeros, List.takeWhile_append_dropWhile]

theorem head?_dropWhile_ne_zero (ds : List Nat) : ∀ d ∈ (ds.dropWhile (· == 0)).head?, d ≠ 0 := by
  intro d first
  have stop := List.head?_dropWhile_not (· == 0) ds
  rw [first] at stop
  simpa using stop

theorem takeWhile_zero {count : Nat} (first : ∀ d ∈ ds.head?, d ≠ 0) :
    (List.replicate count 0 ++ ds).takeWhile (· == 0) = List.replicate count 0 := by
  rw [List.takeWhile_append_of_pos (by simp)]
  cases ds with
  | nil => simp
  | cons d ds => simp [first d rfl]

theorem lt_of_mem_rebase (large : 1 < other) : ∀ d ∈ rebase base other ds, d < other := by
  intro d member
  rcases List.mem_append.mp member with zero | digit
  · rw [(List.mem_replicate.mp zero).2]
    exact Nat.zero_lt_of_lt large
  · exact lt_of_mem_digits large digit

theorem rebase_rebase (large : 1 < base) (wide : 1 < other) (small : ∀ d ∈ ds, d < base) :
    rebase other base (rebase base other ds) = ds := by
  have zeros : (rebase base other ds).takeWhile (· == 0) =
      List.replicate (ds.takeWhile (· == 0)).length 0 := takeWhile_zero (head?_digits_ne_zero wide)
  have number : value other (rebase base other ds) = value base (ds.dropWhile (· == 0)) := by
    rw [rebase, value_replicate_zero, value_digits wide]
    conv_lhs => rw [leading_zeros ds, value_replicate_zero]
  have rest : digits base (value base (ds.dropWhile (· == 0))) = ds.dropWhile (· == 0) :=
    digits_value large (fun d member => small d ((List.dropWhile_suffix _).mem member))
      (head?_dropWhile_ne_zero ds)
  rw [rebase, zeros, number, rest, List.length_replicate, ← leading_zeros]

end Rebase

end SpendPolicy.Positional
