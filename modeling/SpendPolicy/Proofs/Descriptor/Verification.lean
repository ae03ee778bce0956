import Mathlib.Data.Bool.AllAny
import Mathlib.Data.List.TakeWhile
import SpendPolicy.Proofs.Descriptor.Symbols

set_option autoImplicit false

namespace SpendPolicy.DescriptorChecksum

def expand (group : List Nat) : List Nat → List Nat
  | [] => if group = [] then [] else [Positional.value 3 group]
  | p :: ps =>
    if group.length = 2 then p % 32 :: Positional.value 3 (group ++ [p / 32]) :: expand [] ps
    else p % 32 :: expand (group ++ [p / 32]) ps

def digit (c : Char) : Nat :=
  checksumCharset.idxOf c

def verifies (descriptor checksum : Text) : Bool :=
  remainder 1 (expand [] (descriptor.map position) ++ checksum.map digit) == 1

theorem expand_eq_symbols (ps : List Nat) : expand [] ps = symbols ps := by
  induction ps using symbols.induct with
  | case1 => rfl
  | case2 | case3 => simp [expand, symbols, Positional.value]
  | case4 a b c rest ih => simp [expand, symbols, Positional.value, ih]

section Letters

variable {c : Char} {x : Text}

theorem digit_lt (known : c ∈ checksumCharset) : digit c < 32 :=
  List.idxOf_lt_length_iff.mpr known

theorem letter_digit (known : c ∈ checksumCharset) : letter (digit c) = c := by
  have inside : checksumCharset.idxOf c < checksumCharset.length := digit_lt known
  rw [letter, digit, List.getD_eq_getElem _ _ inside, List.getElem_idxOf]

theorem digit_letter {d : Nat} (small : d < 32) : digit (letter d) = d := by
  have each : ∀ d < 32, digit (letter d) = d := by decide +kernel
  exact each d small

theorem letter_mem {d : Nat} (small : d < 32) : letter d ∈ checksumCharset := by
  have each : ∀ d < 32, letter d ∈ checksumCharset := by decide +kernel
  exact each d small

theorem length_render (checksum : Nat) : (render checksum).length = 8 := by
  simp [render]

theorem mem_of_render {checksum : Nat} : ∀ c ∈ render checksum, c ∈ checksumCharset := by
  rw [render_eq]
  exact List.forall_mem_map.mpr fun d member => letter_mem (quintets_lt checksum d member)

theorem eq_render_iff (known : ∀ c ∈ x, c ∈ checksumCharset) (checksum : Nat) :
    x = render checksum ↔ x.map digit = quintets checksum := by
  rw [render_eq]
  constructor
  · rintro rfl
    rw [List.map_map]
    exact (List.map_congr_left fun d member => digit_letter (quintets_lt checksum d member)).trans (List.map_id' _)
  · intro same
    rw [← same, List.map_map]
    exact ((List.map_congr_left fun c member => letter_digit (known c member)).trans (List.map_id' x)).symm

end Letters

theorem remainder_append_digits {ps xs : List Nat} (length : xs.length = 8) (small : ∀ x ∈ xs, x < 32) :
    remainder 1 (symbols ps ++ xs) = Positional.value 32 xs ^^^ remainder 1 (stream ps) := by
  have superposed := remainder_xor 0 (remainder 1 (symbols ps)) xs
  rw [Nat.zero_xor, length, remainder_zero_eq_value (by omega) small] at superposed
  rw [remainder_append, superposed, stream, remainder_append]

theorem verifies_iff {d x : Text} (known : ∀ c ∈ d, c ∈ inputCharset) (length : x.length = 8)
    (written : ∀ c ∈ x, c ∈ checksumCharset) :
    verifies d x = true ↔ x = render (residue d ^^^ 1) := by
  have small : ∀ e ∈ x.map digit, e < 32 :=
    List.forall_mem_map.mpr fun c member => digit_lt (written c member)
  have digits : (x.map digit).length = 8 := by rw [List.length_map, length]
  have size : residue d ^^^ 1 < 2 ^ 40 := Nat.xor_lt_two_pow (residue_lt known) (by decide)
  have places : (quintets (residue d ^^^ 1)).length = 8 := by simp [quintets]
  rw [verifies, expand_eq_symbols, remainder_append_digits digits small, beq_iff_eq, eq_render_iff written]
  change Positional.value 32 (x.map digit) ^^^ residue d = 1 ↔ _
  constructor
  · intro one
    have number : Positional.value 32 (x.map digit) = residue d ^^^ 1 := by
      rw [← one, Nat.xor_comm, Nat.xor_xor_cancel_right]
    apply Positional.value_injective (by decide) (digits.trans places.symm) small (quintets_lt _)
    rw [number, value_quintets size]
  · intro same
    rw [same, value_quintets size, Nat.xor_comm, Nat.xor_xor_cancel_left]

theorem append_of_unmarked {d : Text} (known : ∀ c ∈ d, c ∈ inputCharset) (unmarked : '#' ∉ d) (t : Text) :
    append (d ++ '#' :: t) = .ok (d ++ '#' :: render (residue d ^^^ 1)) ∧
      append d = .ok (d ++ '#' :: render (residue d ^^^ 1)) := by
  have stays : ∀ c ∈ d, (c != '#') = true := by
    intro c member
    simpa using fun same : c = '#' => unmarked (same ▸ member)
  have front : (d ++ '#' :: t).takeWhile (· != '#') = d := by
    rw [List.takeWhile_append_of_pos stays]
    simp
  have whole : d.takeWhile (· != '#') = d := List.takeWhile_eq_self_iff.mpr stays
  simp only [append, front, whole, compute_eq known, and_self]

theorem checksum_verifies_iff {d : Text} (known : ∀ c ∈ d, c ∈ inputCharset) (unmarked : '#' ∉ d) :
    ∃ checksum, compute d = .ok checksum ∧ checksum.length = 8 ∧
      (∀ c ∈ checksum, c ∈ checksumCharset) ∧
      (∀ x : Text, x.length = 8 → (∀ c ∈ x, c ∈ checksumCharset) →
        (verifies d x = true ↔ x = checksum)) ∧
      append d = .ok (d ++ '#' :: checksum) ∧
      ∀ t, append (d ++ '#' :: t) = .ok (d ++ '#' :: checksum) := by
  refine ⟨_, compute_eq known, length_render _, mem_of_render, ?_, (append_of_unmarked known unmarked []).2,
    fun t => (append_of_unmarked known unmarked t).1⟩
  intro x length written
  exact verifies_iff known length written

theorem checksum_verifies_iff_raw :
    let d := "raw(deadbeef)".toList
    let checksum := "89f8spxm".toList
    (∀ c ∈ d, c ∈ inputCharset) ∧ '#' ∉ d ∧ compute d = .ok checksum ∧ verifies d checksum = true ∧
      verifies d "89f8spxq".toList = false ∧
      append "raw(deadbeef)#no é checksum".toList = .ok (d ++ '#' :: checksum) := by
  intro d checksum
  have known : ∀ c ∈ d, c ∈ inputCharset := List.all_iff_forall_prop.mp (by decide +kernel)
  have unmarked : '#' ∉ d := by decide
  obtain ⟨found, computed, length, written, unique, _, replaced⟩ := checksum_verifies_iff known unmarked
  have same : compute d = .ok checksum := by decide +kernel
  cases computed.symm.trans same
  have other : ∀ c ∈ "89f8spxq".toList, c ∈ checksumCharset := List.all_iff_forall_prop.mp (by decide)
  refine ⟨known, unmarked, same, (unique _ length written).mpr rfl, ?_, replaced "no é checksum".toList⟩
  rw [Bool.eq_false_iff, Ne, unique _ (by decide) other]
  decide

end SpendPolicy.DescriptorChecksum
