import SpendPolicy.Proofs.Descriptor.Remainder

set_option autoImplicit false

namespace SpendPolicy.DescriptorChecksum

section Symbols

variable {ps qs : List Nat}

theorem symbols_append (whole : 3 ∣ ps.length) (qs : List Nat) :
    symbols (ps ++ qs) = symbols ps ++ symbols qs := by
  induction ps using symbols.induct with
  | case1 => rfl
  | case2 | case3 => simp at whole
  | case4 a b c rest ih =>
    have rest : 3 ∣ rest.length := (Nat.dvd_add_left (Nat.dvd_refl 3)).mp whole
    simp only [List.cons_append, symbols, ih rest, List.nil_append]

theorem symbols_split {count : Nat} (whole : 3 ∣ count) (ps : List Nat) :
    symbols ps = symbols (ps.take count) ++ symbols (ps.drop count) := by
  by_cases long : count ≤ ps.length
  · have groups : 3 ∣ (ps.take count).length := by rwa [List.length_take_of_le long]
    rw [← symbols_append groups, List.take_append_drop]
  · have ends : ps.drop count = [] := List.drop_eq_nil_of_le (by omega)
    have all : ps.take count = ps := List.take_of_length_le (by omega)
    rw [ends, all, symbols, List.append_nil]

theorem length_symbols (ps : List Nat) : (symbols ps).length = ps.length + (ps.length + 2) / 3 := by
  induction ps using symbols.induct with
  | case1 => rfl
  | case2 | case3 => simp [symbols]
  | case4 a b c rest ih =>
    simp only [symbols, List.length_append, List.length_cons, List.length_nil, ih]
    omega

theorem symbols_lt (small : ∀ p ∈ ps, p < 96) : ∀ x ∈ symbols ps, x < 32 := by
  induction ps using symbols.induct with
  | case1 => simp [symbols]
  | case2 a =>
    simp only [List.forall_mem_singleton] at small
    simp [symbols]
    omega
  | case3 a b =>
    simp only [List.forall_mem_cons] at small
    simp [symbols]
    omega
  | case4 a b c rest ih =>
    simp only [List.forall_mem_cons] at small
    obtain ⟨first, second, third, later⟩ := small
    simp only [symbols, List.forall_mem_append]
    refine ⟨?_, ih later⟩
    simp
    omega

theorem symbols_injective (length : ps.length = qs.length) (small : ∀ p ∈ ps, p < 96)
    (small' : ∀ q ∈ qs, q < 96) (same : symbols ps = symbols qs) : ps = qs := by
  induction ps using symbols.induct generalizing qs with
  | case1 => exact (List.eq_nil_of_length_eq_zero length.symm).symm
  | case2 a =>
    obtain ⟨a', rfl⟩ := List.length_eq_one_iff.mp length.symm
    simp only [symbols, List.cons.injEq, and_true] at same ⊢
    omega
  | case3 a b =>
    obtain ⟨a', b', rfl⟩ := List.length_eq_two.mp length.symm
    simp only [List.forall_mem_cons] at small small'
    simp only [symbols, List.cons.injEq, and_true] at same ⊢
    omega
  | case4 a b c rest ih =>
    match qs, length with
    | a' :: b' :: c' :: rest', length =>
      simp only [List.forall_mem_cons] at small small'
      obtain ⟨first, second, third, later⟩ := small
      obtain ⟨first', second', third', later'⟩ := small'
      simp only [symbols, List.cons_append, List.nil_append, List.cons.injEq] at same
      obtain ⟨lowA, lowB, lowC, classes, others⟩ := same
      have rest : rest = rest' := ih (by simpa using length) later later' others
      have group : a = a' ∧ b = b' ∧ c = c' := by omega
      obtain ⟨rfl, rfl, rfl⟩ := group
      rw [rest]

end Symbols

theorem eq_of_map_eq {α β : Type} {f : α → β} {xs ys : List α}
    (injective : ∀ x ∈ xs, ∀ y ∈ ys, f x = f y → x = y) (same : xs.map f = ys.map f) : xs = ys := by
  induction xs generalizing ys with
  | nil => exact (List.map_eq_nil_iff.mp same.symm).symm
  | cons x xs ih =>
    obtain ⟨y, ys, rfl, here, later⟩ := List.map_eq_cons_iff.mp same.symm
    have first : x = y := injective x List.mem_cons_self y List.mem_cons_self here.symm
    have rest : xs = ys := ih (fun a inside b insideToo =>
      injective a (List.mem_cons_of_mem x inside) b (List.mem_cons_of_mem y insideToo)) later.symm
    rw [first, rest]

def position (c : Char) : Nat :=
  inputCharset.idxOf c

section Positions

variable {c : Char} {s t : Text}

theorem position_lt (known : c ∈ inputCharset) : position c < 96 :=
  (List.idxOf_lt_length_iff.mpr known).trans_le (by decide +kernel)

theorem forall_position_lt (known : ∀ c ∈ s, c ∈ inputCharset) : ∀ p ∈ s.map position, p < 96 :=
  List.forall_mem_map.mpr fun c member => position_lt (known c member)

theorem positions_eq (known : ∀ c ∈ s, c ∈ inputCharset) : positions s = .ok (s.map position) := by
  induction s with
  | nil => rfl
  | cons c s ih =>
    obtain ⟨first, rest⟩ := List.forall_mem_cons.mp known
    obtain ⟨p, found⟩ := Option.isSome_iff_exists.mp (List.isSome_idxOf?.mpr first)
    have here : position c = p := by rw [position, List.idxOf_eq_getD_idxOf?, found, Option.getD_some]
    rw [positions, found, ih rest, List.map_cons, here]

theorem map_position_injective (known : ∀ c ∈ s, c ∈ inputCharset) (same : s.map position = t.map position) :
    s = t :=
  eq_of_map_eq (fun c member _ _ => (List.idxOf_inj (known c member)).mp) same

end Positions

def quintets (checksum : Nat) : List Nat :=
  (List.range 8).map fun j => (checksum >>> (5 * (7 - j))) &&& 31

def letter (d : Nat) : Char :=
  checksumCharset.getD d 'q'

theorem render_eq (checksum : Nat) : render checksum = (quintets checksum).map letter := by
  rw [render, quintets, List.map_map]
  rfl

theorem quintets_eq (checksum : Nat) :
    quintets checksum = (List.range 8).map fun j => checksum / 32 ^ (8 - 1 - j) % 32 := by
  refine List.map_congr_left fun j _ => ?_
  rw [Nat.shiftRight_eq_div_pow, Nat.pow_mul]
  exact Nat.and_two_pow_sub_one_eq_mod _ 5

theorem value_quintets {checksum : Nat} (small : checksum < 2 ^ 40) :
    Positional.value 32 (quintets checksum) = checksum := by
  rw [quintets_eq]
  exact Positional.value_places small

theorem letter_injective {d e : Nat} (small : d < 32) (small' : e < 32) (same : letter d = letter e) : d = e := by
  have distinct : ∀ d < 32, ∀ e < 32, letter d = letter e → d = e := by decide +kernel
  exact distinct d small e small' same

theorem quintets_lt (checksum : Nat) : ∀ d ∈ quintets checksum, d < 32 := by
  intro d member
  obtain ⟨j, _, rfl⟩ := List.mem_map.mp member
  exact Nat.and_lt_two_pow _ (show 31 < 2 ^ 5 by decide)

theorem render_injective {c d : Nat} (small : c < 2 ^ 40) (small' : d < 2 ^ 40) (same : render c = render d) :
    c = d := by
  rw [render_eq, render_eq] at same
  have groups : quintets c = quintets d := by
    refine eq_of_map_eq (fun x member y member' => ?_) same
    exact letter_injective (quintets_lt c x member) (quintets_lt d y member')
  rw [← value_quintets small, groups, value_quintets small']

def stream (ps : List Nat) : List Nat :=
  symbols ps ++ List.replicate 8 0

def residue (s : Text) : Nat :=
  remainder 1 (stream (s.map position))

section Stream

variable {s : Text} {ps : List Nat}

theorem compute_eq (known : ∀ c ∈ s, c ∈ inputCharset) : compute s = .ok (render (residue s ^^^ 1)) := by
  simp only [compute, positions_eq known, residue, stream]

theorem stream_lt (small : ∀ p ∈ ps, p < 96) : ∀ x ∈ stream ps, x < 32 :=
  List.forall_mem_append.mpr ⟨symbols_lt small, by decide⟩

theorem residue_lt (known : ∀ c ∈ s, c ∈ inputCharset) : residue s < 2 ^ 40 :=
  remainder_lt (by decide) (stream_lt (forall_position_lt known))

end Stream

end SpendPolicy.DescriptorChecksum
