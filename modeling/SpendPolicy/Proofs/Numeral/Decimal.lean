import SpendPolicy.Numeral.Integer
import SpendPolicy.Proofs.Numeral.Positional
import SpendPolicy.Proofs.Text.Trimming

set_option autoImplicit false

namespace SpendPolicy.Numeral

def Legible (n : Nat) : Prop :=
  n < 10 ^ maxDigits

theorem Legible.mono {m n : Nat} (legible : Legible n) (atMost : m ≤ n) : Legible m :=
  Nat.lt_of_le_of_lt atMost legible

theorem isDigit_ofNat (n : Nat) : ∀ c ∈ ofNat n, c.isDigit = true :=
  fun _ member => Nat.isDigit_of_mem_toDigits (by decide) (by decide) member

theorem notMem_ofNat {n : Nat} {c : Char} (other : c.isDigit = false) : c ∉ ofNat n := by
  intro member
  simp [isDigit_ofNat n c member] at other

theorem ofNat_ne_nil (n : Nat) : ofNat n ≠ [] :=
  Nat.toDigits_ne_nil

theorem ofNat_injective {m n : Nat} (same : ofNat m = ofNat n) : m = n := by
  have values := congrArg (fun s => Nat.ofDigitChars 10 s 0) same
  simpa [ofNat] using values

theorem digitValue?_of_isDigit {c : Char} (digit : c.isDigit = true) :
    digitValue? c = some (c.toNat - '0'.toNat) := by
  have range : 48 ≤ c.toNat ∧ c.toNat ≤ 57 := by
    simp only [Char.isDigit, ge_iff_le, Bool.and_eq_true, decide_eq_true_eq,
      UInt32.le_iff_toNat_le] at digit
    exact digit
  have low : ¬ c.toNat < 0x30 := by omega
  have high : c.toNat < 0x30 + 10 := by omega
  simp only [digitValue?, digitZeros, digitValueFrom?, low, high, if_true, if_false]
  rfl

theorem readDigits?_digits {s : Text} (filled : s ≠ []) (digits : ∀ c ∈ s, c.isDigit = true) :
    readDigits? s = some (s.map fun c => c.toNat - '0'.toNat) := by
  induction s with
  | nil => exact absurd rfl filled
  | cons c s ih =>
    have head := digitValue?_of_isDigit (digits c (by simp))
    match s with
    | [] => simp [readDigits?, head]
    | d :: s =>
      have tail := ih (by simp) fun e member => digits e (by simp [member])
      have plain : d ≠ '_' := by
        rintro rfl
        exact absurd (digits '_' (by simp)) (by decide)
      rw [readDigits?.eq_4 _ _ _ (by simpa using plain), head, tail]
      rfl

theorem readUnsigned?_ofNat {n : Nat} (legible : Legible n) : readUnsigned? (ofNat n) = some n := by
  have short : (ofNat n).length ≤ maxDigits :=
    (Nat.length_toDigits_le_iff (by decide) (by decide)).mpr legible
  have value : Positional.value 10 ((ofNat n).map fun c => c.toNat - '0'.toNat) = n := by
    have written : Nat.ofDigitChars 10 (ofNat n) 0 = n := Nat.ofDigitChars_ten_toDigits
    rw [Nat.ofDigitChars_eq_foldl] at written
    simpa [Positional.value, List.foldl_map, Nat.mul_comm] using written
  rw [readUnsigned?, readDigits?_digits (ofNat_ne_nil n) (isDigit_ofNat n)]
  simp only [List.length_map, short, if_true, value]

theorem trim_ofNat (n : Nat) : (ofNat n).trim = ofNat n := by
  apply Text.trim_eq_of_visible
  intro c member
  cases blank : isBlank c with
  | false => rfl
  | true =>
    have none : c.isDigit = false :=
      Text.forall_blank (p := fun c => c.isDigit = false) (by decide) blank
    simp [isDigit_ofNat n c member] at none

theorem read?_ofNat {n : Nat} (legible : Legible n) : read? (ofNat n) = some (n : Int) := by
  unfold read?
  rw [trim_ofNat]
  split
  · next rest same =>
    exact absurd (isDigit_ofNat n '-' (by simp [same])) (by decide)
  · next rest same =>
    exact absurd (isDigit_ofNat n '+' (by simp [same])) (by decide)
  · rw [readUnsigned?_ofNat legible]
    rfl

theorem mem_of_readDigits? {s : Text} {values : List Nat} (reads : readDigits? s = some values) :
    ∀ c ∈ s, c = '_' ∨ (digitValue? c).isSome := by
  fun_induction readDigits? s generalizing values with
  | case1 => simp at reads
  | case2 c =>
    obtain ⟨value, found, _⟩ := Option.map_eq_some_iff.mp reads
    simp [found]
  | case3 c s ih =>
    obtain ⟨value, found, rest⟩ := Option.bind_eq_some_iff.mp reads
    obtain ⟨values, more, _⟩ := Option.bind_eq_some_iff.mp rest
    simpa [found] using ih more
  | case4 c next s plain ih =>
    obtain ⟨value, found, rest⟩ := Option.bind_eq_some_iff.mp reads
    obtain ⟨values, more, _⟩ := Option.bind_eq_some_iff.mp rest
    simpa [found] using ih more

theorem mem_of_readUnsigned? {s : Text} {n : Nat} (reads : readUnsigned? s = some n) :
    ∀ c ∈ s, c = '_' ∨ (digitValue? c).isSome := by
  unfold readUnsigned? at reads
  split at reads
  · simp at reads
  · next values found => exact mem_of_readDigits? found

theorem digitValueFrom?_lt {starts : List Nat} {code value : Nat}
    (found : digitValueFrom? starts code = some value) : value < 10 := by
  induction starts with
  | nil => simp [digitValueFrom?] at found
  | cons start rest ih =>
    unfold digitValueFrom? at found
    split at found
    · simp at found
    · split at found
      · cases found
        omega
      · exact ih found

theorem readDigits?_lt {s : Text} {values : List Nat} (reads : readDigits? s = some values) :
    ∀ value ∈ values, value < 10 := by
  fun_induction readDigits? s generalizing values with
  | case1 => simp at reads
  | case2 c =>
    obtain ⟨value, found, rfl⟩ := Option.map_eq_some_iff.mp reads
    simpa using digitValueFrom?_lt found
  | case3 c s ih | case4 c next s plain ih =>
    obtain ⟨value, found, rest⟩ := Option.bind_eq_some_iff.mp reads
    obtain ⟨values, more, same⟩ := Option.bind_eq_some_iff.mp rest
    cases same
    simpa using ⟨digitValueFrom?_lt found, ih more⟩

theorem legible_of_readUnsigned? {s : Text} {n : Nat} (reads : readUnsigned? s = some n) :
    Legible n := by
  unfold readUnsigned? at reads
  split at reads
  · simp at reads
  · next values found =>
    split at reads
    · next short =>
      cases reads
      calc Positional.value 10 values < 10 ^ values.length :=
            Positional.value_lt (by decide) (readDigits?_lt found)
        _ ≤ 10 ^ maxDigits := Nat.pow_le_pow_right (by decide) short
    · simp at reads

theorem unsigned_of_read? {s : Text} {value : Int} (reads : read? s = some value) :
    ∃ sign digits n, s.trim = sign ++ digits ∧ (∀ c ∈ sign, c = '-' ∨ c = '+') ∧
      readUnsigned? digits = some n ∧ (value = n ∨ value = -n) := by
  unfold read? at reads
  split at reads
  · next digits same =>
    cases found : readUnsigned? digits with
    | none => simp [found] at reads
    | some n =>
      exact ⟨['-'], digits, n, same, by simp, found, .inr (by simpa [found, eq_comm] using reads)⟩
  · next digits same =>
    cases found : readUnsigned? digits with
    | none => simp [found] at reads
    | some n =>
      exact ⟨['+'], digits, n, same, by simp, found, .inl (by simpa [found, eq_comm] using reads)⟩
  · next digits _ _ =>
    cases found : readUnsigned? s.trim with
    | none => simp [found] at reads
    | some n => exact ⟨[], s.trim, n, rfl, by simp, found, .inl (by simpa [found, eq_comm] using reads)⟩

theorem legible_of_read? {s : Text} {value : Int} (reads : read? s = some value) :
    Legible value.toNat := by
  obtain ⟨sign, digits, n, _, _, found, value⟩ := unsigned_of_read? reads
  have legible : n < 10 ^ maxDigits := legible_of_readUnsigned? found
  unfold Legible
  omega

theorem notMem_of_read? {s : Text} {value : Int} (reads : read? s = some value) {c : Char}
    (visible : isBlank c = false) (foreign : digitValue? c = none) (plain : c ∉ ['_', '-', '+']) :
    c ∉ s := by
  obtain ⟨before, after, blankBefore, blankAfter, split⟩ := Text.exists_gaps_trim s
  obtain ⟨sign, digits, n, spelled, signed, found, _⟩ := unsigned_of_read? reads
  have notSign : c ∉ sign := by
    intro member
    rcases signed c member with rfl | rfl <;> simp at plain
  have notDigit : c ∉ digits := by
    intro member
    rcases mem_of_readUnsigned? found c member with rfl | digit
    · simp at plain
    · simp [foreign] at digit
  rw [split, spelled]
  simp only [List.mem_append, not_or]
  exact ⟨⟨blankBefore.notMem visible, notSign, notDigit⟩, blankAfter.notMem visible⟩

theorem eq_of_read?_ofNat {n : Nat} {value : Int} (reads : read? (ofNat n) = some value) :
    value = n := by
  obtain ⟨sign, digits, m, spelled, signed, found, _⟩ := unsigned_of_read? reads
  rw [trim_ofNat] at spelled
  have unsigned : sign = [] := by
    apply List.eq_nil_iff_forall_not_mem.mpr
    intro c member
    have digit := isDigit_ofNat n c (by simp [spelled, member])
    rcases signed c member with rfl | rfl <;> exact absurd digit (by decide)
  rw [unsigned, List.nil_append] at spelled
  rw [← spelled, readUnsigned?, readDigits?_digits (ofNat_ne_nil n) (isDigit_ofNat n)] at found
  simp only [List.length_map] at found
  split at found
  · next short =>
    have legible : Legible n := (Nat.length_toDigits_le_iff (by decide) (by decide)).mp short
    rw [read?_ofNat legible] at reads
    exact (Option.some.inj reads).symm
  · cases found

end SpendPolicy.Numeral
