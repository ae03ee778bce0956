import Mathlib.Data.Bool.AllAny
import SpendPolicy.Hex
import SpendPolicy.Proofs.Text.Trimming

set_option autoImplicit false

namespace SpendPolicy.Hex

theorem digit_spec : ∀ n < 16, digitValue? (digits.getD n '0') = some n ∧
    isSpacing (digits.getD n '0') = false := by
  decide

theorem decode?_encodeByte (b : UInt8) (s : Text) :
    decode? (encodeByte b ++ s) = (decode? s).map (b :: ·) := by
  have size : b.toNat < 256 := b.toNat_lt
  obtain ⟨high, notSpacing⟩ := digit_spec (b.toNat / 16) (by omega)
  obtain ⟨low, _⟩ := digit_spec (b.toNat % 16) (by omega)
  have value : b.toNat / 16 * 16 + b.toNat % 16 = b.toNat := by omega
  have byte : UInt8.ofNat (b.toNat / 16 * 16 + b.toNat % 16) = b := by rw [value, UInt8.ofNat_toNat]
  change decode? (digits.getD (b.toNat / 16) '0' :: digits.getD (b.toNat % 16) '0' :: s) = _
  simp only [decode?, notSpacing, high, low]
  cases decode? s with
  | none => rfl
  | some bytes => exact congrArg (fun b => some (b :: bytes)) byte

theorem decode?_encode (bytes : Bytes) : decode? (encode bytes) = some bytes := by
  induction bytes with
  | nil => rfl
  | cons b bytes ih =>
    change decode? (encodeByte b ++ encode bytes) = _
    rw [decode?_encodeByte, ih, Option.map_some]

theorem mem_digits_of_encode {bytes : Bytes} {c : Char} (member : c ∈ encode bytes) :
    c ∈ digits := by
  obtain ⟨b, _, inside⟩ := List.mem_flatMap.mp member
  have size : b.toNat < 256 := b.toNat_lt
  have listed : ∀ n < 16, digits.getD n '0' ∈ digits := by decide
  simp only [encodeByte, List.mem_cons, List.not_mem_nil, or_false] at inside
  rcases inside with rfl | rfl
  · exact listed _ (by omega)
  · exact listed _ (by omega)

inductive Spelled : Text → Bytes → Prop
  | nil : Spelled [] []
  | spaced {c : Char} {s : Text} {bytes : Bytes} (spacing : isSpacing c = true)
      (others : Spelled s bytes) : Spelled (c :: s) bytes
  | byte {c d : Char} {high low : Nat} {s : Text} {bytes : Bytes} (first : digitValue? c = some high)
      (second : digitValue? d = some low) (others : Spelled s bytes) :
      Spelled (c :: d :: s) (UInt8.ofNat (high * 16 + low) :: bytes)

theorem blank_of_spacing {c : Char} (spacing : isSpacing c = true) : isBlank c = true := by
  simp only [isSpacing, Bool.or_eq_true, Bool.and_eq_true, decide_eq_true_eq] at spacing
  rcases spacing with rfl | ⟨low, high⟩
  · decide
  · have first : 9 ≤ c.toNat := low
    have last : c.toNat ≤ 13 := high
    simp only [isBlank, blanks, CharClass.contains, CharClass.containsCode, Bool.and_eq_true,
      Bool.or_eq_true, decide_eq_true_eq]
    omega

theorem digitValue?_of_blank {c : Char} (blank : isBlank c = true) : digitValue? c = none :=
  Text.forall_blank (p := fun c => digitValue? c = none) (by decide) blank

theorem decode?_eq_some_iff {s : Text} {bytes : Bytes} :
    decode? s = some bytes ↔ Spelled s bytes := by
  constructor
  · intro decodes
    fun_induction decode? s generalizing bytes with
    | case1 =>
      cases decodes
      exact .nil
    | case2 c spacing =>
      cases decodes
      exact .spaced spacing .nil
    | case3 => cases decodes
    | case4 c d s spacing ih => exact .spaced spacing (ih decodes)
    | case5 c d s notSpacing high low rest others second first ih =>
      cases decodes
      exact .byte first second (ih others)
    | case6 => cases decodes
  · intro spelled
    induction spelled with
    | nil => rfl
    | @spaced c s bytes spacing others ih =>
      cases s with
      | nil =>
        cases others
        simp [decode?, spacing]
      | cons d s => simp [decode?, spacing, ih]
    | @byte c d high low s bytes first second others ih =>
      have notSpacing : isSpacing c = false := by
        cases spacing : isSpacing c with
        | false => rfl
        | true => simp [digitValue?_of_blank (blank_of_spacing spacing)] at first
      simp [decode?, notSpacing, first, second, ih]

theorem exists_decode {s : Text} {size : Nat} (digits : ∀ c ∈ s, isDigit c = true)
    (length : s.length = 2 * size) : ∃ bytes, decode? s = some bytes ∧ bytes.length = size := by
  induction size generalizing s with
  | zero =>
    obtain rfl := List.length_eq_zero_iff.mp length
    exact ⟨[], rfl, rfl⟩
  | succ size ih =>
    match s, length with
    | c :: d :: s, length =>
      obtain ⟨first, second, others⟩ : isDigit c = true ∧ isDigit d = true ∧ ∀ c ∈ s, isDigit c = true := by
        simpa using digits
      obtain ⟨high, read⟩ := Option.isSome_iff_exists.mp first
      obtain ⟨low, again⟩ := Option.isSome_iff_exists.mp second
      obtain ⟨bytes, decodes, same⟩ := ih others (by simp only [List.length_cons] at length; omega)
      have spelled := Spelled.byte read again (decode?_eq_some_iff.mp decodes)
      exact ⟨_, decode?_eq_some_iff.mpr spelled, by rw [List.length_cons, same]⟩

theorem Spelled.mem {s : Text} {bytes : Bytes} (spelled : Spelled s bytes) :
    ∀ c ∈ s, isSpacing c = true ∨ (digitValue? c).isSome := by
  induction spelled with
  | nil => simp
  | spaced spacing _ ih => exact List.forall_mem_cons.mpr ⟨.inl spacing, ih⟩
  | byte first second _ ih =>
    exact List.forall_mem_cons.mpr
      ⟨.inr (by simp [first]), List.forall_mem_cons.mpr ⟨.inr (by simp [second]), ih⟩⟩

theorem Spelled.of_blank_append {gap s : Text} {bytes : Bytes} (blank : Text.Blank gap)
    (spelled : Spelled (gap ++ s) bytes) : Spelled s bytes := by
  induction gap with
  | nil => exact spelled
  | cons c gap ih =>
    obtain ⟨here, rest⟩ := List.forall_mem_cons.mp blank
    rw [List.cons_append] at spelled
    generalize whole : gap ++ s = t at spelled
    cases spelled with
    | spaced _ others => exact ih rest (whole ▸ others)
    | byte first _ _ => simp [digitValue?_of_blank here] at first

theorem Spelled.eq_nil_of_blank {s : Text} {bytes : Bytes} (blank : Text.Blank s)
    (spelled : Spelled s bytes) : bytes = [] := by
  induction spelled with
  | nil => rfl
  | spaced _ _ ih => exact ih (List.forall_mem_cons.mp blank).2
  | byte first _ _ =>
    simp [digitValue?_of_blank (List.forall_mem_cons.mp blank).1] at first

theorem Spelled.of_append_blank {s gap : Text} {bytes : Bytes} (blank : Text.Blank gap)
    (spelled : Spelled (s ++ gap) bytes) : Spelled s bytes := by
  generalize whole : s ++ gap = t at spelled
  induction spelled generalizing s with
  | nil =>
    rw [(List.append_eq_nil_iff.mp whole).1]
    exact .nil
  | @spaced c t bytes spacing others ih =>
    cases s with
    | nil =>
      rw [show gap = c :: t from whole] at blank
      obtain rfl := others.eq_nil_of_blank (List.forall_mem_cons.mp blank).2
      exact .nil
    | cons first s =>
      obtain ⟨rfl, same⟩ := List.cons.inj whole
      exact .spaced spacing (ih same)
  | @byte c d high low t bytes first second others ih =>
    match s, whole with
    | [], whole =>
      have here : isBlank c = true := blank c (by simp [show gap = c :: d :: t from whole])
      simp [digitValue?_of_blank here] at first
    | [_], whole =>
      obtain ⟨rfl, rest⟩ := List.cons.inj whole
      have here : isBlank d = true := blank d (by simp [show gap = d :: t from rest])
      simp [digitValue?_of_blank here] at second
    | _ :: _ :: s, whole =>
      obtain ⟨rfl, rest⟩ := List.cons.inj whole
      obtain ⟨rfl, same⟩ := List.cons.inj rest
      exact .byte first second (ih same)

theorem Spelled.not_mem_of_delimiter {s : Text} {bytes : Bytes} (spelled : Spelled s bytes) {c : Char}
    (delimiter : c ∈ ['(', ')', ',']) : c ∉ s := by
  intro member
  have each : ∀ d ∈ ['(', ')', ','], isSpacing d = false ∧ digitValue? d = none :=
    List.all_iff_forall_prop.mp (by decide)
  have foreign := each c delimiter
  rcases spelled.mem c member with spacing | digit
  · simp [foreign.1] at spacing
  · simp [foreign.2] at digit

end SpendPolicy.Hex
