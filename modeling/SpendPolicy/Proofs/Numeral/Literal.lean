import Mathlib.Data.Bool.AllAny
import SpendPolicy.Proofs.Numeral.Decimal

set_option autoImplicit false

namespace SpendPolicy.Numeral

inductive Digits : Text → List Nat → Prop
  | last {c : Char} {value : Nat} (digit : digitValue? c = some value) : Digits [c] [value]
  | next {c : Char} {value : Nat} {s : Text} {values : List Nat} (digit : digitValue? c = some value)
      (others : Digits s values) : Digits (c :: s) (value :: values)
  | parted {c : Char} {value : Nat} {s : Text} {values : List Nat}
      (digit : digitValue? c = some value) (others : Digits s values) :
      Digits (c :: '_' :: s) (value :: values)

inductive Literal : Text → Int → Prop
  | unsigned {s : Text} {values : List Nat} (digits : Digits s values)
      (short : values.length ≤ maxDigits) : Literal s (Positional.value 10 values)
  | positive {s : Text} {values : List Nat} (digits : Digits s values)
      (short : values.length ≤ maxDigits) : Literal ('+' :: s) (Positional.value 10 values)
  | negative {s : Text} {values : List Nat} (digits : Digits s values)
      (short : values.length ≤ maxDigits) : Literal ('-' :: s) (-(Positional.value 10 values : Int))

theorem Digits.exists_head {s : Text} {values : List Nat} (digits : Digits s values) :
    ∃ c rest, s = c :: rest ∧ (digitValue? c).isSome := by
  cases digits with
  | last digit | next digit _ | parted digit _ => exact ⟨_, _, rfl, by simp [digit]⟩

theorem Digits.head_ne {s rest : Text} {values : List Nat} {c mark : Char}
    (digits : Digits s values) (starts : s = c :: rest) (foreign : digitValue? mark = none) :
    c ≠ mark := by
  rintro rfl
  obtain ⟨d, tail, same, digit⟩ := digits.exists_head
  rw [starts, List.cons.injEq] at same
  simp [← same.1, foreign] at digit

theorem readDigits?_eq_some_iff {s : Text} {values : List Nat} :
    readDigits? s = some values ↔ Digits s values := by
  constructor
  · intro reads
    fun_induction readDigits? s generalizing values with
    | case1 => cases reads
    | case2 c =>
      obtain ⟨value, digit, rfl⟩ := Option.map_eq_some_iff.mp reads
      exact .last digit
    | case3 c s ih =>
      obtain ⟨value, digit, rest⟩ := Option.bind_eq_some_iff.mp reads
      obtain ⟨others, more, same⟩ := Option.bind_eq_some_iff.mp rest
      cases same
      exact .parted digit (ih more)
    | case4 c next s plain ih =>
      obtain ⟨value, digit, rest⟩ := Option.bind_eq_some_iff.mp reads
      obtain ⟨others, more, same⟩ := Option.bind_eq_some_iff.mp rest
      cases same
      exact .next digit (ih more)
  · intro digits
    induction digits with
    | last digit => simp [readDigits?, digit]
    | @next c value s values digit others ih =>
      obtain ⟨d, rest, rfl, _⟩ := others.exists_head
      -- Another digit follows, so that no underscore does.
      have plain : d ≠ '_' := others.head_ne rfl (by decide)
      rw [readDigits?.eq_4 _ _ _ (by simpa using plain), digit, ih]
      rfl
    | parted digit _ ih =>
      rw [readDigits?, digit, ih]
      rfl

theorem readUnsigned?_eq_some_iff {s : Text} {n : Nat} :
    readUnsigned? s = some n ↔
      ∃ values, Digits s values ∧ values.length ≤ maxDigits ∧ Positional.value 10 values = n := by
  simp only [← readDigits?_eq_some_iff]
  unfold readUnsigned?
  cases readDigits? s with
  | none => simp
  | some values => simp

theorem read?_eq_some_iff {s : Text} {value : Int} :
    read? s = some value ↔ Literal s.trim value := by
  unfold read?
  constructor
  · intro reads
    split at reads
    all_goals
      simp only [Option.map_eq_some_iff, Option.bind_eq_bind, Option.bind_eq_some_iff,
        Option.pure_def, Option.some.injEq] at reads
      obtain ⟨_, ⟨n, found, rfl⟩, rfl⟩ := reads
      obtain ⟨values, digits, short, rfl⟩ := readUnsigned?_eq_some_iff.mp found
    · next r same => exact same ▸ .negative digits short
    · next r same => exact same ▸ .positive digits short
    · exact .unsigned digits short
  · intro literal
    generalize s.trim = t at literal
    cases literal with
    | unsigned digits short =>
      have found := readUnsigned?_eq_some_iff.mpr ⟨_, digits, short, rfl⟩
      split
      · exact (digits.head_ne rfl (by decide) rfl).elim
      · exact (digits.head_ne rfl (by decide) rfl).elim
      · simp [found]
    | positive digits short | negative digits short =>
      simp [readUnsigned?_eq_some_iff.mpr ⟨_, digits, short, rfl⟩]

theorem Digits.visible {s : Text} {values : List Nat} (digits : Digits s values) :
    ∀ c ∈ s, isBlank c = false := by
  intro c member
  cases blank : isBlank c with
  | false => rfl
  | true =>
    have foreign : digitValue? c = none :=
      Text.forall_blank (p := fun c => digitValue? c = none) (by decide) blank
    rcases mem_of_readDigits? (readDigits?_eq_some_iff.mpr digits) c member with rfl | digit
    · exact absurd blank (by decide)
    · simp [foreign] at digit

theorem Literal.visible {s : Text} {value : Int} (literal : Literal s value) :
    ∀ c ∈ s, isBlank c = false := by
  cases literal with
  | unsigned digits short => exact digits.visible
  | positive digits short | negative digits short =>
    exact List.forall_mem_cons.mpr ⟨by decide, digits.visible⟩

theorem digitValue?_of_delimiter {c : Char} (delimiter : c ∈ ['(', ')', ',']) :
    digitValue? c = none := by
  have each : ∀ d ∈ ['(', ')', ','], digitValue? d = none := List.all_iff_forall_prop.mp (by decide)
  exact each c delimiter

theorem Literal.not_mem_of_delimiter {s : Text} {value : Int} (literal : Literal s value) {c : Char}
    (delimiter : c ∈ ['(', ')', ',']) : c ∉ s := by
  have unsigned {s : Text} {values : List Nat} (digits : Digits s values) : c ∉ s := by
    intro member
    rcases mem_of_readDigits? (readDigits?_eq_some_iff.mpr digits) c member with rfl | digit
    · simp at delimiter
    · simp [digitValue?_of_delimiter delimiter] at digit
  cases literal with
  | unsigned digits _ => exact unsigned digits
  | positive digits _ | negative digits _ =>
    rw [List.mem_cons, not_or]
    exact ⟨by rintro rfl; simp at delimiter, unsigned digits⟩

theorem Literal.read?_eq {s : Text} {value : Int} (literal : Literal s value) :
    read? s = some value := by
  rw [read?_eq_some_iff, Text.trim_eq_of_visible literal.visible]
  exact literal

end SpendPolicy.Numeral
