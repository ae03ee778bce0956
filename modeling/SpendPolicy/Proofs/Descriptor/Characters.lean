import SpendPolicy.Descriptor.Checksum
import SpendPolicy.Proofs.Key.Languages
import SpendPolicy.Proofs.Miniscript.RoundTrip
import SpendPolicy.Proofs.Substitution.Characters

set_option autoImplicit false

namespace SpendPolicy

open Text (Blank)

def Checkable (c : Char) : Prop :=
  c ∈ DescriptorChecksum.inputCharset ∧ c ≠ '#'

section Ascii

variable {c : Char}

theorem mem_inputCharset_iff : c ∈ DescriptorChecksum.inputCharset ↔ 32 ≤ c.toNat ∧ c.toNat < 127 := by
  constructor
  · have each : ∀ d ∈ DescriptorChecksum.inputCharset, 32 ≤ d.toNat ∧ d.toNat < 127 :=
      List.all_iff_forall_prop.mp (by decide +kernel)
    exact each c
  · rintro ⟨least, most⟩
    have each : ∀ n < 127, 32 ≤ n → Char.ofNat n ∈ DescriptorChecksum.inputCharset := by decide +kernel
    simpa using each c.toNat most least

theorem checkable_iff : Checkable c ↔ 32 ≤ c.toNat ∧ c.toNat < 127 ∧ c ≠ '#' := by
  rw [Checkable, mem_inputCharset_iff, and_assoc]

instance (c : Char) : Decidable (Checkable c) :=
  decidable_of_iff _ checkable_iff.symm

theorem checkable_of_all {s : Text} (all : (s.all fun c => Checkable c) = true) : ∀ c ∈ s, Checkable c :=
  List.all_iff_forall_prop.mp all

theorem checkable_of_isDigit (digit : c.isDigit = true) : Checkable c := by
  have bounds : '0'.val ≤ c.val ∧ c.val ≤ '9'.val := by simpa [Char.isDigit] using digit
  have first : 48 ≤ c.toNat := UInt32.le_iff_toNat_le.mp bounds.1
  have last : c.toNat ≤ 57 := UInt32.le_iff_toNat_le.mp bounds.2
  refine checkable_iff.mpr ⟨by omega, by omega, ?_⟩
  rintro rfl
  cases digit

theorem checkable_of_hexDigit (digit : Hex.isDigit c = true) : Checkable c := by
  have listed : c.toLower ∈ Hex.digits := List.isSome_idxOf?.mp digit
  unfold Char.toLower at listed
  split at listed
  · next upper =>
    have first : 65 ≤ c.toNat := UInt32.le_iff_toNat_le.mp upper.1
    have last : c.toNat ≤ 90 := UInt32.le_iff_toNat_le.mp upper.2
    refine checkable_iff.mpr ⟨by omega, by omega, ?_⟩
    rintro rfl
    cases digit
  · have each : ∀ d ∈ Hex.digits, Checkable d := checkable_of_all (by decide)
    exact each c listed

theorem checkable_of_isInner (inner : KeyExpression.isInner c = true) : Checkable c := by
  unfold KeyExpression.isInner at inner
  simp only [Bool.or_eq_true] at inner
  rcases inner with (((digit | digit) | mark) | mark)
  · apply checkable_of_isDigit
    simpa [isAsciiDigit, Char.isDigit, Char.le_def] using digit
  · exact checkable_of_hexDigit digit
  · have each : ∀ d ∈ KeyExpression.hardenedMarks, Checkable d := checkable_of_all (by decide)
    exact each c (List.contains_iff_mem.mp mark)
  · have each : ∀ d ∈ ['<', ';', '>', '*', '/'], Checkable d := checkable_of_all (by decide)
    exact each c (List.contains_iff_mem.mp mark)

theorem checkable_of_alphabet (letter : c ∈ Base58.alphabet) : Checkable c := by
  have each : ∀ d ∈ Base58.alphabet, Checkable d := checkable_of_all (by decide)
  exact each c letter

end Ascii

section Script

variable {c : Char}

theorem foreign_of_not_checkable (other : ¬ Checkable c) : Extraction.Foreign c := by
  intro n member
  apply other
  rcases List.mem_append.mp member with letter | digit
  · have letters : ∀ d ∈ ['k', 'e', 'y'], Checkable d := checkable_of_all (by decide)
    exact letters c letter
  · exact checkable_of_isDigit (Numeral.isDigit_ofNat n c digit)

theorem Text.mem_commaSeparated_iff {parts : List Text} (other : c ≠ ',') :
    c ∈ Text.commaSeparated parts ↔ ∃ part ∈ parts, c ∈ part := by
  induction parts with
  | nil => simp [Text.commaSeparated]
  | cons first rest ih =>
    cases rest with
    | nil => simp [Text.commaSeparated]
    | cons second rest =>
      rw [Text.commaSeparated_cons (List.cons_ne_nil _ _), List.mem_append, List.mem_cons, ih]
      simp [other]

theorem mem_call_iff (other : ¬ Checkable c) {name : Text} (named : ∀ d ∈ name, Checkable d)
    (arguments : List Text) : c ∈ Form.call name arguments ↔ ∃ argument ∈ arguments, c ∈ argument := by
  have apart {d : Char} (checkable : Checkable d) : c ≠ d := fun same => other (same ▸ checkable)
  have notName : c ∉ name := fun member => other (named c member)
  have comma : c ≠ ',' := apart (by decide)
  have opening : c ≠ '(' := apart (by decide)
  have closing : c ≠ ')' := apart (by decide)
  simp [Form.call, notName, opening, closing, Text.mem_commaSeparated_iff comma]

namespace Miniscript

mutual

theorem mem_text_iff (other : ¬ Checkable c) {m : Miniscript} : c ∈ m.text ↔ ∃ name ∈ m.keys, c ∈ name := by
  have call {name : Text} (all : (name.all fun d => Checkable d) = true) :=
    mem_call_iff other (checkable_of_all all)
  have number (n : Nat) : c ∉ Numeral.ofNat n := fun member =>
    other (checkable_of_isDigit (Numeral.isDigit_ofNat n c member))
  match m with
  | .zero =>
    have zero : c ≠ '0' := fun same => other (same ▸ by decide)
    simp [text, keys, zero]
  | .key name => exact (call (by decide) [name]).trans (by simp [keys])
  | .after value | .older value =>
    exact (call (by decide) [Numeral.ofNat value]).trans (by simp [keys, number])
  | .hash algorithm digest =>
    have named : (algorithm.name.all fun d => Checkable d) = true := by cases algorithm <;> decide
    have encoded : c ∉ Hex.encode digest := by
      have each : ∀ d ∈ Hex.digits, Checkable d := checkable_of_all (by decide)
      exact fun member => other (each c (Hex.mem_digits_of_encode member))
    exact (call named [Hex.encode digest]).trans (by simp [keys, encoded])
  | .andV left right | .orD left right | .orI left right =>
    refine (call (by decide) _).trans ?_
    have first := mem_text_iff other (m := left)
    have second := mem_text_iff other (m := right)
    simp [keys, first, second, or_and_right, exists_or]
  | .thresh required items =>
    refine (call (by decide) (Numeral.ofNat required :: texts items)).trans ?_
    rw [List.exists_mem_cons_iff, or_iff_right (number required)]
    exact mem_texts_iff other
  | .wrap wrapper argument =>
    have inner := mem_text_iff other (m := argument)
    have letter : c ≠ wrapper.letter := fun same => other (same ▸ by cases wrapper <;> decide)
    have colon : c ≠ ':' := fun same => other (same ▸ by decide)
    rcases text_wrap wrapper argument with ⟨_, attached⟩ | attached
    · rw [attached, List.mem_cons, or_iff_right letter, inner, keys]
    · rw [attached, List.mem_cons, or_iff_right letter, List.mem_cons, or_iff_right colon, inner, keys]

theorem mem_texts_iff (other : ¬ Checkable c) {items : List Miniscript} :
    (∃ text ∈ texts items, c ∈ text) ↔ ∃ name ∈ keysOfAll items, c ∈ name := by
  match items with
  | [] => simp
  | item :: items =>
    have first := mem_text_iff other (m := item)
    have later : (∃ text ∈ texts items, c ∈ text) ↔ _ := mem_texts_iff other
    rw [texts, keysOfAll]
    simp only [List.exists_mem_cons_iff, List.mem_append, or_and_right, exists_or, first, later]

end

end Miniscript

end Script

section Key

variable {s : Text} {form : KeyForm}

theorem checkable_of_decodeCheck {payload : Bytes} (opened : Base58.decodeCheck s = .ok payload) :
    ∀ c ∈ s, Checkable c :=
  fun c member => checkable_of_alphabet (Base58.mem_of_decodeCheck opened c member)

theorem checkable_of_inner (inner : KeyExpression.Inner s) : ∀ c ∈ s, Checkable c :=
  fun c member => checkable_of_isInner (inner c member)

theorem checkable_of_origin (origin : KeyExpression.isOrigin s = true) : ∀ c ∈ s, Checkable c := by
  obtain ⟨content, inner, rfl⟩ := KeyExpression.exists_inner_of_origin origin
  have brackets : ∀ c ∈ ['[', ']'], Checkable c := checkable_of_all (by decide)
  intro c member
  rcases List.mem_append.mp member with front | back
  · rcases List.mem_cons.mp front with rfl | inside
    · exact brackets _ (by simp)
    · exact checkable_of_inner inner c inside
  · exact brackets c (List.mem_cons_of_mem _ back)

theorem checkable_of_decode {kind : KeyKind} {decoded : ExtendedKey}
    (decodes : ExtendedKey.decode kind s = .ok decoded) : ∀ c ∈ s, isBlank c = false → Checkable c := by
  obtain ⟨payload, opened, _⟩ := ExtendedKey.exists_payload_of_decode decodes
  obtain ⟨gap, blank, split⟩ := Text.exists_gap_trimRight s
  intro c member visible
  rw [split] at member
  exact checkable_of_decodeCheck opened c ((List.mem_append.mp member).resolve_right (blank.notMem visible))

theorem checkable_of_derivation (derivation : KeyExpression.isDerivation s = true) :
    ∀ c ∈ s, isBlank c = false → Checkable c := by
  obtain ⟨gap, blank, split⟩ := KeyExpression.exists_lineEnd s
  intro c member visible
  rw [split] at member
  exact checkable_of_inner (KeyExpression.inner_derivation derivation) c
    ((List.mem_append.mp member).resolve_right (blank.notMem visible))

theorem checkable_of_classify (accepted : Key.classify s = .ok form) :
    ∀ c ∈ s, isBlank c = false → Checkable c := by
  intro c member visible
  have written := Key.classify_eq_ok_iff.mp accepted
  cases form with
  | compressed => exact checkable_of_hexDigit (written.2.1 c member)
  | wif network =>
    obtain ⟨_, _, _, _, _, opened⟩ := Wif.Writes.exists_payload written
    exact checkable_of_decodeCheck opened c member
  | extended kind network =>
    obtain ⟨origin, key, path, rfl, isOrigin, _, ⟨decoded, decodes⟩, isDerivation⟩ := written
    rcases List.mem_append.mp member with front | inPath
    · rcases List.mem_append.mp front with inOrigin | inKey
      · cases origin with
        | none => cases inOrigin
        | some origin => exact checkable_of_origin (isOrigin origin rfl) c inOrigin
      · exact checkable_of_decode decodes c inKey visible
    · cases path with
      | none => cases inPath
      | some path => exact checkable_of_derivation (isDerivation path rfl) c inPath visible

theorem checkable_blank_iff {c : Char} (blank : isBlank c = true) : Checkable c ↔ c = ' ' :=
  Text.forall_blank (p := fun c => Checkable c ↔ c = ' ') (by decide) blank

theorem checkable_iff_of_classify (accepted : Key.classify s = .ok form) :
    (∀ c ∈ s, Checkable c) ↔ ∀ c ∈ s, isBlank c = true → c = ' ' := by
  refine forall₂_congr fun c member => ?_
  cases blank : isBlank c with
  | false => simp [checkable_of_classify accepted c member blank]
  | true => simp [checkable_blank_iff blank]

end Key

end SpendPolicy
