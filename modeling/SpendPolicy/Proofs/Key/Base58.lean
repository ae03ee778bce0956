import Mathlib.Data.Bool.AllAny
import Mathlib.Data.List.GetD
import SpendPolicy.Base58
import SpendPolicy.Proofs.Numeral.Positional

set_option autoImplicit false

namespace SpendPolicy

namespace Sha256

theorem length_hash (message : Bytes) : (hash message).length = 32 := by
  simp [hash, bytesOfWord]

end Sha256

namespace Base58

open Positional (rebase)

def letter (d : Nat) : Char :=
  alphabet.getD d '1'

section Digits

variable {c : Char} {s : Text} {d : Nat} {ds : List Nat}

theorem digitValue_eq_ok_iff : digitValue c = .ok d ↔ d < 58 ∧ letter d = c := by
  unfold digitValue
  constructor
  · intro reads
    split at reads
    · next found =>
      cases reads
      obtain ⟨bound, same, _⟩ := List.idxOf?_eq_some_iff.mp found
      exact ⟨bound, (List.getD_eq_getElem alphabet '1' bound).trans same⟩
    · cases reads
  · rintro ⟨small, rfl⟩
    have each : ∀ d ∈ List.range 58, alphabet.idxOf? (letter d) = some d :=
      List.all_iff_forall_prop.mp (by decide)
    rw [each d (List.mem_range.mpr small)]

theorem digitValues_cons (reads : digitValues (c :: s) = .ok ds) :
    ∃ d others, digitValue c = .ok d ∧ digitValues s = .ok others ∧ ds = d :: others := by
  unfold digitValues at reads
  rcases first : digitValue c with fault | d
  · simp [first, bind, Except.bind] at reads
  · rcases rest : digitValues s with fault | others
    · simp [first, rest, bind, Except.bind] at reads
    · simp only [first, rest, bind, Except.bind, pure, Except.pure, Except.ok.injEq] at reads
      exact ⟨d, others, rfl, rfl, reads.symm⟩

theorem digitValues_eq_ok_iff : digitValues s = .ok ds ↔ (∀ d ∈ ds, d < 58) ∧ ds.map letter = s := by
  constructor
  · intro reads
    induction s generalizing ds with
    | nil =>
      cases reads
      simp
    | cons c s ih =>
      obtain ⟨d, others, first, rest, rfl⟩ := digitValues_cons reads
      obtain ⟨small, same⟩ := digitValue_eq_ok_iff.mp first
      obtain ⟨each, others⟩ := ih rest
      exact ⟨List.forall_mem_cons.mpr ⟨small, each⟩, by rw [List.map_cons, same, others]⟩
  · rintro ⟨small, rfl⟩
    induction ds with
    | nil => rfl
    | cons d ds ih =>
      obtain ⟨first, rest⟩ := List.forall_mem_cons.mp small
      have head : digitValue (letter d) = .ok d := digitValue_eq_ok_iff.mpr ⟨first, rfl⟩
      simp only [List.map_cons, digitValues, head, ih rest, bind, Except.bind, pure, Except.pure]

theorem mem_of_digitValues (reads : digitValues s = .ok ds) : ∀ c ∈ s, c ∈ alphabet := by
  obtain ⟨small, rfl⟩ := digitValues_eq_ok_iff.mp reads
  intro c member
  obtain ⟨d, inside, rfl⟩ := List.mem_map.mp member
  have bound : d < alphabet.length := small d inside
  rw [letter, List.getD_eq_getElem alphabet '1' bound]
  exact List.getElem_mem bound

theorem length_leading_ones (reads : digitValues s = .ok ds) :
    (s.takeWhile (· == '1')).length = (ds.takeWhile (· == 0)).length := by
  induction s generalizing ds with
  | nil =>
    cases reads
    rfl
  | cons c s ih =>
    obtain ⟨d, others, first, rest, rfl⟩ := digitValues_cons reads
    by_cases one : c = '1'
    · subst one
      cases first
      simp [ih rest]
    · have positive : d ≠ 0 := by
        rintro rfl
        exact one (digitValue_eq_ok_iff.mp first).2.symm
      simp [one, positive]

end Digits

theorem lt_of_mem_map_toNat (bytes : Bytes) : ∀ d ∈ bytes.map UInt8.toNat, d < 256 := by
  intro d member
  obtain ⟨byte, _, rfl⟩ := List.mem_map.mp member
  exact byte.toNat_lt

theorem encode_eq_rebase (bytes : Bytes) :
    encode bytes = (rebase 256 58 (bytes.map UInt8.toNat)).map letter := by
  have zeros : (bytes.map UInt8.toNat).takeWhile (· == 0) =
      (bytes.takeWhile (· == 0)).map UInt8.toNat := by
    rw [List.takeWhile_map]
    congr 2
    funext byte
    simp [← UInt8.toNat_inj]
  rw [encode, rebase, zeros, List.map_append, List.map_replicate, List.length_map]
  rfl

theorem decode_of_digitValues {s : Text} {ds : List Nat} (reads : digitValues s = .ok ds) :
    decode s = .ok ((rebase 58 256 ds).map UInt8.ofNat) := by
  simp only [decode, reads, bind, Except.bind, pure, Except.pure, length_leading_ones reads, rebase,
    List.map_append, List.map_replicate]
  rfl

theorem toNat_ofNat_rebase (ds : List Nat) :
    ((rebase 58 256 ds).map UInt8.ofNat).map UInt8.toNat = rebase 58 256 ds := by
  rw [List.map_map]
  refine (List.map_congr_left fun d member => ?_).trans (List.map_id _)
  exact UInt8.toNat_ofNat_of_lt' (Positional.lt_of_mem_rebase (by decide) d member)

theorem exists_digitValues {s : Text} {bytes : Bytes} (reads : decode s = .ok bytes) :
    ∃ ds, digitValues s = .ok ds ∧ bytes = (rebase 58 256 ds).map UInt8.ofNat := by
  rcases found : digitValues s with fault | ds
  · simp [decode, found, bind, Except.bind] at reads
  · cases (decode_of_digitValues found).symm.trans reads
    exact ⟨ds, rfl, rfl⟩

theorem decode_eq_ok_iff {s : Text} {bytes : Bytes} : decode s = .ok bytes ↔ s = encode bytes := by
  constructor
  · intro reads
    obtain ⟨ds, found, rfl⟩ := exists_digitValues reads
    obtain ⟨small, same⟩ := digitValues_eq_ok_iff.mp found
    rw [encode_eq_rebase, toNat_ofNat_rebase, Positional.rebase_rebase (by decide) (by decide) small, same]
  · rintro rfl
    have small := lt_of_mem_map_toNat bytes
    have digits : digitValues (encode bytes) = .ok (rebase 256 58 (bytes.map UInt8.toNat)) :=
      digitValues_eq_ok_iff.mpr
        ⟨Positional.lt_of_mem_rebase (by decide), (encode_eq_rebase bytes).symm⟩
    rw [decode_of_digitValues digits, Positional.rebase_rebase (by decide) (by decide) small,
      List.map_map]
    exact congrArg Except.ok ((List.map_congr_left fun byte _ => UInt8.ofNat_toNat).trans (List.map_id _))

theorem value_of_decode {s : Text} {bytes : Bytes} (reads : decode s = .ok bytes) :
    ∃ ds, digitValues s = .ok ds ∧
      Positional.value 256 (bytes.map UInt8.toNat) = Positional.value 58 ds := by
  obtain ⟨ds, found, rfl⟩ := exists_digitValues reads
  refine ⟨ds, found, ?_⟩
  rw [toNat_ofNat_rebase, rebase, Positional.value_replicate_zero, Positional.value_digits (by decide)]

def number (bytes : Bytes) : Nat :=
  Positional.value 256 (bytes.map UInt8.toNat)

theorem number_append (front rest : Bytes) :
    number (front ++ rest) = number front * 256 ^ rest.length + number rest := by
  rw [number, List.map_append, Positional.value_append, List.length_map]
  rfl

theorem number_lt (bytes : Bytes) : number bytes < 256 ^ bytes.length := by
  have bound := Positional.value_lt (show 1 < 256 by decide) (lt_of_mem_map_toNat bytes)
  rwa [List.length_map] at bound

theorem encode_cons {first : UInt8} (rest : Bytes) (filled : first ≠ 0) :
    encode (first :: rest) = (Positional.digits 58 (number (first :: rest))).map letter := by
  have positive : first.toNat ≠ 0 := fun zero => filled (UInt8.toNat_inj.mp zero)
  rw [encode_eq_rebase, rebase, List.map_cons, List.takeWhile_cons_of_neg (by simpa using positive)]
  rfl

theorem length_encode_cons {first : UInt8} {rest : Bytes} {count : Nat} (filled : first ≠ 0)
    (low : 58 ^ count ≤ first.toNat * 256 ^ rest.length)
    (high : (first.toNat + 1) * 256 ^ rest.length ≤ 58 ^ (count + 1)) :
    (encode (first :: rest)).length = count + 1 := by
  have bounds := Positional.value_cons_bounds (d := first.toNat) (by decide) (lt_of_mem_map_toNat rest)
  rw [List.length_map] at bounds
  have size := Positional.lt_length_digits_iff (show 1 < 58 by decide) (number (first :: rest))
  have more := (size count).mpr (low.trans bounds.1)
  have less := (size (count + 1)).not.mpr (Nat.not_le.mpr (bounds.2.trans_le high))
  rw [encode_cons rest filled, List.length_map]
  omega

def textNumber (s : Text) : Nat :=
  Positional.value 58 (s.map alphabet.idxOf)

theorem map_letter_idxOf {s : Text} (known : s ⊆ alphabet) : (s.map alphabet.idxOf).map letter = s := by
  rw [List.map_map]
  refine (List.map_congr_left fun c member => ?_).trans (List.map_id s)
  have bound := List.idxOf_lt_length_iff.mpr (known member)
  exact (List.getD_eq_getElem alphabet '1' bound).trans (List.getElem_idxOf bound)

theorem idxOf_ne_zero {c : Char} (lead : c ≠ '1') : alphabet.idxOf c ≠ 0 := by
  have first : alphabet = '1' :: alphabet.tail := by decide
  rw [first, List.idxOf_cons_ne _ lead.symm]
  exact Nat.succ_ne_zero _

theorem textNumber_pos {c : Char} (s : Text) (lead : c ≠ '1') : 0 < textNumber (c :: s) := by
  have power : 0 < 58 ^ (s.map alphabet.idxOf).length := Nat.pow_pos (by decide)
  rw [textNumber, List.map_cons, Positional.value_cons]
  exact Nat.add_pos_left (Nat.mul_pos (Nat.pos_of_ne_zero (idxOf_ne_zero lead)) power) _

theorem digits_textNumber {c : Char} {s : Text} (known : c :: s ⊆ alphabet) (lead : c ≠ '1') :
    Positional.digits 58 (textNumber (c :: s)) = (c :: s).map alphabet.idxOf := by
  have small : ∀ d ∈ (c :: s).map alphabet.idxOf, d < 58 :=
    List.forall_mem_map.mpr fun d member => List.idxOf_lt_length_iff.mpr (known member)
  exact Positional.digits_value (by decide) small (by simpa using idxOf_ne_zero lead)

theorem prefix_encode {mark : Text} {front rest : Bytes} {count : Nat} (known : mark ⊆ alphabet)
    (lead : mark.head? ≠ some '1') (filled : front.head? ≠ some 0)
    (low : textNumber mark * 58 ^ count ≤ number front * 256 ^ rest.length)
    (high : (number front + 1) * 256 ^ rest.length ≤ (textNumber mark + 1) * 58 ^ count) :
    mark <+: encode (front ++ rest) := by
  cases mark with
  | nil => exact List.nil_prefix
  | cons c mark =>
    have lead : c ≠ '1' := by simpa using lead
    have large := Nat.le_mul_of_pos_left (58 ^ count) (textNumber_pos mark lead)
    have tail := number_lt rest
    have whole := number_append front rest
    rw [Nat.succ_mul, Nat.succ_mul] at high
    have above : number (front ++ rest) / 58 ^ count = textNumber (c :: mark) := by
      apply Nat.div_eq_of_lt_le
      · omega
      · rw [Nat.succ_mul]
        omega
    cases front with
    | nil =>
      have room : 0 < 58 ^ count := Nat.pow_pos (by decide)
      have zero : number [] = 0 := rfl
      rw [zero, Nat.zero_mul] at low
      omega
    | cons first front =>
      have filled : first ≠ 0 := by simpa using filled
      have enough : 58 ^ count ≤ number (first :: front ++ rest) := by omega
      obtain ⟨others, split⟩ := Positional.exists_digits_append (show 1 < 58 by decide) enough
      rw [above, digits_textNumber known lead, List.cons_append] at split
      rw [List.cons_append, encode_cons _ filled, split, List.map_append, map_letter_idxOf known]
      exact List.prefix_append _ _

theorem length_checksum (payload : Bytes) : (checksum payload).length = 4 := by
  rw [checksum, Sha256.hashTwice, List.length_take, Sha256.length_hash]
  rfl

theorem openCheck_short {bytes : Bytes} (few : bytes.length < 4) : openCheck bytes = .error .tooShort := by
  rw [openCheck, if_pos few]

theorem openCheck_append {payload tail : Bytes} (four : tail.length = 4) :
    openCheck (payload ++ tail) = if tail = checksum payload then .ok payload else .error .checksumMismatch := by
  have size : (payload ++ tail).length - 4 = payload.length := by
    rw [List.length_append, four, Nat.add_sub_cancel]
  have long : ¬ (payload ++ tail).length < 4 := by
    rw [List.length_append, four]
    omega
  simp only [openCheck, long, size, List.drop_left, List.take_left, if_false]

theorem exists_tail {bytes : Bytes} (many : ¬ bytes.length < 4) :
    ∃ payload tail, bytes = payload ++ tail ∧ tail.length = 4 := by
  refine ⟨_, _, (List.take_append_drop (bytes.length - 4) bytes).symm, ?_⟩
  rw [List.length_drop]
  omega

theorem openCheck_eq_ok_iff {bytes payload : Bytes} :
    openCheck bytes = .ok payload ↔ bytes = payload ++ checksum payload := by
  constructor
  · intro opens
    by_cases few : bytes.length < 4
    · rw [openCheck_short few] at opens
      cases opens
    · obtain ⟨before, tail, rfl, four⟩ := exists_tail few
      rw [openCheck_append four] at opens
      split at opens
      · next same =>
        cases opens
        rw [same]
      · cases opens
  · rintro rfl
    rw [openCheck_append (length_checksum payload), if_pos rfl]

theorem decodeCheck_eq_ok_iff {s : Text} {payload : Bytes} :
    decodeCheck s = .ok payload ↔ s = encodeCheck payload := by
  constructor
  · intro reads
    rcases found : decode s with fault | bytes
    · simp [decodeCheck, found, bind, Except.bind] at reads
    · simp only [decodeCheck, found, bind, Except.bind] at reads
      rw [openCheck_eq_ok_iff.mp reads] at found
      exact decode_eq_ok_iff.mp found
  · rintro rfl
    have found : decode (encodeCheck payload) = .ok (payload ++ checksum payload) :=
      decode_eq_ok_iff.mpr rfl
    simp only [decodeCheck, found, bind, Except.bind]
    exact openCheck_eq_ok_iff.mpr rfl

section Refusal

variable {c : Char} {s : Text} {fault : DecodeError}

theorem digitValue_of_foreign (foreign : c ∉ alphabet) : digitValue c = .error (.invalidCharacter c) := by
  rw [digitValue, List.idxOf?_eq_none_iff.mpr foreign]

theorem exists_digitValue (known : c ∈ alphabet) : ∃ d, digitValue c = .ok d := by
  obtain ⟨d, found⟩ := Option.isSome_iff_exists.mp (List.isSome_idxOf?.mpr known)
  exact ⟨d, by rw [digitValue, found]⟩

theorem digitValues_eq_error_iff :
    digitValues s = .error fault ↔ ∃ c, s.find? (· ∉ alphabet) = some c ∧ fault = .invalidCharacter c := by
  induction s with
  | nil => simp [digitValues]
  | cons d s ih =>
    by_cases known : d ∈ alphabet
    · obtain ⟨value, first⟩ := exists_digitValue known
      have later : (d :: s).find? (· ∉ alphabet) = s.find? (· ∉ alphabet) :=
        List.find?_cons_of_neg (by simpa using known)
      rw [later, ← ih]
      cases rest : digitValues s <;>
        simp [digitValues, first, rest, bind, Except.bind, pure, Except.pure]
    · have here : (d :: s).find? (· ∉ alphabet) = some d := List.find?_cons_of_pos (by simpa using known)
      have stops : digitValues (d :: s) = .error (.invalidCharacter d) := by
        simp only [digitValues, digitValue_of_foreign known, bind, Except.bind]
      rw [stops, here]
      constructor
      · rintro ⟨⟩
        exact ⟨d, rfl, rfl⟩
      · rintro ⟨_, ⟨⟩, rfl⟩
        rfl

theorem decode_eq_error_iff :
    decode s = .error fault ↔ ∃ c, s.find? (· ∉ alphabet) = some c ∧ fault = .invalidCharacter c := by
  rw [← digitValues_eq_error_iff]
  cases digits : digitValues s <;> simp [decode, digits, bind, Except.bind, pure, Except.pure]

theorem exists_decode_iff : (∃ bytes, decode s = .ok bytes) ↔ ∀ c ∈ s, c ∈ alphabet := by
  constructor
  · rintro ⟨bytes, reads⟩
    obtain ⟨ds, digits, _⟩ := exists_digitValues reads
    exact mem_of_digitValues digits
  · intro known
    cases reads : decode s with
    | ok bytes => exact ⟨bytes, rfl⟩
    | error fault =>
      obtain ⟨c, first, _⟩ := decode_eq_error_iff.mp reads
      have foreign := List.find?_some first
      simp [known c (List.mem_of_find?_eq_some first)] at foreign

inductive Refused : Text → DecodeError → Prop
  | foreign {s : Text} {c : Char} (first : s.find? (· ∉ alphabet) = some c) : Refused s (.invalidCharacter c)
  | short {bytes : Bytes} (few : bytes.length < 4) : Refused (encode bytes) .tooShort
  | mismatched {payload tail : Bytes} (four : tail.length = 4) (other : tail ≠ checksum payload) :
      Refused (encode (payload ++ tail)) .checksumMismatch

theorem decodeCheck_eq_error_iff : decodeCheck s = .error fault ↔ Refused s fault := by
  constructor
  · intro refuses
    cases found : decode s with
    | error fault' =>
      simp only [decodeCheck, found, bind, Except.bind] at refuses
      cases refuses
      obtain ⟨c, first, rfl⟩ := decode_eq_error_iff.mp found
      exact .foreign first
    | ok bytes =>
      simp only [decodeCheck, found, bind, Except.bind] at refuses
      rw [decode_eq_ok_iff.mp found]
      by_cases few : bytes.length < 4
      · rw [openCheck_short few] at refuses
        cases refuses
        exact .short few
      · obtain ⟨payload, tail, rfl, four⟩ := exists_tail few
        rw [openCheck_append four] at refuses
        split at refuses
        · cases refuses
        · next other =>
          cases refuses
          exact .mismatched four other
  · intro refused
    cases refused with
    | foreign first =>
      have stops := decode_eq_error_iff.mpr ⟨_, first, rfl⟩
      simp only [decodeCheck, stops, bind, Except.bind]
    | short few =>
      simp only [decodeCheck, decode_eq_ok_iff.mpr rfl, bind, Except.bind, openCheck_short few]
    | mismatched four other =>
      simp only [decodeCheck, decode_eq_ok_iff.mpr rfl, bind, Except.bind, openCheck_append four, other, if_false]

end Refusal

/-- Byte strings and texts over the alphabet determine each other, and so do payloads and the texts that carry
their checksum. No other text is read, and the fault that is reported is the one that the text has. -/
theorem codec_bijective :
    (∀ bytes, decode (encode bytes) = .ok bytes) ∧
      (∀ s : Text, (∀ c ∈ s, c ∈ alphabet) → ∃ bytes, decode s = .ok bytes ∧ encode bytes = s) ∧
      (∀ s : Text, (∃ c ∈ s, c ∉ alphabet) →
        ∃ c, s.find? (· ∉ alphabet) = some c ∧ decode s = .error (.invalidCharacter c)) ∧
      (∀ s payload, decodeCheck s = .ok payload ↔ s = encodeCheck payload) ∧
      ∀ s, (∀ payload, s ≠ encodeCheck payload) → ∃ fault, decodeCheck s = .error fault ∧ Refused s fault := by
  refine ⟨fun bytes => decode_eq_ok_iff.mpr rfl, ?_, ?_, fun s payload => decodeCheck_eq_ok_iff, ?_⟩
  · intro s known
    obtain ⟨bytes, reads⟩ := exists_decode_iff.mpr known
    exact ⟨bytes, reads, (decode_eq_ok_iff.mp reads).symm⟩
  · rintro s ⟨d, member, foreign⟩
    have found : (s.find? (· ∉ alphabet)).isSome := List.find?_isSome.mpr ⟨d, member, by simpa using foreign⟩
    obtain ⟨c, first⟩ := Option.isSome_iff_exists.mp found
    exact ⟨c, first, decode_eq_error_iff.mpr ⟨c, first, rfl⟩⟩
  · intro s unwritten
    cases reads : decodeCheck s with
    | ok payload => exact absurd (decodeCheck_eq_ok_iff.mp reads) (unwritten payload)
    | error fault => exact ⟨fault, rfl, decodeCheck_eq_error_iff.mp reads⟩

theorem codec_bijective_zeros :
    (∃ bytes, decode ['1', '1', '2'] = .ok bytes ∧ encode bytes = ['1', '1', '2']) ∧
      (∃ c, ['2', 'l', '0'].find? (· ∉ alphabet) = some c ∧ decode ['2', 'l', '0'] = .error (.invalidCharacter c)) ∧
      ∃ fault, decodeCheck ['1', '1', '2'] = .error fault ∧ Refused ['1', '1', '2'] fault := by
  obtain ⟨_, inside, outside, _, refused⟩ := codec_bijective
  have known : ∀ c ∈ ['1', '1', '2'], c ∈ alphabet := List.all_iff_forall_prop.mp (by decide)
  have foreign : ∃ c ∈ ['2', 'l', '0'], c ∉ alphabet := ⟨'l', by decide, by decide⟩
  refine ⟨inside _ known, outside _ foreign, refused _ fun payload written => ?_⟩
  have reads := decodeCheck_eq_ok_iff.mpr written
  have short : decodeCheck ['1', '1', '2'] = .error .tooShort := by decide +kernel
  cases short.symm.trans reads

end Base58

end SpendPolicy
