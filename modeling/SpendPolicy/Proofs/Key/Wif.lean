import Mathlib.Tactic.NormNum
import SpendPolicy.Key.Wif
import SpendPolicy.Proofs.Key.Base58

set_option autoImplicit false

namespace SpendPolicy.Wif

def versions : List (UInt8 × Network) :=
  [(0x80, .main), (0xEF, .test)]

def Writes (network : Network) (s : Text) : Prop :=
  ∃ version secret, (version, network) ∈ versions ∧ secret.length = 32 ∧
    (s = Base58.encodeCheck (version :: secret) ∨ s = Base58.encodeCheck (version :: secret ++ [0x01]))

theorem networkOfVersion?_eq_some_iff {version : UInt8} {network : Network} :
    networkOfVersion? version = some network ↔ (version, network) ∈ versions := by
  simp only [networkOfVersion?, versions, List.mem_cons, List.not_mem_nil, or_false, Prod.mk.injEq]
  constructor
  · intro found
    split at found
    · next main =>
      cases found
      exact .inl ⟨main, rfl⟩
    · split at found
      · next test =>
        cases found
        exact .inr ⟨test, rfl⟩
      · cases found
  · rintro (⟨rfl, rfl⟩ | ⟨rfl, rfl⟩) <;> rfl

theorem isSecret_iff {bytes : Bytes} :
    isSecret bytes = true ↔
      ∃ secret : Bytes, secret.length = 32 ∧ (bytes = secret ∨ bytes = secret ++ [0x01]) := by
  simp only [isSecret, Bool.or_eq_true, Bool.and_eq_true, beq_iff_eq]
  constructor
  · rintro (size | ⟨size, last⟩)
    · exact ⟨bytes, size, .inl rfl⟩
    · refine ⟨bytes.dropLast, ?_, .inr (List.dropLast_append_getLast? _ last).symm⟩
      rw [List.length_dropLast, size]
  · rintro ⟨secret, size, rfl | rfl⟩
    · exact .inl size
    · exact .inr ⟨by rw [List.length_append, size]; rfl, List.getLast?_concat⟩

theorem toNat_of_mem_versions {version : UInt8} {network : Network}
    (known : (version, network) ∈ versions) : version.toNat = 128 ∨ version.toNat = 239 := by
  simp only [versions, List.mem_cons, List.not_mem_nil, or_false, Prod.mk.injEq] at known
  rcases known with ⟨rfl, _⟩ | ⟨rfl, _⟩
  · exact .inl rfl
  · exact .inr rfl

theorem bounds_of_size {first size : Nat} (version : first = 128 ∨ first = 239)
    (secret : size = 32 ∨ size = 33) :
    58 ^ (size + 18) ≤ first * 256 ^ (size + 4) ∧ (first + 1) * 256 ^ (size + 4) ≤ 58 ^ (size + 19) := by
  rcases version with rfl | rfl <;> rcases secret with rfl | rfl <;> norm_num

theorem length_encodeCheck {version : UInt8} {network : Network} {rest : Bytes}
    (known : (version, network) ∈ versions) (size : rest.length = 32 ∨ rest.length = 33) :
    (Base58.encodeCheck (version :: rest)).length = rest.length + 19 := by
  have byte := toNat_of_mem_versions known
  have filled : version ≠ 0 := by
    rintro rfl
    simp at byte
  have whole : (rest ++ Base58.checksum (version :: rest)).length = rest.length + 4 := by
    rw [List.length_append, Base58.length_checksum]
  have bounds := bounds_of_size byte size
  rw [← whole] at bounds
  exact Base58.length_encode_cons filled bounds.1 bounds.2

section Writes

variable {network : Network} {s : Text}

theorem Writes.exists_payload (writes : Writes network s) :
    ∃ version rest, (version, network) ∈ versions ∧ isSecret rest = true ∧
      (rest.length = 32 ∨ rest.length = 33) ∧ Base58.decodeCheck s = .ok (version :: rest) := by
  obtain ⟨version, secret, known, size, rfl | rfl⟩ := writes
  · exact ⟨version, secret, known, isSecret_iff.mpr ⟨secret, size, .inl rfl⟩, .inl size,
      Base58.decodeCheck_eq_ok_iff.mpr rfl⟩
  · exact ⟨version, secret ++ [0x01], known, isSecret_iff.mpr ⟨secret, size, .inr rfl⟩,
      .inr (by rw [List.length_append, size]; rfl), Base58.decodeCheck_eq_ok_iff.mpr rfl⟩

theorem Writes.length (writes : Writes network s) : s.length = 51 ∨ s.length = 52 := by
  obtain ⟨version, rest, known, _, size, opened⟩ := writes.exists_payload
  rw [Base58.decodeCheck_eq_ok_iff.mp opened, length_encodeCheck known size]
  omega

theorem network?_eq_some_iff : network? s = some network ↔ Writes network s := by
  constructor
  · intro found
    unfold network? at found
    split at found
    · split at found
      · next version rest opened =>
        split at found
        · next fits =>
          obtain ⟨secret, size, form⟩ := isSecret_iff.mp fits
          have written := Base58.decodeCheck_eq_ok_iff.mp opened
          refine ⟨version, secret, networkOfVersion?_eq_some_iff.mp found, size, ?_⟩
          rcases form with rfl | rfl
          · exact .inl written
          · exact .inr written
        · cases found
      · cases found
    · cases found
  · intro writes
    obtain ⟨version, rest, known, fits, _, opened⟩ := writes.exists_payload
    have length : (s.length = 51 || s.length = 52) = true := by simpa using writes.length
    simp only [network?, length, if_true, opened, fits, networkOfVersion?_eq_some_iff.mpr known]

theorem no_common_number {number digit first digits bytes : Nat} (digitCount : digits = 50 ∨ digits = 51)
    (byteCount : bytes = 36 ∨ bytes = 37) (version : first = 128 ∨ first = 239)
    (large : 43 ≤ digit) (small : digit < 58)
    (inDigits : digit * 58 ^ digits ≤ number ∧ number < (digit + 1) * 58 ^ digits)
    (inBytes : first * 256 ^ bytes ≤ number ∧ number < (first + 1) * 256 ^ bytes) : False := by
  have least : 43 * 58 ^ digits ≤ number := (Nat.mul_le_mul_right _ large).trans inDigits.1
  have greatest : number < 58 * 58 ^ digits := inDigits.2.trans_le (Nat.mul_le_mul_right _ small)
  clear inDigits
  rcases digitCount with rfl | rfl <;> rcases byteCount with rfl | rfl <;>
    rcases version with rfl | rfl <;> norm_num at least greatest inBytes <;> omega

theorem network?_of_digit {c : Char} {digit : Nat} (first : Base58.digitValue c = .ok digit)
    (large : 43 ≤ digit) (s : Text) : network? (c :: s) = none := by
  rcases found : network? (c :: s) with _ | network
  · rfl
  · exfalso
    have writes := network?_eq_some_iff.mp found
    obtain ⟨version, rest, known, _, size, opened⟩ := writes.exists_payload
    have decoded := Base58.decode_eq_ok_iff.mpr (Base58.decodeCheck_eq_ok_iff.mp opened)
    obtain ⟨values, reads, same⟩ := Base58.value_of_decode decoded
    obtain ⟨value, others, again, later, rfl⟩ := Base58.digitValues_cons reads
    cases first.symm.trans again
    obtain ⟨small, letters⟩ := Base58.digitValues_eq_ok_iff.mp later
    have digits := Positional.value_cons_bounds (d := digit) (by decide) small
    have bytes := Positional.value_cons_bounds (d := version.toNat) (by decide)
      (Base58.lt_of_mem_map_toNat (rest ++ Base58.checksum (version :: rest)))
    rw [List.cons_append, List.map_cons] at same
    rw [same, List.length_map, List.length_append, Base58.length_checksum] at bytes
    have length := writes.length
    rw [← letters, List.length_cons, List.length_map] at length
    exact no_common_number (by omega) (by omega) (toNat_of_mem_versions known) large
      (Base58.digitValue_eq_ok_iff.mp first).1 digits bytes

end Writes

end SpendPolicy.Wif
