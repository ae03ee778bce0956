import SpendPolicy.Proofs.Key.Base58
import SpendPolicy.Proofs.Key.Languages

set_option autoImplicit false

namespace SpendPolicy

namespace ExtendedKey

def versions : List (Text × Bytes × KeyKind × Network) :=
  [(['x', 'p', 'r', 'v'], [0x04, 0x88, 0xAD, 0xE4], .priv, .main),
    (['x', 'p', 'u', 'b'], [0x04, 0x88, 0xB2, 0x1E], .pub, .main),
    (['t', 'p', 'r', 'v'], [0x04, 0x35, 0x83, 0x94], .priv, .test),
    (['t', 'p', 'u', 'b'], [0x04, 0x35, 0x87, 0xCF], .pub, .test)]

section Listed

variable {mark : Text} {version payload rest : Bytes} {kind : KeyKind} {network : Network}

theorem prefix_of_version (listed : (mark, version, kind, network) ∈ versions) (size : rest.length = 78) :
    mark <+: Base58.encode (version ++ rest) := by
  have bounds : ∀ entry ∈ versions, entry.1 ⊆ Base58.alphabet ∧
      entry.1.head? ≠ some '1' ∧ entry.2.1.head? ≠ some 0 ∧
      Base58.textNumber entry.1 * 58 ^ 107 ≤ Base58.number entry.2.1 * 256 ^ 78 ∧
      (Base58.number entry.2.1 + 1) * 256 ^ 78 ≤ (Base58.textNumber entry.1 + 1) * 58 ^ 107 := by
    decide +kernel
  obtain ⟨known, lead, filled, low, high⟩ := bounds _ listed
  exact Base58.prefix_encode known lead filled (by rwa [size]) (by rwa [size])

theorem mark_of_version (listed : (mark, payload.take 4, kind, network) ∈ versions)
    (size : payload.length = 78) : mark <+: Base58.encodeCheck payload := by
  have rest : (payload.drop 4 ++ Base58.checksum payload).length = 78 := by
    rw [List.length_append, List.length_drop, size, Base58.length_checksum]
  have begins := prefix_of_version listed rest
  rwa [← List.append_assoc, List.take_append_drop] at begins

theorem exists_listed (known : isKnownVersion version = true) :
    ∃ mark kind network, (mark, version, kind, network) ∈ versions := by
  have each : ∀ version ∈ [mainPrivate, mainPublic, testPrivate, testPublic],
      ∃ entry ∈ versions, entry.2.1 = version := by decide
  obtain ⟨⟨mark, _, kind, network⟩, listed, rfl⟩ := each version (List.contains_iff_mem.mp known)
  exact ⟨mark, kind, network, listed⟩

theorem version_of_mark (known : isKnownVersion (payload.take 4) = true) (size : payload.length = 78)
    (listed : (mark, kind, network) ∈ marks) (begins : mark <+: Base58.encodeCheck payload) :
    (mark, payload.take 4, kind, network) ∈ versions := by
  have four : ∀ entry ∈ versions, entry.1.length = 4 := by decide
  have agree : ∀ entry ∈ versions, ∀ other ∈ marks, other.1 = entry.1 → other.2 = entry.2.2 := by decide
  obtain ⟨mark', kind', network', entry⟩ := exists_listed known
  have same : mark = mark' := by
    have lengths : mark.length = mark'.length := (length_of_mem_marks listed).trans (four _ entry).symm
    have both := List.prefix_of_prefix_length_le begins (mark_of_version entry size) lengths.le
    exact both.eq_of_length lengths
  subst same
  cases agree _ entry _ listed rfl
  exact entry

end Listed

theorem Accepts.exists_version {e : KeyExpression} {kind : KeyKind} {network : Network}
    (accepts : Accepts e kind network) :
    ∃ payload, Base58.decodeCheck e.key.trimRight = .ok payload ∧ payload.length = 78 ∧
      (e.key.take 4, payload.take 4, kind, network) ∈ versions := by
  obtain ⟨key, decodes⟩ := accepts.decodes
  obtain ⟨payload, opened, size, known⟩ := exists_payload_of_decode decodes
  have begins : e.key.take 4 <+: Base58.encodeCheck payload := by
    rw [← accepts.take_trimRight, ← Base58.decodeCheck_eq_ok_iff.mp opened]
    exact List.take_prefix 4 _
  exact ⟨payload, opened, size, version_of_mark known size (ofText?_eq_supported_iff.mp accepts.mark) begins⟩

end ExtendedKey

theorem mark_agrees_with_version {s : Text} {kind : KeyKind} {network : Network}
    (accepted : Key.classify s = .ok (.extended kind network)) :
    ∃ payload, Base58.decodeCheck (KeyExpression.split s).key.trimRight = .ok payload ∧ payload.length = 78 ∧
      ((KeyExpression.split s).key.take 4, payload.take 4, kind, network) ∈ ExtendedKey.versions := by
  obtain ⟨e, cut, rfl, accepts⟩ := (Key.classify_eq_ok_iff.mp accepted).exists_accepts
  rw [KeyExpression.split_text cut]
  exact accepts.exists_version

theorem mark_agrees_with_version_private :
    let s := ("[deadbeef/44h/1']tprv8ZgxMBicQKsPfDTA8ufnUdCDy8qXUDnxd8PYWprimNdtVSk4mBMd".toList
      ++ "kAPF6X1cemMjf6LyznfhwbPCsxfiof4BM4DkE8TQtV3HBw2krSqFqHA/<0;1>/*".toList)
    Key.classify s = .ok (.extended .priv .test) ∧
      ∃ payload, Base58.decodeCheck (KeyExpression.split s).key.trimRight = .ok payload ∧ payload.length = 78 ∧
        ((KeyExpression.split s).key.take 4, payload.take 4, .priv, .test) ∈ ExtendedKey.versions := by
  intro s
  have accepted : Key.classify s = .ok (.extended .priv .test) := by decide +kernel
  exact ⟨accepted, mark_agrees_with_version accepted⟩

end SpendPolicy
