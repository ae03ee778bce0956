import SpendPolicy.Proofs.Key.Acceptance
import SpendPolicy.Proofs.Numeral.Decimal
import SpendPolicy.Substitution.Extraction

set_option autoImplicit false

namespace SpendPolicy

namespace Key

open Extraction

theorem classify_placeholder (n : Nat) (form : KeyForm) : classify (placeholder n) ≠ .ok form := by
  intro accepted
  obtain ⟨notCompressed, notUncompressed⟩ :=
    not_compressed (s := placeholder n) ⟨'k', by simp [placeholder], by decide⟩
  have notWif : Wif.network? (placeholder n) = none :=
    Wif.network?_of_digit (c := 'k') (Eq.refl (Except.ok 43)) (Nat.le_refl 43) _
  have extended : ExtendedKey.classify? (placeholder n) = some (.ok form) := by
    simp only [classify, notCompressed, notUncompressed, notWif, Bool.false_eq_true, if_false]
      at accepted
    cases found : ExtendedKey.classify? (placeholder n) with
    | none => simp [found] at accepted
    | some answer => rw [← accepted, found, Option.getD_some]
  obtain ⟨e, _, same, c, rest, begins, _⟩ := ExtendedKey.exists_key_of_classify? extended
  have inside : 'p' ∈ placeholder n := by simp [← same, KeyExpression.text, begins]
  rcases List.mem_append.mp inside with letter | digit
  · exact absurd letter (by decide)
  · exact Numeral.notMem_ofNat (by decide) digit

end Key

end SpendPolicy
