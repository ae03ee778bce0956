import SpendPolicy.Proofs.Config.Patterns
import SpendPolicy.Proofs.Validation.Spelling

set_option autoImplicit false

namespace SpendPolicy

open Extraction

theorem isAdmitted_of_isKey {key : Text} (accepted : Key.isKey key = true) :
    IsAdmitted .default key := by
  obtain ⟨form, classified⟩ := Key.isKey_iff.mp accepted
  exact ⟨form, classified, nofun⟩

section Pattern

variable {config : Config} {keys : List Text}

theorem Config.Pattern.read_template (pattern : config.Pattern keys)
    (arguments : ∀ key ∈ keys, Policy.IsArgument key) (distinct : keys.Nodup)
    (legible : Numeral.Legible config.groupQuorum.toNat) :
    contents config.form = keys ∧
      Policy.read (ofText config.form).template = .ok (config.policyBy (placeholderOf keys)) := by
  have presents := pattern.presents arguments legible
  have found : written (pieces config.form) = keys := by
    simp [presents.hasSites.written, List.filterMap_map, Function.comp_def, Policy.KeySite.content?]
  have tight : spacedKeys config.form = 0 := by
    simp [presents.hasSites.spaced, List.countP_map, Function.comp_def, Policy.KeySite.isHidden]
  have own : contents config.form = keys := (contents_of_nodup (found.symm ▸ distinct)).trans found
  obtain ⟨other, template, shape, names, _⟩ :=
    Policy.exists_read_template_of_tight presents.read_eq tight
  have same : other = config.policyBy (placeholderOf keys) := by
    apply Policy.eq_of_shape_of_keys
    · rw [shape, Policy.shape, Policy.shape, rename_policyBy, rename_policyBy]
      rfl
    · rw [names, found, own, pattern.keys_policyBy]
  exact ⟨own, same ▸ template⟩

theorem pattern_valid (signers : config.signers? = some keys) (checked : config.check = .ok ())
    (accepted : ∀ key ∈ keys, Key.isKey key = true) (distinct : keys.Nodup)
    (legible : Numeral.Legible config.groupQuorum.toNat) :
    ∃ expression compiled keyMap, config.expression = .ok expression ∧
      Validator.validate ⟨miniscriptCompiler, .default⟩ expression = .valid compiled keyMap := by
  have pattern := Config.pattern_of_check signers checked
  have admitted : ∀ key ∈ keys, IsAdmitted .default key :=
    fun key member => isAdmitted_of_isKey (accepted key member)
  have arguments : ∀ key ∈ keys, Policy.IsArgument key :=
    fun key member => (admitted key member).isArgument
  have filled := Policy.trim_ne_nil_of_read (pattern.presents arguments legible).read_eq
  obtain ⟨own, template⟩ := pattern.read_template arguments distinct legible
  have fresh : (config.policyBy (placeholderOf keys)).keys.Nodup := by
    rw [pattern.keys_policyBy]
    exact nodup_map_placeholderOf (fun _ => id) distinct
  obtain ⟨compiled, sound⟩ :=
    pattern.secured.exists_sound (Policy.wellFormed_of_read template) fresh
  obtain ⟨keyMap, valid⟩ := exists_valid_iff.mpr
    ⟨filled, own.symm ▸ admitted, (miniscriptCompiler_of_read template).trans sound⟩
  exact ⟨config.form, compiled, keyMap, by simp only [Config.expression, checked], valid⟩

theorem pattern_valid_inheritance :
    let key (digit : Char) : Text := '0' :: '2' :: List.replicate 64 digit
    let config := Config.inheritance (key '1') [key '2', key '3'] 1 10 (key '4') 20
    config.check = .ok () ∧
      ∃ expression compiled keyMap, config.expression = .ok expression ∧
        Validator.validate ⟨miniscriptCompiler, .default⟩ expression = .valid compiled keyMap := by
  intro key config
  have checked : config.check = .ok () := by decide +kernel
  have signers : config.signers? = some [key '1', key '2', key '3', key '4'] := rfl
  have accepted : ∀ name ∈ [key '1', key '2', key '3', key '4'], Key.isKey name = true := by
    decide +kernel
  have legible : Numeral.Legible config.groupQuorum.toNat :=
    Nat.one_lt_pow (by decide) (by decide)
  exact ⟨checked, pattern_valid signers checked accepted (by decide +kernel) legible⟩

end Pattern

end SpendPolicy
