import SpendPolicy.Proofs.Config.Patterns
import SpendPolicy.Proofs.Policy.Boundaries
import SpendPolicy.Proofs.Policy.Printing
import SpendPolicy.Proofs.Validation.Spelling

set_option autoImplicit false

namespace SpendPolicy

open Policy (MeansOnly Plain meansOnly_key meansOnly_of_read meansOnly_pair meansOnly_thresh presents_after)

namespace Config

def group? : Config → Option (Int × List Text)
  | .multiSig _ n keys | .vault _ n keys _ _ => some (n, keys)
  | .singleSig _ | .inheritance _ _ _ _ _ _ | .simpleEscrow _ _ _ _ | .threshold _ _ _
  | .absoluteTimelock _ | .relativeTimelock _ | .hashlock _ _ | .unrecognised _ => none

variable {config : Config} {keys : List Text}

theorem length_group {n : Int} {members : List Text} (checked : config.check = .ok ())
    (group : config.group? = some (n, members)) : (members.length : Int) = n := by
  have counted {m : Int} (quorum : requireQuorum .keys m n members = .ok ()) :
      (members.length : Int) = n := by
    simp only [requireQuorum, require_eq_ok_iff, Bool.and_eq_true, decide_eq_true_eq] at quorum
    exact quorum.1.2
  cases config with
  | multiSig m n keys =>
    cases group
    exact counted checked
  | vault m n keys delay cancelKey =>
    cases group
    exact counted (seq_eq_ok_iff.mp checked).1
  | singleSig | inheritance | simpleEscrow | threshold | absoluteTimelock | relativeTimelock | hashlock
    | unrecognised => cases group

theorem meansOnly_quorum {required : Nat} (plain : ∀ key ∈ keys, Plain key) (low : 1 ≤ required)
    (high : required ≤ keys.length) :
    MeansOnly (Form.thresh required (keys.map Form.key)) (quorumBy Text.trim required keys) := by
  have filled : keys.map Form.key ≠ [] := List.ne_nil_of_length_pos (by rw [List.length_map]; omega)
  refine meansOnly_thresh filled (List.forall₂_map_left_iff.mpr (List.forall₂_map_right_iff.mpr ?_))
  exact List.forall₂_same.mpr fun key member => meansOnly_key (plain key member)

theorem Pattern.meansOnly (pattern : Pattern config keys) (plain : ∀ key ∈ keys, Plain key) :
    MeansOnly config.form (config.policyBy Text.trim) := by
  have delay {value : Nat} (range : Locktime.isInRange value = true) :
      MeansOnly (Form.after value) (.after value) :=
    meansOnly_of_read (presents_after range).read_eq
  cases pattern with
  | singleSig key => exact meansOnly_key (plain key (by simp))
  | multiSig low high => exact meansOnly_quorum plain low high
  | @vault required _ n keys cancelKey low high range =>
    obtain ⟨group, cancel⟩ := List.forall_mem_append.mp plain
    have delayed := meansOnly_pair .and (meansOnly_quorum group low high) (delay range)
    exact meansOnly_pair .or delayed (meansOnly_key (cancel cancelKey (by simp)))
  | @inheritance _ _ _ keys ownerKey thirdPartyKey low high first second =>
    obtain ⟨owner, others⟩ := List.forall_mem_cons.mp plain
    obtain ⟨heirs, third⟩ := List.forall_mem_append.mp others
    have inherited := meansOnly_pair .and (meansOnly_quorum heirs low high) (delay first)
    have family := meansOnly_pair .or (meansOnly_key owner) inherited
    have recovered := meansOnly_pair .and (meansOnly_key (third thirdPartyKey (by simp))) (delay second)
    exact meansOnly_pair .or family recovered
  | @simpleEscrow _ partyAKey partyBKey arbiterKey range =>
    have party (key : Text) (member : key ∈ [partyAKey, partyBKey, arbiterKey]) :=
      meansOnly_key (plain key member)
    have agreed := meansOnly_pair .and (party partyAKey (by simp)) (party partyBKey (by simp))
    have judged := meansOnly_pair .and (party arbiterKey (by simp)) (delay range)
    exact meansOnly_pair .or agreed judged

end Config

section Pattern

variable {settings : Settings} {config : Config} {keys : List Text} {expression compiled : Text}
  {keyMap : KeyMap}

theorem pattern_shape_iff (signers : config.signers? = some keys)
    (serialized : config.expression = .ok expression)
    (valid : Validator.validate ⟨miniscriptCompiler, settings⟩ expression = .valid compiled keyMap) :
    (Policy.read expression = .ok (config.policyBy Text.trim) ↔ ∀ key ∈ keys, Plain key) ∧
      ∀ n members, config.group? = some (n, members) → (members.length : Int) = n := by
  obtain ⟨checked, rfl⟩ : config.check = .ok () ∧ config.form = expression := by
    unfold Config.expression at serialized
    split at serialized
    · next checked => exact ⟨checked, Except.ok.inj serialized⟩
    · cases serialized
  have pattern := Config.pattern_of_check signers checked
  obtain ⟨policy, _, _, reads, _⟩ := (valid_iff.mp valid).exists_policies
  refine ⟨⟨?_, ?_⟩, fun n members => Config.length_group checked⟩
  · intro shape key member
    have names := (Policy.wellFormed_of_read shape).names
    rw [pattern.keys_policyBy] at names
    exact Policy.plain_of_trim (names _ (List.mem_map_of_mem member)).plain
  · intro plain
    rw [reads, (pattern.meansOnly plain).only policy reads]

theorem pattern_shape_iff_vault :
    let key (digit : Char) : Text := '0' :: '2' :: List.replicate 64 digit
    let config := Config.vault 1 2 [key '1', key '2'] 10 (key '3')
    ∃ expression compiled keyMap, config.expression = .ok expression ∧
      Validator.validate ⟨miniscriptCompiler, .default⟩ expression = .valid compiled keyMap ∧
      Policy.read expression = .ok
        (.or (.and (.thresh 1 [.key (key '1'), .key (key '2')]) (.after 10)) (.key (key '3'))) := by
  intro key config
  have valid : (Validator.validate ⟨miniscriptCompiler, .default⟩ config.form).isValid = true := by
    decide +kernel
  have plain : ∀ name ∈ [key '1', key '2', key '3'], Plain name := by decide +kernel
  have serialized : config.expression = .ok config.form := by decide +kernel
  obtain ⟨compiled, keyMap, valid⟩ := Verdict.isValid_iff.mp valid
  have shape := (pattern_shape_iff rfl serialized valid).1.mpr plain
  exact ⟨config.form, compiled, keyMap, serialized, valid, shape⟩

theorem valid_but_widened :
    let key (digit : Char) : Text := '0' :: '2' :: List.replicate 64 digit
    let config := Config.vault 1 1 [key '1' ++ "),pk(".toList ++ key '2'] 10 (key '3')
    ∃ compiled keyMap, config.expression = .ok config.form ∧
      Validator.validate ⟨miniscriptCompiler, .default⟩ config.form = .valid compiled keyMap ∧
      Policy.read config.form = .ok
        (.or (.and (.thresh 1 [.key (key '1'), .key (key '2')]) (.after 10)) (.key (key '3'))) ∧
      Policy.read config.form ≠ .ok (config.policyBy Text.trim) := by
  intro key config
  let policy : Policy :=
    .or (.and (.thresh 1 [.key (key '1'), .key (key '2')]) (.after 10)) (.key (key '3'))
  have valid : (Validator.validate ⟨miniscriptCompiler, .default⟩ config.form).isValid = true := by
    decide +kernel
  have isName : Policy.IsName (key '1') ∧ Policy.IsName (key '2') ∧ Policy.IsName (key '3') := by
    decide +kernel
  have wellFormed : policy.WellFormed :=
    ⟨⟨⟨by decide, by decide, Policy.legible_of_isInRange (by decide), isName.1, isName.2.1, trivial⟩,
      rfl⟩, isName.2.2⟩
  have written : policy.text = config.form := by decide +kernel
  have reads : Policy.read config.form = .ok policy := written ▸ Policy.read_text wellFormed
  obtain ⟨compiled, keyMap, valid⟩ := Verdict.isValid_iff.mp valid
  refine ⟨compiled, keyMap, by decide +kernel, valid, reads, ?_⟩
  rw [reads]
  simp [policy, config, Config.policyBy, Config.quorumBy]

end Pattern

end SpendPolicy
