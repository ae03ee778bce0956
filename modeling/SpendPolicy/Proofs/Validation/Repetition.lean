import SpendPolicy.Proofs.Key.Spellings
import SpendPolicy.Proofs.Validation.Spelling

set_option autoImplicit false

namespace SpendPolicy

open Extraction

def respelled (s : Text) : Text :=
  rewritten Key.normal (pieces s)

theorem IsAdmitted.normal {settings : Settings} {key : Text} (admitted : IsAdmitted settings key) :
    IsAdmitted settings (Key.normal key) := by
  obtain ⟨form, classified, allowed⟩ := admitted
  exact ⟨form, Key.classify_normal classified, allowed⟩

theorem IsAdmitted.flat {settings : Settings} {key : Text} (admitted : IsAdmitted settings key) :
    Flat key :=
  ⟨admitted.isArgument.1.1, admitted.isArgument.1.2.1⟩

section Valid

variable {settings : Settings} {expression compiled : Text} {keyMap : KeyMap}

namespace Validated

theorem nodup_written (validated : Validated settings expression compiled keyMap) :
    (written (pieces expression)).Nodup := by
  obtain ⟨template, m, _, stages, _⟩ := exists_script_of_sound validated.sound
  obtain ⟨found, _⟩ := Policy.found_of_read stages.reads
  have distinct := stages.distinct.sublist found
  rw [written_template] at distinct
  exact distinct.of_map.of_map

theorem keys_eq (validated : Validated settings expression compiled keyMap) :
    keyMap.keys = written (pieces expression) := by
  rw [← validated.extracted, Extraction.keys_eq, contents_of_nodup validated.nodup_written]

theorem respelled_valid_iff (validated : Validated settings expression compiled keyMap) :
    (Validator.validate ⟨miniscriptCompiler, settings⟩ (respelled expression)).isValid = true ↔
      ((written (pieces expression)).map Key.normal).Nodup := by
  have admitted : ∀ content ∈ written (pieces expression), IsAdmitted settings (Key.normal content) :=
    fun content member => (validated.admitted_written content member).normal
  have flat : ∀ content ∈ written (pieces expression), Flat (Key.normal content) :=
    fun content member => (admitted content member).flat
  have again : pieces (respelled expression) = (pieces expression).map (Piece.map Key.normal) :=
    piecesAfter_rewritten flat
  constructor
  · intro valid
    obtain ⟨other, keyMap', valid⟩ := Verdict.isValid_iff.mp valid
    have distinct := (valid_iff.mp valid).nodup_written
    rwa [again, written_map] at distinct
  · intro distinct
    obtain ⟨policy, _, _, reads, _⟩ := validated.exists_policies
    obtain ⟨other, readsToo, _⟩ := Policy.exists_read_rewritten (f := Key.normal) reads
      fun content member => (admitted content member).isArgument
    refine Verdict.isValid_iff.mpr ⟨compiled, exists_valid_iff.mpr
      ⟨Policy.trim_ne_nil_of_read readsToo, fun content member => ?_, ?_⟩⟩
    · rw [mem_contents_iff, again, written_map] at member
      obtain ⟨key, inside, rfl⟩ := List.mem_map.mp member
      exact admitted key inside
    · have separate : ∀ a ∈ written (pieces expression), ∀ b ∈ written (pieces expression),
          Key.normal a = Key.normal b → a = b :=
        fun _ inside _ insideToo => List.inj_on_of_nodup_map distinct inside insideToo
      rw [respelled, template_rewritten flat separate, validated.sound]

end Validated

end Valid

/-- No text is two keys of a valid expression. Two of its keys are the same key in two spellings exactly if
the expression is not valid in the normal spelling; if no key is hidden, those are the keys of the policy. -/
theorem repeated_keys_iff {settings : Settings} {expression compiled : Text} {keyMap : KeyMap}
    (valid : Validator.validate ⟨miniscriptCompiler, settings⟩ expression = .valid compiled keyMap) :
    ∃ policy, Policy.read expression = .ok policy ∧ keyMap.keys.Nodup ∧
      (Key.Apart keyMap.keys ↔
        (Validator.validate ⟨miniscriptCompiler, settings⟩ (respelled expression)).isValid = true) ∧
      (spacedKeys expression = 0 → (Key.Apart policy.keys ↔ Key.Apart keyMap.keys)) := by
  have validated := valid_iff.mp valid
  obtain ⟨policy, _, _, reads, _⟩ := validated.exists_policies
  have accepted : ∀ key ∈ keyMap.keys, ∃ form, Key.classify key = .ok form := by
    intro key member
    obtain ⟨form, classified, _⟩ := validated.admitted_written key (validated.keys_eq ▸ member)
    exact ⟨form, classified⟩
  refine ⟨policy, reads, validated.keys_eq ▸ validated.nodup_written, ?_, fun tight => ?_⟩
  · rw [validated.respelled_valid_iff, Key.apart_iff_nodup accepted, validated.keys_eq]
  · obtain ⟨_, _, _, _, trimmed⟩ := Policy.exists_read_template_of_tight reads tight
    rw [← validated.keys_eq] at trimmed
    have normal : policy.keys.map Key.normal = keyMap.keys.map Key.normal := by
      rw [trimmed, List.map_map]
      apply List.map_congr_left
      intro key member
      obtain ⟨form, classified⟩ := accepted key member
      exact Key.normal_trim classified
    have inPolicy : ∀ key ∈ policy.keys, ∃ form, Key.classify key = .ok form := by
      rw [trimmed]
      intro key member
      obtain ⟨content, inside, rfl⟩ := List.mem_map.mp member
      obtain ⟨form, classified⟩ := accepted content inside
      exact ⟨form, (Key.classify_trim classified).2.2⟩
    rw [Key.apart_iff_nodup inPolicy, Key.apart_iff_nodup accepted, normal]

theorem repeated_keys_iff_letters :
    let lower : Text := '0' :: '2' :: List.replicate 64 'a'
    let upper : Text := '0' :: '3' :: List.replicate 64 'A'
    let expression := (Policy.and (.key lower) (.key upper)).text
    let keyMap : KeyMap := ⟨[("key1".toList, lower), ("key2".toList, upper)]⟩
    Validator.validate ⟨miniscriptCompiler, .default⟩ expression =
        .valid "and_v(v:pk(key1),pk(key2))".toList keyMap ∧
      ∃ policy, Policy.read expression = .ok policy ∧ keyMap.keys.Nodup ∧
        (Key.Apart keyMap.keys ↔
          (Validator.validate ⟨miniscriptCompiler, .default⟩ (respelled expression)).isValid = true) ∧
        (spacedKeys expression = 0 → (Key.Apart policy.keys ↔ Key.Apart keyMap.keys)) := by
  intro lower upper expression keyMap
  have valid : Validator.validate ⟨miniscriptCompiler, .default⟩ expression =
      .valid "and_v(v:pk(key1),pk(key2))".toList keyMap := by decide +kernel
  exact ⟨valid, repeated_keys_iff valid⟩

theorem valid_in_two_spellings :
    let key (digit : Char) : Text := '0' :: '2' :: List.replicate 64 digit
    let expression := (Policy.and (.key (key 'a')) (.key (key 'A'))).text
    let keyMap : KeyMap := ⟨[("key1".toList, key 'a'), ("key2".toList, key 'A')]⟩
    Validator.validate ⟨miniscriptCompiler, .default⟩ expression =
        .valid "and_v(v:pk(key1),pk(key2))".toList keyMap ∧
      key 'a' ∈ keyMap.keys ∧ key 'A' ∈ keyMap.keys ∧ key 'a' ≠ key 'A' ∧
      Key.isCompressed (key 'a') = true ∧ Key.isCompressed (key 'A') = true ∧
      (key 'a').lower = (key 'A').lower := by
  intro key expression keyMap
  decide +kernel

end SpendPolicy
