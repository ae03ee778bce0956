import SpendPolicy.Proofs.Compilation.Stages
import SpendPolicy.Proofs.Key.Acceptance
import SpendPolicy.Proofs.Miniscript.KeySites
import SpendPolicy.Proofs.Policy.Sites
import SpendPolicy.Proofs.Substitution.Template
import SpendPolicy.Validation

set_option autoImplicit false

namespace SpendPolicy

open Extraction
open Text (Blank)

def IsAdmitted (settings : Settings) (key : Text) : Prop :=
  ∃ form, Key.classify key = .ok form ∧
    ∀ expected, settings.network = some expected →
      form.network = .unspecified ∨ form.network = expected

theorem keyRefusal?_eq_none_iff {settings : Settings} {key : Text} :
    Validator.keyRefusal? settings.network key = none ↔ IsAdmitted settings key := by
  unfold Validator.keyRefusal? IsAdmitted
  cases Key.classify key with
  | error rejection => simp
  | ok form =>
    cases settings.network with
    | none => simp
    | some expected => simp [Validator.isAllowedNetwork, or_iff_not_imp_left]

theorem IsAdmitted.trim {settings : Settings} {key : Text} (admitted : IsAdmitted settings key) :
    IsAdmitted settings key.trim := by
  obtain ⟨form, classified, allowed⟩ := admitted
  exact ⟨form, (Key.classify_trim classified).2.2, allowed⟩

theorem IsAdmitted.isArgument {settings : Settings} {key : Text}
    (admitted : IsAdmitted settings key) : Policy.IsArgument key := by
  obtain ⟨form, classified, _⟩ := admitted
  exact Policy.isArgument_of_classify classified

structure Validated (settings : Settings) (expression compiled : Text) (keyMap : KeyMap) : Prop where
  filled : expression.trim ≠ []
  extracted : (ofText expression).keyMap = keyMap
  admitted : ∀ content ∈ contents expression, IsAdmitted settings content
  sound : miniscriptCompiler (ofText expression).template = .ok (.sound compiled)

theorem prepare_eq_ok_iff {settings : Settings} {expression : Text} {extraction : Extraction} :
    Validator.prepare settings expression = .ok extraction ↔
      expression.trim ≠ [] ∧ (∀ content ∈ contents expression, IsAdmitted settings content) ∧
        ofText expression = extraction := by
  have passes : (ofText expression).keyMap.keys.findSome? (Validator.keyRefusal? settings.network) =
      none ↔ ∀ content ∈ contents expression, IsAdmitted settings content := by
    simp only [keys_eq, List.findSome?_eq_none_iff, keyRefusal?_eq_none_iff]
  rw [← passes]
  unfold Validator.prepare
  simp only
  split
  · next empty => simp [empty]
  · next filled =>
    cases (ofText expression).keyMap.keys.findSome? (Validator.keyRefusal? settings.network) with
    | some refusal => simp
    | none => simp [filled]

theorem valid_iff {settings : Settings} {expression compiled : Text} {keyMap : KeyMap} :
    Validator.validate ⟨miniscriptCompiler, settings⟩ expression = .valid compiled keyMap ↔
      Validated settings expression compiled keyMap := by
  constructor
  · intro valid
    unfold Validator.validate at valid
    split at valid
    · cases valid
    · next extraction prepared =>
      obtain ⟨filled, admitted, rfl⟩ := prepare_eq_ok_iff.mp prepared
      split at valid
      · next canonical sound =>
        cases valid
        exact ⟨filled, rfl, admitted, sound⟩
      · cases valid
      · cases valid
  · rintro ⟨filled, rfl, admitted, sound⟩
    have prepared : Validator.prepare settings expression = .ok (ofText expression) :=
      prepare_eq_ok_iff.mpr ⟨filled, admitted, rfl⟩
    simp only [Validator.validate, prepared, sound]

namespace Validated

variable {settings : Settings} {expression compiled : Text} {keyMap : KeyMap}

theorem admitted_written (validated : Validated settings expression compiled keyMap) :
    ∀ content ∈ written (pieces expression), IsAdmitted settings content :=
  fun content member => validated.admitted content (mem_contents_iff.mpr member)

theorem mem_placeholders_iff (validated : Validated settings expression compiled keyMap)
    {name : Text} :
    name ∈ keyMap.placeholders ↔ name ∈ written (pieces (ofText expression).template) := by
  rw [← validated.extracted, placeholders_eq, written_template]
  simp only [List.mem_map, mem_contents_iff]

theorem isArgument_replacement (validated : Validated settings expression compiled keyMap) :
    ∀ name ∈ written (pieces (ofText expression).template),
      Policy.IsArgument ((ofText expression).keyMap.replacement name) := by
  intro name member
  rw [written_template] at member
  obtain ⟨content, inside, rfl⟩ := List.mem_map.mp member
  have found : content ∈ contents expression := mem_contents_iff.mpr inside
  rw [replacement_placeholderOf found]
  exact (validated.admitted content found).isArgument

theorem exists_policies (validated : Validated settings expression compiled keyMap) :
    ∃ policy template m, Policy.read expression = .ok policy ∧
      Lowered (ofText expression).template template m ∧ compiled = m.text ∧
      policy.keys.length = template.keys.length := by
  obtain ⟨template, m, _, stages, _, _, form⟩ := exists_script_of_sound validated.sound
  -- The template is read, so the expression is too: only the contents of its keys differ.
  obtain ⟨policy, reads, names⟩ :=
    Policy.exists_read_rewritten stages.reads validated.isArgument_replacement
  rw [rewritten_template] at reads
  exact ⟨policy, template, m, reads, stages, form, names⟩

end Validated

theorem Lowered.mem_contents_iff {s content : Text} {policy : Policy} {m : Miniscript}
    (stages : Lowered s policy m) : content ∈ contents m.text ↔ content ∈ policy.keys := by
  have flat : ∀ name ∈ m.keys, Flat name := by
    intro name member
    have plain :=
      (Policy.legible_of_read stages.reads).plain (stages.keys_perm.mem_iff.mp member)
    exact ⟨plain.1, plain.2.1⟩
  rw [Extraction.mem_contents_iff, Miniscript.written_text flat, stages.keys_perm.mem_iff]

section SingleKey

variable {settings : Settings} {gap name : Text}

theorem read_key (blank : Blank gap) (plain : Policy.Plain name) (filled : name.trim ≠ []) :
    Policy.read (Policy.LeafName.key.text ++ gap ++ '(' :: (name ++ [')'])) =
      .ok (.key name.trim) := by
  have leaf := Policy.Fragment.leaf Text.blank_nil blank plain (Policy.build_key filled)
  exact Policy.read_eq_ok_iff.mpr ⟨_, [], (List.append_nil _).symm, leaf, Text.blank_nil⟩

theorem compiled_key (blank : Blank gap) (plain : Policy.Plain name) (filled : name.trim ≠ []) :
    miniscriptCompiler (Policy.LeafName.key.text ++ gap ++ '(' :: (name ++ [')'])) =
      .ok (.sound (Form.key name.trim)) := by
  have compiles : Policy.compile (.key name.trim) = .ok (.sound (Form.key name.trim)) := rfl
  simp only [miniscriptCompiler, read_key blank plain filled, compiles]

theorem trim_call_ne_nil (rest : Text) : Text.trim ('p' :: rest) ≠ [] := by
  rw [Ne, Text.trim_eq_nil_iff]
  intro blank
  exact absurd (blank 'p' (by simp)) (by decide)

theorem valid_key (flat : Flat name) (admitted : IsAdmitted settings name) :
    Validator.validate ⟨miniscriptCompiler, settings⟩ (Form.key name) =
      .valid (Form.key (placeholder 1)) ⟨[(placeholder 1, name)]⟩ := by
  have one : pieces (Form.key name) = [.key name] := (splits_key flat).pieces_eq
  have compiled : miniscriptCompiler (Form.key (placeholder 1)) =
      .ok (.sound (Form.key (placeholder 1))) :=
    compiled_key Text.blank_nil ⟨by decide, by decide, by decide⟩ (by decide)
  apply valid_iff.mpr
  refine ⟨trim_call_ne_nil _, by rw [ofText_key flat], ?_, by rw [ofText_key flat, compiled]⟩
  intro content member
  rw [Extraction.mem_contents_iff, one] at member
  cases List.mem_singleton.mp member
  exact admitted

theorem valid_spacedKey (blank : Blank gap) (spaced : gap ≠ []) (plain : Policy.Plain name)
    (filled : name.trim ≠ []) :
    Validator.validate ⟨miniscriptCompiler, settings⟩
        (Policy.LeafName.key.text ++ gap ++ '(' :: (name ++ [')'])) =
      .valid (Form.key name.trim) ⟨[]⟩ := by
  have split := (@Policy.splits_leaf [] gap name .key Text.blank_nil blank plain).pieces_eq
  rw [if_neg (fun visible => spaced visible.2), List.nil_append] at split
  have none : contents (Policy.LeafName.key.text ++ gap ++ '(' :: (name ++ [')'])) = [] := by
    rw [contents, split]
    change (written (outsides _)).eraseDups = []
    rw [written_outsides, List.eraseDups_nil]
  apply valid_iff.mpr
  refine ⟨trim_call_ne_nil _, ?_, ?_, ?_⟩
  · simp only [ofText, none, List.map_nil]
  · rw [none]
    exact List.forall_mem_nil _
  · rw [template_eq, split, rewritten_outsides, compiled_key blank plain filled]

end SingleKey

/-- Of a valid expression all keys are classified, and no key but placeholders stands in the canonical
form, exactly if no white space parts a `pk` from its parenthesis. -/
theorem key_gate_iff {settings : Settings} {expression compiled : Text} {keyMap : KeyMap}
    (valid : Validator.validate ⟨miniscriptCompiler, settings⟩ expression = .valid compiled keyMap) :
    ∃ policy, Policy.read expression = .ok policy ∧
      (((∀ name ∈ policy.keys, IsAdmitted settings name) ∧
        ∀ content ∈ contents compiled, content ∈ keyMap.placeholders) ↔
          spacedKeys expression = 0) := by
  have validated := valid_iff.mp valid
  obtain ⟨policy, template, m, reads, stages, rfl, names⟩ := validated.exists_policies
  obtain ⟨inPolicy, ofPolicy⟩ := Policy.found_of_read reads
  obtain ⟨inTemplate, _⟩ := Policy.found_of_read stages.reads
  refine ⟨policy, reads, ?_⟩
  constructor
  · -- The keys of the template differ, so there are no more of them than placeholders.
    rintro ⟨_, resolved⟩
    have among : template.keys ⊆ written (pieces (ofText expression).template) := fun name member =>
      validated.mem_placeholders_iff.mp (resolved name (stages.mem_contents_iff.mpr member))
    have few := stages.distinct.length_le_of_subset among
    rw [written_template, List.length_map] at few
    omega
  · intro tight
    have all : (written (pieces expression)).map Text.trim = policy.keys :=
      inPolicy.eq_of_length (by rw [List.length_map, ofPolicy, tight, Nat.add_zero])
    have untrimmed : (written (pieces (ofText expression).template)).map Text.trim =
        written (pieces (ofText expression).template) := by
      rw [written_template, List.map_map]
      exact List.map_congr_left fun content _ => trim_placeholder _
    have placed : written (pieces (ofText expression).template) = template.keys := by
      rw [untrimmed] at inTemplate
      apply inTemplate.eq_of_length
      rw [written_template, List.length_map, ← names, ofPolicy, tight, Nat.add_zero]
    constructor
    · intro name member
      rw [← all] at member
      obtain ⟨content, inside, rfl⟩ := List.mem_map.mp member
      exact (validated.admitted_written content inside).trim
    · intro content member
      rw [validated.mem_placeholders_iff, placed]
      exact stages.mem_contents_iff.mp member

theorem key_gate_compressed :
    let name := "0279be667ef9dcbbac55a06295ce870b07029bfcdb2dce28d959f2815b16f81798".toList
    Validator.validate ⟨miniscriptCompiler, .default⟩ (Form.key name) =
        .valid (Form.key (placeholder 1)) ⟨[(placeholder 1, name)]⟩ ∧
      ∃ policy, Policy.read (Form.key name) = .ok policy ∧
        (((∀ name ∈ policy.keys, IsAdmitted .default name) ∧
          ∀ content ∈ contents (Form.key (placeholder 1)), content ∈ [placeholder 1]) ↔
            spacedKeys (Form.key name) = 0) := by
  intro name
  have flat : Flat name := ⟨by decide, by decide⟩
  have compressed : Key.isCompressed name = true := by decide
  have admitted : IsAdmitted .default name :=
    ⟨.compressed, by simp [Key.classify, compressed], by simp [Settings.default]⟩
  exact ⟨valid_key flat admitted, key_gate_iff (valid_key flat admitted)⟩

theorem unclassified_key_valid :
    Validator.validate ⟨miniscriptCompiler, .default⟩ "pk (foo)".toList =
        .valid "pk(foo)".toList ⟨[]⟩ ∧
      Policy.read "pk (foo)".toList = .ok (.key "foo".toList) ∧
      Key.classify "foo".toList = .error (.invalid "foo".toList) := by
  have blank : Blank [' '] := by decide
  have plain : Policy.Plain "foo".toList := ⟨by decide, by decide, by decide⟩
  exact ⟨valid_spacedKey blank (by decide) plain (by decide), read_key blank plain (by decide),
    by decide +kernel⟩

end SpendPolicy
