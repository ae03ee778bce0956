import SpendPolicy.Proofs.Compilation.Substitution
import SpendPolicy.Proofs.Key.Placeholders
import SpendPolicy.Proofs.Validation.KeyGate

set_option autoImplicit false

namespace SpendPolicy

open Extraction

namespace Policy

def Exposes (s : Text) (policy : Policy) : Prop :=
  written (pieces s) = policy.keys

theorem trim_ne_nil_of_read {s : Text} {policy : Policy} (reads : read s = .ok policy) :
    s.trim ≠ [] := by
  intro empty
  simp [read, empty] at reads

theorem isArgument_placeholder (n : Nat) : IsArgument (placeholder n) := by
  have isName := isName_placeholder n
  exact ⟨isName.plain, isName.trimmed.symm ▸ isName.filled⟩

theorem eq_map_visible {sites : List KeySite} (none : sites.countP KeySite.isHidden = 0) :
    sites = (sites.filterMap KeySite.content?).map .visible := by
  induction sites with
  | nil => rfl
  | cons site sites ih =>
    cases site with
    | visible content => exact congrArg (_ :: ·) (ih (by simpa [KeySite.isHidden] using none))
    | hidden name => simp [KeySite.isHidden] at none

theorem exists_read_template {s : Text} {policy : Policy} (reads : read s = .ok policy) :
    ∃ sites other, HasSites s policy.keys sites ∧ read (ofText s).template = .ok other ∧
      other.shape = policy.shape ∧
      other.keys = sites.map (KeySite.nameBy (placeholderOf (contents s))) := by
  obtain ⟨sites, presents⟩ := exists_presents_of_read reads
  obtain ⟨other, rest, shape, names⟩ :=
    presents.exists_read_rewritten (f := placeholderOf (contents s)) fun _ _ => isArgument_placeholder _
  exact ⟨sites, other, presents.hasSites, (template_eq s).symm ▸ rest, shape, names⟩

theorem exists_read_template_of_tight {s : Text} {policy : Policy} (reads : read s = .ok policy)
    (tight : spacedKeys s = 0) :
    ∃ other, read (ofText s).template = .ok other ∧ other.shape = policy.shape ∧
      other.keys = (written (pieces s)).map (placeholderOf (contents s)) ∧
      policy.keys = (written (pieces s)).map Text.trim := by
  obtain ⟨sites, other, hasSites, template, shape, names⟩ := exists_read_template reads
  have visible := eq_map_visible (hasSites.spaced.symm.trans tight)
  rw [← hasSites.written] at visible
  refine ⟨other, template, shape, ?_, ?_⟩
  · rw [names, visible, List.map_map]
    exact List.map_congr_left fun content _ => trim_placeholder _
  · rw [hasSites.names, visible, List.map_map]
    rfl

theorem Exposes.tight {s : Text} {policy : Policy} (exposed : Exposes s policy)
    (reads : read s = .ok policy) : spacedKeys s = 0 := by
  obtain ⟨_, count⟩ := found_of_read reads
  rw [exposed] at count
  omega

theorem Exposes.read_template {s : Text} {policy : Policy} (exposed : Exposes s policy)
    (reads : read s = .ok policy) :
    read (ofText s).template = .ok (policy.rename (placeholderOf (contents s))) := by
  obtain ⟨other, template, shape, names, _⟩ := exists_read_template_of_tight reads (exposed.tight reads)
  rw [exposed, ← keys_rename] at names
  rw [template, eq_of_shape_of_keys (shape.trans (shape_rename policy).symm) names]

theorem Exposes.contents_eq {s : Text} {policy : Policy} (exposed : Exposes s policy) :
    contents s = policy.keys.eraseDups :=
  congrArg List.eraseDups exposed

end Policy

variable {settings : Settings}

def Agree (settings : Settings) (s t : Text) : Prop :=
  ∀ compiled, (∃ keyMap, Validator.validate ⟨miniscriptCompiler, settings⟩ s = .valid compiled keyMap) ↔
    ∃ keyMap, Validator.validate ⟨miniscriptCompiler, settings⟩ t = .valid compiled keyMap

theorem Verdict.isValid_iff {verdict : Verdict} :
    verdict.isValid = true ↔ ∃ compiled keyMap, verdict = .valid compiled keyMap := by
  cases verdict <;> simp [Verdict.isValid]

theorem exists_valid_iff {s compiled : Text} :
    (∃ keyMap, Validator.validate ⟨miniscriptCompiler, settings⟩ s = .valid compiled keyMap) ↔
      s.trim ≠ [] ∧ (∀ content ∈ contents s, IsAdmitted settings content) ∧
        miniscriptCompiler (ofText s).template = .ok (.sound compiled) := by
  simp only [valid_iff]
  constructor
  · rintro ⟨keyMap, filled, _, admitted, sound⟩
    exact ⟨filled, admitted, sound⟩
  · rintro ⟨filled, admitted, sound⟩
    exact ⟨_, filled, rfl, admitted, sound⟩

section Verdict

variable {s t : Text} {policy : Policy}

theorem validate_congr {v : Validator} (filled : s.trim ≠ []) (filledToo : t.trim ≠ [])
    (same : contents s = contents t)
    (answers : v.compiler (ofText s).template = v.compiler (ofText t).template) :
    v.validate s = v.validate t := by
  have keyMap : (ofText s).keyMap = (ofText t).keyMap := by simp only [ofText, same]
  simp only [Validator.validate, Validator.prepare, filled, filledToo, if_false, keyMap]
  cases (ofText t).keyMap.keys.findSome? (Validator.keyRefusal? v.settings.network) with
  | some refusal => rfl
  | none => simp only [answers, keyMap]

theorem validate_eq_of_exposed (reads : Policy.read s = .ok policy)
    (readsToo : Policy.read t = .ok policy) (exposed : Policy.Exposes s policy)
    (exposedToo : Policy.Exposes t policy) :
    Validator.validate ⟨miniscriptCompiler, settings⟩ s =
      Validator.validate ⟨miniscriptCompiler, settings⟩ t := by
  have same : contents s = contents t := exposed.contents_eq.trans exposedToo.contents_eq.symm
  apply validate_congr (Policy.trim_ne_nil_of_read reads) (Policy.trim_ne_nil_of_read readsToo) same
  change miniscriptCompiler _ = miniscriptCompiler _
  rw [miniscriptCompiler_of_read (exposed.read_template reads),
    miniscriptCompiler_of_read (exposedToo.read_template readsToo), same]

theorem nodup_of_valid {compiled : Text} (reads : Policy.read t = .ok policy)
    (exposed : Policy.Exposes t policy)
    (valid : ∃ keyMap, Validator.validate ⟨miniscriptCompiler, settings⟩ t = .valid compiled keyMap) :
    policy.keys.Nodup := by
  obtain ⟨_, _, sound⟩ := exists_valid_iff.mp valid
  obtain ⟨template, m, _, stages, _⟩ := exists_script_of_sound sound
  have same := (exposed.read_template reads).symm.trans stages.reads
  cases same
  have distinct := stages.distinct
  rw [Policy.keys_rename] at distinct
  exact distinct.of_map

theorem admitted_of_valid {compiled : Text} (exposed : Policy.Exposes t policy)
    (valid : ∃ keyMap, Validator.validate ⟨miniscriptCompiler, settings⟩ t = .valid compiled keyMap) :
    ∀ name ∈ policy.keys, IsAdmitted settings name := by
  obtain ⟨_, admitted, _⟩ := exists_valid_iff.mp valid
  intro name member
  exact admitted name (mem_contents_iff.mpr (exposed.symm ▸ member))

theorem valid_of_tight {compiled : Text} (reads : Policy.read s = .ok policy)
    (readsToo : Policy.read t = .ok policy) (exposed : Policy.Exposes t policy)
    (tight : spacedKeys s = 0) (admitted : ∀ content ∈ contents s, IsAdmitted settings content)
    (valid : ∃ keyMap, Validator.validate ⟨miniscriptCompiler, settings⟩ t = .valid compiled keyMap) :
    ∃ keyMap, Validator.validate ⟨miniscriptCompiler, settings⟩ s = .valid compiled keyMap := by
  have distinct := nodup_of_valid readsToo exposed valid
  obtain ⟨_, _, sound⟩ := exists_valid_iff.mp valid
  obtain ⟨other, template, shape, names, spelled⟩ := Policy.exists_read_template_of_tight reads tight
  have fresh : (written (pieces s)).Nodup := (spelled ▸ distinct).of_map
  have contentsOf : contents s = written (pieces s) := contents_of_nodup fresh
  have contentsToo : contents t = policy.keys :=
    (contents_of_nodup (exposed.symm ▸ distinct)).trans exposed
  have same : other = policy.rename (placeholderOf (contents t)) := by
    apply Policy.eq_of_shape_of_keys (shape.trans (Policy.shape_rename policy).symm)
    rw [names, Policy.keys_rename, contentsOf, contentsToo, map_placeholderOf fresh,
      map_placeholderOf distinct, spelled, List.length_map]
  rw [miniscriptCompiler_of_read (exposed.read_template readsToo), ← same] at sound
  exact exists_valid_iff.mpr ⟨Policy.trim_ne_nil_of_read reads, admitted,
    (miniscriptCompiler_of_read template).trans sound⟩

theorem tight_of_valid {compiled : Text} (reads : Policy.read s = .ok policy)
    (readsToo : Policy.read t = .ok policy) (exposed : Policy.Exposes t policy)
    (valid : ∃ keyMap, Validator.validate ⟨miniscriptCompiler, settings⟩ s = .valid compiled keyMap)
    (validToo : ∃ keyMap, Validator.validate ⟨miniscriptCompiler, settings⟩ t = .valid compiled keyMap) :
    spacedKeys s = 0 := by
  have admitted := admitted_of_valid exposed validToo
  obtain ⟨_, _, sound⟩ := exists_valid_iff.mp valid
  obtain ⟨_, _, soundToo⟩ := exists_valid_iff.mp validToo
  obtain ⟨sites, other, hasSites, template, _, names⟩ := Policy.exists_read_template reads
  obtain ⟨_, _, _, stages, _, _, form⟩ := exists_script_of_sound sound
  obtain ⟨_, _, _, stagesToo, _, _, formToo⟩ := exists_script_of_sound soundToo
  cases template.symm.trans stages.reads
  cases (exposed.read_template readsToo).symm.trans stagesToo.reads
  rw [hasSites.spaced, List.countP_eq_zero]
  intro site member hidden
  match site, hidden with
  | .hidden name, _ =>
    have inPolicy : name ∈ policy.keys := by
      rw [hasSites.names]
      exact List.mem_map.mpr ⟨.hidden name, member, rfl⟩
    have inTemplate : name ∈ other.keys := by
      rw [names]
      exact List.mem_map.mpr ⟨.hidden name, member, rfl⟩
    have inForm := stages.mem_contents_iff.mpr inTemplate
    rw [← form, formToo, stagesToo.mem_contents_iff, Policy.keys_rename] at inForm
    obtain ⟨key, _, rfl⟩ := List.mem_map.mp inForm
    obtain ⟨form, classified, _⟩ := admitted _ inPolicy
    exact Key.classify_placeholder _ form classified

theorem exists_valid_of_valid {compiled : Text} (reads : Policy.read s = .ok policy)
    (readsToo : Policy.read t = .ok policy) (exposed : Policy.Exposes t policy)
    (distinct : policy.keys.Nodup) (admitted : ∀ name ∈ policy.keys, IsAdmitted settings name)
    (valid : ∃ keyMap, Validator.validate ⟨miniscriptCompiler, settings⟩ s = .valid compiled keyMap) :
    ∃ other keyMap,
      Validator.validate ⟨miniscriptCompiler, settings⟩ t = .valid other keyMap := by
  obtain ⟨_, _, sound⟩ := exists_valid_iff.mp valid
  obtain ⟨_, _, _, template, shape, _⟩ := Policy.exists_read_template reads
  obtain ⟨_, _, _, stages, _, _, _⟩ := exists_script_of_sound sound
  cases template.symm.trans stages.reads
  obtain ⟨f, rfl⟩ := Policy.exists_rename_of_shape shape.symm distinct
  -- The template and the policy differ in the names of their keys only, and so do the two templates.
  rw [miniscriptCompiler_of_read template] at sound
  have wellFormed := Policy.wellFormed_of_read reads
  have plain := (Policy.exists_sound_rename wellFormed (Policy.wellFormed_of_read template) distinct
    stages.distinct).mp ⟨compiled, sound⟩
  have templateToo := exposed.read_template readsToo
  have placeholders : (policy.rename (placeholderOf (contents t))).keys.Nodup := by
    rw [Policy.keys_rename]
    exact nodup_map_placeholderOf (fun name member => mem_contents_iff.mpr (exposed.symm ▸ member)) distinct
  obtain ⟨canonical, soundToo⟩ := (Policy.exists_sound_rename wellFormed
    (Policy.wellFormed_of_read templateToo) distinct placeholders).mpr plain
  have inPolicy : ∀ content ∈ contents t, IsAdmitted settings content := fun content member =>
    admitted content (exposed ▸ mem_contents_iff.mp member)
  exact ⟨canonical, exists_valid_iff.mpr ⟨Policy.trim_ne_nil_of_read readsToo, inPolicy,
    (miniscriptCompiler_of_read templateToo).trans soundToo⟩⟩

end Verdict

/-- Two spellings of a policy that both show its keys get the same verdict. Any spelling agrees with such a
one exactly if no valid policy has a key in it that white space hides or spoils, and it is not itself valid
for a policy with a repeated key or one that is not admitted. -/
theorem spellings_agree_iff {s t : Text} {policy : Policy} (reads : Policy.read s = .ok policy)
    (readsToo : Policy.read t = .ok policy) (exposed : Policy.Exposes t policy) :
    (Policy.Exposes s policy →
        Validator.validate ⟨miniscriptCompiler, settings⟩ s =
          Validator.validate ⟨miniscriptCompiler, settings⟩ t) ∧
      (Agree settings s t ↔
        ((Validator.validate ⟨miniscriptCompiler, settings⟩ t).isValid = true →
          spacedKeys s = 0 ∧ ∀ content ∈ contents s, IsAdmitted settings content) ∧
        ((Validator.validate ⟨miniscriptCompiler, settings⟩ s).isValid = true →
          policy.keys.Nodup ∧ ∀ name ∈ policy.keys, IsAdmitted settings name)) := by
  refine ⟨fun exposedToo => validate_eq_of_exposed reads readsToo exposedToo exposed, ?_⟩
  constructor
  · intro agree
    refine ⟨fun valid => ?_, fun valid => ?_⟩
    · obtain ⟨compiled, validToo⟩ := Verdict.isValid_iff.mp valid
      have valid := (agree compiled).mpr validToo
      exact ⟨tight_of_valid reads readsToo exposed valid validToo, (exists_valid_iff.mp valid).2.1⟩
    · obtain ⟨compiled, valid⟩ := Verdict.isValid_iff.mp valid
      have validToo := (agree compiled).mp valid
      exact ⟨nodup_of_valid readsToo exposed validToo, admitted_of_valid exposed validToo⟩
  · rintro ⟨unspoilt, kept⟩ compiled
    have transfers {compiled : Text} (validToo : ∃ keyMap,
        Validator.validate ⟨miniscriptCompiler, settings⟩ t = .valid compiled keyMap) :
        ∃ keyMap, Validator.validate ⟨miniscriptCompiler, settings⟩ s = .valid compiled keyMap := by
      obtain ⟨tight, admitted⟩ := unspoilt (Verdict.isValid_iff.mpr ⟨compiled, validToo⟩)
      exact valid_of_tight reads readsToo exposed tight admitted validToo
    refine ⟨fun valid => ?_, transfers⟩
    obtain ⟨distinct, admitted⟩ := kept (Verdict.isValid_iff.mpr ⟨compiled, valid⟩)
    obtain ⟨other, validToo⟩ :=
      exists_valid_of_valid reads readsToo exposed distinct admitted valid
    obtain ⟨keyMap, verdict⟩ := valid
    obtain ⟨_, again⟩ := transfers validToo
    cases verdict.symm.trans again
    exact validToo

theorem spellings_agree_iff_padded :
    let name := "0279be667ef9dcbbac55a06295ce870b07029bfcdb2dce28d959f2815b16f81798".toList
    let padded := ' ' :: name ++ [' ']
    Policy.read (Form.key padded) = .ok (.key name) ∧ Policy.read (Form.key name) = .ok (.key name) ∧
      Policy.Exposes (Form.key name) (.key name) ∧
      (Validator.validate ⟨miniscriptCompiler, .default⟩ (Form.key name)).isValid = true ∧
      ¬ Agree .default (Form.key padded) (Form.key name) := by
  intro name padded
  have compressed : Key.isCompressed name = true := by decide
  have admitted : IsAdmitted .default name :=
    ⟨.compressed, by simp [Key.classify, compressed], by simp [Settings.default]⟩
  have reads (content : Text) (plain : Policy.Plain content) (trimmed : content.trim = name) :
      Policy.read (Form.key content) = .ok (.key name) := by
    have key := read_key Text.blank_nil plain (trimmed ▸ (by decide : name ≠ []))
    rw [key_text]
    rwa [trimmed] at key
  have alone (content : Text) (flat : Flat content) : pieces (Form.key content) = [.key content] :=
    (splits_key flat).pieces_eq
  have readsPadded := reads padded (by decide) (by decide +kernel)
  have readsName := reads name (by decide) (by decide +kernel)
  have exposed : Policy.Exposes (Form.key name) (.key name) := by
    rw [Policy.Exposes, alone name (by decide)]
    rfl
  have valid : (Validator.validate ⟨miniscriptCompiler, .default⟩ (Form.key name)).isValid = true :=
    Verdict.isValid_iff.mpr ⟨_, _, valid_key (by decide) admitted⟩
  refine ⟨readsPadded, readsName, exposed, valid, fun agree => ?_⟩
  obtain ⟨_, unspoilt⟩ :=
    ((spellings_agree_iff readsPadded readsName exposed).2.mp agree).1 valid
  have member : padded ∈ contents (Form.key padded) := by
    rw [Extraction.mem_contents_iff, alone padded (by decide)]
    exact List.mem_singleton.mpr rfl
  obtain ⟨form, classified, _⟩ := unspoilt padded member
  have refused : (Key.classify padded).isOk = false := by decide +kernel
  simp [classified, Except.isOk, Except.toBool] at refused

theorem spellings_disagree :
    Policy.read "pk (foo)".toList = .ok (.key "foo".toList) ∧
      Policy.read "pk(foo)".toList = .ok (.key "foo".toList) ∧
      Validator.validate ⟨miniscriptCompiler, .default⟩ "pk (foo)".toList =
        .valid "pk(foo)".toList ⟨[]⟩ ∧
      Validator.validate ⟨miniscriptCompiler, .default⟩ "pk(foo)".toList =
        .invalid (.rejectedKey (.invalid "foo".toList)) ∧
      ¬ Agree .default "pk (foo)".toList "pk(foo)".toList := by
  have plain : Policy.Plain "foo".toList := by decide
  have blank : Text.Blank [' '] := by decide
  have valid : Validator.validate ⟨miniscriptCompiler, .default⟩ "pk (foo)".toList =
      .valid "pk(foo)".toList ⟨[]⟩ :=
    valid_spacedKey blank (by decide) plain (by decide)
  have invalid : Validator.validate ⟨miniscriptCompiler, .default⟩ "pk(foo)".toList =
      .invalid (.rejectedKey (.invalid "foo".toList)) := by decide +kernel
  refine ⟨read_key blank plain (by decide), read_key Text.blank_nil plain (by decide), valid, invalid,
    fun agree => ?_⟩
  obtain ⟨_, same⟩ := (agree _).mp ⟨_, valid⟩
  rw [invalid] at same
  cases same

end SpendPolicy
