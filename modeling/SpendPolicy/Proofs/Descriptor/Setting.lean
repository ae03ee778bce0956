import SpendPolicy.Descriptor.Basic
import SpendPolicy.Proofs.Descriptor.Characters
import SpendPolicy.Proofs.Descriptor.Verification
import SpendPolicy.Proofs.Validation.Spelling

set_option autoImplicit false

namespace SpendPolicy

open Extraction

namespace DescriptorChecksum

variable {d : Text}

theorem known_of_positions {ps : List Nat} (found : positions d = .ok ps) : ∀ c ∈ d, c ∈ inputCharset := by
  fun_induction positions d generalizing ps with
  | case1 => exact List.forall_mem_nil _
  | case2 | case3 => cases found
  | case4 c s p here ps there ih =>
    have known : c ∈ inputCharset := List.isSome_idxOf?.mp (by simp [here])
    exact List.forall_mem_cons.mpr ⟨known, ih there⟩

theorem append_eq_suffix_iff :
    (∃ checksum, compute d = .ok checksum ∧ checksum.length = 8 ∧ append d = .ok (d ++ '#' :: checksum)) ↔
      ∀ c ∈ d, Checkable c := by
  constructor
  · rintro ⟨checksum, computed, size, suffixed⟩
    have known : ∀ c ∈ d, c ∈ inputCharset := by
      unfold compute at computed
      split at computed
      · cases computed
      · next ps found => exact known_of_positions found
    refine fun c member => ⟨known c member, ?_⟩
    rintro rfl
    -- The text would be cut at the mark.
    obtain ⟨front, back, rfl, unmarked⟩ := List.eq_append_cons_of_mem member
    have knownFront : ∀ c ∈ front, c ∈ inputCharset := fun c inside => known c (List.mem_append_left _ inside)
    rw [(append_of_unmarked knownFront unmarked back).1] at suffixed
    have lengths := congrArg List.length (Except.ok.inj suffixed)
    simp only [List.length_append, List.length_cons, length_render, size] at lengths
    omega
  · intro checkable
    have known : ∀ c ∈ d, c ∈ inputCharset := fun c member => (checkable c member).1
    have unmarked : '#' ∉ d := fun member => (checkable '#' member).2 rfl
    exact ⟨_, compute_eq known, length_render _, (append_of_unmarked known unmarked []).2⟩

end DescriptorChecksum

section Characters

variable {settings : Settings} {expression compiled : Text} {keyMap : KeyMap} {policy : Policy} {c : Char}

theorem Validated.exists_template (validated : Validated settings expression compiled keyMap)
    (reads : Policy.read expression = .ok policy) :
    ∃ (sites : List Policy.KeySite) (m : Miniscript), Policy.HasSites expression policy.keys sites ∧
      compiled = m.text ∧
      (∀ name, name ∈ m.keys ↔ name ∈ sites.map (Policy.KeySite.nameBy (placeholderOf (contents expression)))) ∧
      ∀ content ∈ contents expression, placeholderOf (contents expression) content ∈ contents compiled := by
  obtain ⟨sites, other, hasSites, template, _, names⟩ := Policy.exists_read_template reads
  obtain ⟨_, m, _, stages, _, _, rfl⟩ := exists_script_of_sound validated.sound
  cases template.symm.trans stages.reads
  refine ⟨sites, m, hasSites, rfl, fun name => by rw [stages.keys_perm.mem_iff, names], ?_⟩
  intro content extracted
  rw [stages.mem_contents_iff, names]
  rw [mem_contents_iff, hasSites.written] at extracted
  obtain ⟨site, member, shown⟩ := List.mem_filterMap.mp extracted
  refine List.mem_map.mpr ⟨site, member, ?_⟩
  cases site with
  | visible =>
    cases shown
    exact trim_placeholder _
  | hidden => cases shown

theorem Validated.mem_reinsert_iff (validated : Validated settings expression compiled keyMap)
    (reads : Policy.read expression = .ok policy) (other : ¬ Checkable c) :
    c ∈ keyMap.reinsert compiled ↔
      (∃ content ∈ contents expression, c ∈ content) ∨ ∃ name ∈ policy.keys, c ∈ name := by
  obtain ⟨sites, m, hasSites, rfl, names, placed⟩ := validated.exists_template reads
  have foreign := foreign_of_not_checkable other
  rw [← validated.extracted, Extraction.mem_reinsert_iff foreign placed, Miniscript.mem_text_iff other, or_comm]
  refine or_congr_right' fun absent => ?_
  simp only [names, hasSites.names, List.mem_map, exists_exists_and_eq_and]
  refine exists_congr fun site => and_congr_right fun member => ?_
  cases site with
  | hidden name => rfl
  | visible content =>
    have extracted : content ∈ contents expression := by
      rw [mem_contents_iff, hasSites.written]
      exact List.mem_filterMap.mpr ⟨_, member, rfl⟩
    have notPlaceholder : c ∉ (placeholderOf (contents expression) content).trim :=
      fun inside => foreign _ (Text.trim_subset _ c inside)
    have notContent : c ∉ content.trim :=
      fun inside => absent ⟨content, extracted, Text.trim_subset _ c inside⟩
    exact iff_of_false notPlaceholder notContent

theorem Validated.checkable_iff (validated : Validated settings expression compiled keyMap)
    (reads : Policy.read expression = .ok policy) :
    (∀ c ∈ Form.call OutputType.wsh.name [keyMap.reinsert compiled], Checkable c) ↔
      (∀ content ∈ contents expression, ∀ c ∈ content, isBlank c = true → c = ' ') ∧
        ∀ name ∈ policy.keys, ∀ c ∈ name, Checkable c := by
  have accepted : (∀ content ∈ contents expression, ∀ c ∈ content, Checkable c) ↔
      ∀ content ∈ contents expression, ∀ c ∈ content, isBlank c = true → c = ' ' := by
    refine forall₂_congr fun content extracted => ?_
    obtain ⟨form, classified, _⟩ := validated.admitted content extracted
    exact checkable_iff_of_classify classified
  have shown {c : Char} (other : ¬ Checkable c) :
      c ∈ Form.call OutputType.wsh.name [keyMap.reinsert compiled] ↔
        (∃ content ∈ contents expression, c ∈ content) ∨ ∃ name ∈ policy.keys, c ∈ name := by
    rw [mem_call_iff other (checkable_of_all (by decide)), ← validated.mem_reinsert_iff reads other]
    simp
  rw [← accepted]
  constructor
  · intro whole
    constructor
    · intro content extracted c inside
      by_contra other
      exact other (whole c ((shown other).mpr (.inl ⟨content, extracted, inside⟩)))
    · intro name member c inside
      by_contra other
      exact other (whole c ((shown other).mpr (.inr ⟨name, member, inside⟩)))
  · rintro ⟨keys, names⟩ c inside
    by_contra other
    rcases (shown other).mp inside with ⟨content, extracted, here⟩ | ⟨name, member, here⟩
    · exact other (keys content extracted c here)
    · exact other (names name member c here)

end Characters

section Run

variable {network : Option Network} {expression outputType d : Text}

theorem descriptor_checksum :
    Validator.descriptor ⟨miniscriptCompiler, ⟨network, true⟩⟩ expression outputType =
      (Validator.descriptor ⟨miniscriptCompiler, ⟨network, false⟩⟩ expression outputType).bind
        (Descriptor.withChecksum true) := by
  have same : Validator.validate ⟨miniscriptCompiler, ⟨network, true⟩⟩ expression =
      Validator.validate ⟨miniscriptCompiler, ⟨network, false⟩⟩ expression := rfl
  unfold Validator.descriptor
  rw [same]
  cases supported : OutputType.supported outputType with
  | error failure => rfl
  | ok t =>
    cases Validator.validate ⟨miniscriptCompiler, ⟨network, false⟩⟩ expression with
    | invalid refusal => rfl
    | valid compiled keyMap =>
      simp only [Descriptor.assemble, supported]
      rfl

theorem eq_wsh_of_supported {t : OutputType} (supported : OutputType.supported outputType = .ok t) :
    t = .wsh := by
  unfold OutputType.supported at supported
  split at supported
  · next found =>
    cases supported
    have passes := (Option.filter_eq_some_iff.mp found).2
    cases t with
    | wsh => rfl
    | shWsh | tr => cases passes
  · cases supported

theorem exists_validated (described :
    Validator.descriptor ⟨miniscriptCompiler, ⟨network, false⟩⟩ expression outputType = .ok d) :
    ∃ compiled keyMap, Validated ⟨network, false⟩ expression compiled keyMap ∧
      d = Form.call OutputType.wsh.name [keyMap.reinsert compiled] := by
  unfold Validator.descriptor at described
  split at described
  · cases described
  · next t supported =>
    split at described
    · cases described
    · next compiled keyMap valid =>
      simp only [Descriptor.assemble, supported, eq_wsh_of_supported supported] at described
      cases described
      exact ⟨compiled, keyMap, valid_iff.mp valid, rfl⟩

def IsSuffixed (d : Text) (result : Except DescriptorFailure Text) : Prop :=
  ∃ checksum, DescriptorChecksum.compute d = .ok checksum ∧ checksum.length = 8 ∧
    result = .ok (d ++ '#' :: checksum)

theorem isSuffixed_iff : IsSuffixed d (Descriptor.withChecksum true d) ↔ ∀ c ∈ d, Checkable c := by
  rw [← DescriptorChecksum.append_eq_suffix_iff, IsSuffixed, Descriptor.withChecksum, if_pos rfl]
  cases DescriptorChecksum.append d <;> simp [Except.mapError]

/-- Without a descriptor the setting makes no difference. Where there is one, the checksum is put after it exactly
if the keys that are found hold no white space but blanks, and all names only what a checksum is computed for. Of
the latter there is nothing to check if no white space parts a `pk` from its parenthesis. -/
theorem descriptor_suffixed_iff (network : Option Network) (expression outputType : Text) :
    let run (checksum : Bool) :=
      Validator.descriptor ⟨miniscriptCompiler, ⟨network, checksum⟩⟩ expression outputType
    let blanksOnly := ∀ content ∈ contents expression, ∀ c ∈ content, isBlank c = true → c = ' '
    (∀ failure, run false = .error failure → run true = .error failure) ∧
      ∀ d, run false = .ok d → ∃ policy, Policy.read expression = .ok policy ∧
        (IsSuffixed d (run true) ↔ blanksOnly ∧ ∀ name ∈ policy.keys, ∀ c ∈ name, Checkable c) ∧
        (spacedKeys expression = 0 → (IsSuffixed d (run true) ↔ blanksOnly)) := by
  intro run blanksOnly
  have setting : run true = (run false).bind (Descriptor.withChecksum true) := descriptor_checksum
  constructor
  · intro failure failed
    rw [setting, failed]
    rfl
  · intro d described
    obtain ⟨compiled, keyMap, validated, rfl⟩ := exists_validated described
    obtain ⟨policy, _, _, reads, _⟩ := validated.exists_policies
    have suffixed := isSuffixed_iff.trans (validated.checkable_iff reads)
    have last : run true = Descriptor.withChecksum true _ :=
      setting.trans (congrArg (Except.bind · (Descriptor.withChecksum true)) described)
    rw [← last] at suffixed
    refine ⟨policy, reads, suffixed, fun tight => suffixed.trans (and_iff_left_of_imp fun blanks => ?_)⟩
    obtain ⟨_, _, _, _, trimmed⟩ := Policy.exists_read_template_of_tight reads tight
    rw [trimmed]
    intro name member c inside
    obtain ⟨content, extracted, rfl⟩ := List.mem_map.mp member
    have found := mem_contents_iff.mpr extracted
    obtain ⟨form, classified, _⟩ := validated.admitted content found
    exact (checkable_iff_of_classify classified).mpr (blanks content found) c (Text.trim_subset _ c inside)

theorem descriptor_suffixed_iff_key :
    let name := "0279be667ef9dcbbac55a06295ce870b07029bfcdb2dce28d959f2815b16f81798".toList
    let expression := Form.key name
    let run (checksum : Bool) :=
      Validator.descriptor ⟨miniscriptCompiler, ⟨none, checksum⟩⟩ expression OutputType.wsh.name
    let d := Form.call OutputType.wsh.name [Form.key name]
    run false = .ok d ∧ spacedKeys expression = 0 ∧
      (∀ content ∈ contents expression, ∀ c ∈ content, isBlank c = true → c = ' ') ∧ IsSuffixed d (run true) := by
  intro name expression run d
  have plain : run false = .ok d := by decide +kernel
  have tight : spacedKeys expression = 0 := by decide +kernel
  have own : contents expression = [name] := by decide +kernel
  have solid : Solid name := by decide
  have blanks : ∀ content ∈ contents expression, ∀ c ∈ content, isBlank c = true → c = ' ' := by
    rw [own]
    intro content member c inside blank
    cases List.mem_singleton.mp member
    simp [(solid c inside).1] at blank
  obtain ⟨_, described⟩ := descriptor_suffixed_iff none expression OutputType.wsh.name
  obtain ⟨_, _, _, suffixed⟩ := described d plain
  exact ⟨plain, tight, blanks, (suffixed tight).mpr blanks⟩

theorem descriptor_cut_at_mark :
    let run (checksum : Bool) :=
      Validator.descriptor ⟨miniscriptCompiler, ⟨none, checksum⟩⟩ "pk (a#b)".toList OutputType.wsh.name
    let d := "wsh(pk(a#b))".toList
    run false = .ok d ∧ DescriptorChecksum.compute d = .ok "u5nd8kf7".toList ∧
      run true = .ok "wsh(pk(a#srx0cxws".toList ∧ ¬ IsSuffixed d (run true) := by
  intro run d
  have computed : DescriptorChecksum.compute d = .ok "u5nd8kf7".toList := by decide +kernel
  have cut : run true = .ok "wsh(pk(a#srx0cxws".toList := by decide +kernel
  refine ⟨by decide +kernel, computed, cut, ?_⟩
  rintro ⟨checksum, found, _, suffixed⟩
  cases computed.symm.trans found
  exact absurd (cut.symm.trans suffixed) (by decide)

end Run

end SpendPolicy
