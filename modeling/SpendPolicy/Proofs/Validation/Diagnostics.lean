import SpendPolicy.Proofs.Substitution.Prefixes
import SpendPolicy.Proofs.Validation.KeyGate

set_option autoImplicit false

namespace SpendPolicy

open Extraction

variable {settings : Settings} {s : Text}

theorem trim_ne_nil_of_mem_contents {content : Text} (found : content ∈ contents s) : s.trim ≠ [] := by
  obtain ⟨before, after, rfl, _⟩ := exists_occurrence (mem_contents_iff.mp found)
  rw [Ne, Text.trim_eq_nil_iff]
  intro blank
  exact absurd (blank 'p' (by simp [key_text])) (by decide)

structure IsFirstRefused (settings : Settings) (s key : Text) (refusal : Refusal) : Prop where
  first : ∃ earlier later, (ofText s).keyMap.keys = earlier ++ key :: later ∧
    ∀ other ∈ earlier, IsAdmitted settings other
  refused : Validator.keyRefusal? settings.network key = some refusal

theorem exists_isFirstRefused (some : ∃ key ∈ (ofText s).keyMap.keys, ¬ IsAdmitted settings key) :
    ∃ key refusal, IsFirstRefused settings s key refusal := by
  have found : ((ofText s).keyMap.keys.findSome? (Validator.keyRefusal? settings.network)).isSome := by
    obtain ⟨key, member, refused⟩ := some
    apply List.findSome?_isSome_iff.mpr
    exact ⟨key, member, Option.isSome_iff_ne_none.mpr (refused ∘ keyRefusal?_eq_none_iff.mp)⟩
  obtain ⟨refusal, found⟩ := Option.isSome_iff_exists.mp found
  obtain ⟨earlier, key, later, split, refused, passed⟩ := List.findSome?_eq_some_iff.mp found
  exact ⟨key, refusal, ⟨earlier, later, split, fun other member =>
    keyRefusal?_eq_none_iff.mp (passed other member)⟩, refused⟩

namespace IsFirstRefused

variable {key : Text} {refusal : Refusal}

theorem append (is : IsFirstRefused settings s key refusal) (t : Text) :
    IsFirstRefused settings (s ++ t) key refusal := by
  obtain ⟨earlier, later, split, passed⟩ := is.first
  obtain ⟨more, whole⟩ := prefix_contents s t
  rw [keys_eq] at split
  refine ⟨⟨earlier, later ++ more, ?_, passed⟩, is.refused⟩
  rw [keys_eq, ← whole, split, List.append_assoc, List.cons_append]

theorem validate_eq (is : IsFirstRefused settings s key refusal) (compiler : Compiler) :
    Validator.validate ⟨compiler, settings⟩ s = .invalid refusal := by
  obtain ⟨earlier, later, split, passed⟩ := is.first
  have found : (ofText s).keyMap.keys.findSome? (Validator.keyRefusal? settings.network) = some refusal :=
    List.findSome?_eq_some_iff.mpr ⟨earlier, key, later, split, is.refused, fun other member =>
      keyRefusal?_eq_none_iff.mpr (passed other member)⟩
  have inside : key ∈ contents s := by
    rw [← keys_eq, split]
    simp
  have filled := trim_ne_nil_of_mem_contents inside
  simp only [Validator.validate, Validator.prepare, filled, if_false, found]

end IsFirstRefused

theorem key_diagnostics_prevail (s t : Text) :
    (ofText s).keyMap.pairs <+: (ofText (s ++ t)).keyMap.pairs ∧
      ∀ settings : Settings, (∃ key ∈ (ofText s).keyMap.keys, ¬ IsAdmitted settings key) →
        ∃ key refusal, IsFirstRefused settings s key refusal ∧
          ∀ compiler other : Compiler,
            Validator.validate ⟨compiler, settings⟩ s = .invalid refusal ∧
              Validator.validate ⟨other, settings⟩ (s ++ t) = .invalid refusal := by
  refine ⟨prefix_pairs s t, fun settings some => ?_⟩
  obtain ⟨key, refusal, is⟩ := exists_isFirstRefused some
  exact ⟨key, refusal, is, fun compiler other => ⟨is.validate_eq compiler, (is.append t).validate_eq other⟩⟩

theorem key_diagnostics_prevail_cut :
    let key : Text := '0' :: '2' :: List.replicate 64 'a'
    let s : Text := "or(pk(".toList ++ key ++ "),and(pk(foo),pk(".toList ++ key ++ "),pk(foo".toList
    let t : Text := "d),pk(foo)))".toList
    (∃ key ∈ (ofText s).keyMap.keys, ¬ IsAdmitted .default key) ∧
      (ofText s).keyMap.pairs = [("key1".toList, key), ("key2".toList, "foo".toList)] ∧
      (ofText s).keyMap.pairs <+: (ofText (s ++ t)).keyMap.pairs ∧
      ∀ compiler other : Compiler,
        Validator.validate ⟨compiler, .default⟩ s = .invalid (.rejectedKey (.invalid "foo".toList)) ∧
          Validator.validate ⟨other, .default⟩ (s ++ t) =
            .invalid (.rejectedKey (.invalid "foo".toList)) := by
  intro key s t
  have rejected : Key.classify "foo".toList = .error (.invalid "foo".toList) := by decide +kernel
  have refused : ∃ key ∈ (ofText s).keyMap.keys, ¬ IsAdmitted .default key := by
    refine ⟨"foo".toList, by decide +kernel, ?_⟩
    rintro ⟨form, accepted, _⟩
    cases rejected.symm.trans accepted
  obtain ⟨kept, prevails⟩ := key_diagnostics_prevail s t
  obtain ⟨_, refusal, _, all⟩ := prevails .default refused
  have verdict : Validator.validate ⟨miniscriptCompiler, .default⟩ s =
      .invalid (.rejectedKey (.invalid "foo".toList)) := by
    decide +kernel
  have same : refusal = .rejectedKey (.invalid "foo".toList) :=
    Verdict.invalid.inj ((all miniscriptCompiler miniscriptCompiler).1.symm.trans verdict)
  exact ⟨refused, by decide +kernel, kept, same ▸ all⟩

end SpendPolicy
