import SpendPolicy.Proofs.Compilation.Renaming
import SpendPolicy.Proofs.Miniscript.Reinsertion
import SpendPolicy.Proofs.Substitution.Numbering

set_option autoImplicit false

namespace SpendPolicy

open Extraction

section Template

variable {policy : Policy}

def Policy.blind (policy : Policy) : Policy :=
  policy.rename (placeholderOf (contents policy.text))

theorem wellFormed_blind (wellFormed : policy.WellFormed) : policy.blind.WellFormed :=
  wellFormed.rename fun _ _ => isName_placeholder _

theorem mem_contents_text (wellFormed : policy.WellFormed) {name : Text} :
    name ∈ contents policy.text ↔ name ∈ policy.keys := by
  rw [mem_contents_iff, Policy.written_text wellFormed]

theorem nodup_blind (wellFormed : policy.WellFormed) :
    policy.blind.keys.Nodup ↔ policy.keys.Nodup := by
  rw [Policy.blind, Policy.keys_rename]
  exact ⟨List.Nodup.of_map _, nodup_map_placeholderOf fun _ => (mem_contents_text wellFormed).mpr⟩

theorem miniscriptCompiler_text (wellFormed : policy.WellFormed) :
    miniscriptCompiler policy.text = policy.compile :=
  miniscriptCompiler_of_read (Policy.read_text wellFormed)

theorem miniscriptCompiler_template (wellFormed : policy.WellFormed) :
    miniscriptCompiler (ofText policy.text).template = policy.blind.compile := by
  rw [Policy.template_text wellFormed]
  exact miniscriptCompiler_text (wellFormed_blind wellFormed)

theorem compile_blind (wellFormed : policy.WellFormed) :
    (∃ fault, policy.blind.compile = .error (.untyped fault) ∧
        policy.compile = .error (.untyped fault)) ∨
      ∃ blind full, policy.blind.compile = .ok blind ∧ policy.compile = .ok full ∧
        blind.isSound = full.isSound ∧ blind.reason? = full.reason? ∧
        (ofText policy.text).keyMap.reinsert blind.canonical = full.canonical := by
  by_cases distinct : policy.keys.Nodup
  · rcases Policy.compile_rename wellFormed (wellFormed_blind wellFormed) distinct
      ((nodup_blind wellFormed).mpr distinct) with ⟨stops, blindStops⟩ | ⟨m, node, lowers, full, blind⟩
    · exact .inl ⟨.undetermined, blindStops, stops⟩
    · refine .inr ⟨_, _, blind, full, ?_, ?_, ?_⟩
      · rw [Miniscript.isSound_answer, Miniscript.isSound_answer, Miniscript.insanity?_rename]
      · rw [Miniscript.reason?_answer, Miniscript.reason?_answer, Miniscript.insanity?_rename]
      · rw [Miniscript.canonical_answer, Miniscript.canonical_answer]
        refine (Miniscript.restores_text fun name member => ?_).reinsert_eq
        have written := (Policy.keys_lowered lowers.follows.types).mem_iff.mp member
        exact (mem_contents_text wellFormed).mpr written
  · have repeated := distinct ∘ (nodup_blind wellFormed).mp
    refine .inr ⟨_, _, Policy.compile_of_repeated repeated, Policy.compile_of_repeated distinct, rfl,
      rfl, ?_⟩
    exact (restores_plain (t := []) (by decide)).reinsert_eq

end Template

theorem substitution_transparent {s : Text} {policy : Policy} (reads : Policy.read s = .ok policy) :
    (∃ fault, miniscriptCompiler (ofText policy.text).template = .error (.untyped fault) ∧
        miniscriptCompiler policy.text = .error (.untyped fault)) ∨
      ∃ blind full, miniscriptCompiler (ofText policy.text).template = .ok blind ∧
        miniscriptCompiler policy.text = .ok full ∧ blind.isSound = full.isSound ∧
        blind.reason? = full.reason? ∧
        (ofText policy.text).keyMap.reinsert blind.canonical = full.canonical := by
  have wellFormed := Policy.wellFormed_of_read reads
  rw [miniscriptCompiler_template wellFormed, miniscriptCompiler_text wellFormed]
  exact compile_blind wellFormed

theorem substitution_transparent_crossed :
    Policy.read "or(pk(key2),and(pk(key1),older(10)))".toList =
        .ok (.or (.key "key2".toList) (.and (.key "key1".toList) (.older 10))) ∧
      ∃ blind full,
        miniscriptCompiler (ofText "or(pk(key2),and(pk(key1),older(10)))".toList).template = .ok blind ∧
        miniscriptCompiler "or(pk(key2),and(pk(key1),older(10)))".toList = .ok full ∧
        blind.isSound = full.isSound ∧ blind.reason? = full.reason? ∧
        (ofText "or(pk(key2),and(pk(key1),older(10)))".toList).keyMap.reinsert blind.canonical =
          full.canonical := by
  have second : Policy.IsName "key2".toList := by decide
  have first : Policy.IsName "key1".toList := by decide
  have reads := @Policy.read_text (.or (.key "key2".toList) (.and (.key "key1".toList) (.older 10)))
    ⟨second, first, rfl⟩
  have answered : (miniscriptCompiler "or(pk(key2),and(pk(key1),older(10)))".toList).toBool = true := by
    decide +kernel
  refine ⟨reads, (substitution_transparent reads).resolve_left fun ⟨fault, _, stops⟩ => ?_⟩
  rw [show Policy.text _ = "or(pk(key2),and(pk(key1),older(10)))".toList from rfl] at stops
  rw [stops] at answered
  cases answered

end SpendPolicy
