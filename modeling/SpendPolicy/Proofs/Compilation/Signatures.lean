import SpendPolicy.Proofs.Compilation.Stages
import SpendPolicy.Proofs.Lowering.Scope
import SpendPolicy.Proofs.Miniscript.Signatures

set_option autoImplicit false

namespace SpendPolicy

open Environment (keyless)

namespace Policy

variable {policy : Policy} {m : Miniscript} {typing : Typing}

theorem not_satisfied_of_needsSignature (lowered : policy.lowerBy typing = .ok m)
    (needs : m.spending.needsSignature = true) : policy.satisfied keyless = false := by
  rw [← satisfied_lowered lowered]
  exact Miniscript.not_satisfied_of_needsSignature needs

theorem needsSignature_exact_iff (lowered : policy.lowerBy typing = .ok m) :
    (m.spending.needsSignature = true ↔ policy.satisfied keyless = false) ↔
      (m.satisfiedWith true keyless = true → m.satisfied keyless = true) := by
  rw [← satisfied_lowered lowered, Miniscript.needsSignature_eq]
  -- The analysis evaluates the script with `0` true, the policy stands for it with `0` false.
  have more := Miniscript.satisfiedWith_true keyless m
  change (m.satisfied keyless = true → _) at more
  cases spendable : m.satisfiedWith true keyless <;> cases satisfied : m.satisfied keyless <;> simp_all

theorem lowerBy_of_lowerTyped {node : Node} (lowered : policy.lowerTyped = .ok (m, node)) :
    policy.lowerBy (Miniscript.nodeWithin policy.keys) = .ok m :=
  (steps_of_lowerTyped lowered).1

end Policy

theorem needsSignature_of_sane {m : Miniscript} {node : Node} (sane : m.insanity? node = none) :
    m.spending.needsSignature = true :=
  (insanity?_eq_none_iff.mp sane).2.1

/-- The analysis never asks for a signature that is not needed, and it misses one that is needed exactly
where `0` would let the script be spent. Whoever satisfies a sound policy signs with one of its keys. -/
theorem signature_requirement (policy : Policy) :
    (∀ m node, policy.lowerTyped = .ok (m, node) →
      (m.spending.needsSignature = true → policy.satisfied keyless = false) ∧
      ((m.spending.needsSignature = true ↔ policy.satisfied keyless = false) ↔
        (m.satisfiedWith true keyless = true → m.satisfied keyless = true))) ∧
    ∀ s canonical, Policy.read s = .ok policy → miniscriptCompiler s = .ok (.sound canonical) →
      ∀ env, policy.satisfied env = true → ∃ name ∈ policy.keys, env.signs name = true := by
  constructor
  · intro m node lowered
    have script := Policy.lowerBy_of_lowerTyped lowered
    exact ⟨Policy.not_satisfied_of_needsSignature script, Policy.needsSignature_exact_iff script⟩
  · intro s canonical reads compiled env satisfied
    obtain ⟨source, m, node, stages, _, sane, _⟩ := exists_script_of_sound compiled
    have same : source = policy := by
      have twice := stages.reads.symm.trans reads
      cases twice
      rfl
    subst same
    have unspendable :=
      Policy.not_satisfied_of_needsSignature stages.lowered (needsSignature_of_sane sane)
    -- If none of its keys signs, the environment tells no more than the keyless one.
    by_contra unsigned
    have nobody : ∀ name ∈ source.keys, env.signs name = false := by
      intro name member
      cases signs : env.signs name with
      | false => rfl
      | true => exact absurd ⟨name, member, signs⟩ unsigned
    simp [Policy.satisfied_keyless_of_unsigned nobody satisfied] at unspendable

theorem signature_requirement_timelocked :
    ((Miniscript.andV (.wrap .v (.key ['a'])) (.after 10)).spending.needsSignature = true ↔
        (Policy.and (.key ['a']) (.after 10)).satisfied keyless = false) ∧
      ∀ env, (Policy.and (.key ['a']) (.after 10)).satisfied env = true →
        ∃ name ∈ (Policy.and (.key ['a']) (.after 10)).keys, env.signs name = true := by
  have lowered : Policy.lowerTyped (.and (.key ['a']) (.after 10)) =
      .ok (.andV (.wrap .v (.key ['a'])) (.after 10),
        ⟨⟨.base, false, true, true, false, false⟩, some ⟨true, false, false, false⟩, true,
          ⟨true, false⟩⟩) :=
    (lowerTyped_eq_ok_iff (by decide)).mpr ⟨rfl, rfl⟩
  have compiled : miniscriptCompiler "and(pk(a),after(10))".toList =
      .ok (.sound "and_v(v:pk(a),after(10))".toList) := by
    decide +kernel
  have reads : Policy.read "and(pk(a),after(10))".toList =
      .ok (.and (.key ['a']) (.after 10)) := by
    have key := @Policy.Fragment.leaf [] [] ['a'] .key (.key ['a']) Text.blank_nil Text.blank_nil
      ⟨by decide, by decide, by decide⟩ rfl
    have after := @Policy.Fragment.leaf [] [] ['1', '0'] .after (.after 10) Text.blank_nil
      Text.blank_nil ⟨by decide, by decide, by decide⟩ rfl
    have both := Policy.Fragments.more key Text.blank_nil (.last after Text.blank_nil)
    have whole := @Policy.Fragment.pair [] [] _ .and _ _ Text.blank_nil Text.blank_nil both rfl
    exact Policy.read_eq_ok_iff.mpr ⟨_, [], rfl, whole, Text.blank_nil⟩
  have required := signature_requirement (.and (.key ['a']) (.after 10))
  exact ⟨(required.1 _ _ lowered).2.mpr (by decide), required.2 _ _ reads compiled⟩

theorem signature_not_counted :
    ∃ m node, Policy.lowerTyped (.thresh 1 [.key ['b'], .and (.key ['a']) (.after 10)]) =
        .ok (m, node) ∧
      m.spending.needsSignature = false ∧
      Policy.satisfied keyless (.thresh 1 [.key ['b'], .and (.key ['a']) (.after 10)]) = false :=
  ⟨.thresh 1 [.key ['b'], .wrap .a (.wrap .l (.wrap .n (.andV (.wrap .v (.key ['a'])) (.after 10))))],
    ⟨⟨.base, false, false, false, true, true⟩, none, true, ⟨true, true⟩⟩,
    (lowerTyped_eq_ok_iff (by decide)).mpr ⟨rfl, rfl⟩, rfl, rfl⟩

end SpendPolicy
