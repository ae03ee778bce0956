import SpendPolicy.Proofs.Compilation.Stages
import SpendPolicy.Proofs.Lowering.Timelocks

set_option autoImplicit false

namespace SpendPolicy

theorem sound_unmixed_iff {s canonical : Text}
    (compiled : miniscriptCompiler s = .ok (.sound canonical)) :
    ∃ policy, Policy.read s = .ok policy ∧
      policy.outsideOnes.mixes = false ∧ (policy.mixes = false ↔ policy.mixesBelowOnes = false) := by
  obtain ⟨policy, m, node, stages, typed, sane, _⟩ := exists_script_of_sound compiled
  have shows := (Policy.timelocks_invariant _).holds stages.lowered node typed
  have apart : policy.outsideOnes.mixes = false :=
    shows.apart (insanity?_eq_none_iff.mp sane).2.2.2
  exact ⟨policy, stages.reads, apart, by rw [policy.mixes_eq, apart, Bool.false_or]⟩

theorem sound_unmixed_heights :
    miniscriptCompiler "and(pk(a),and(thresh(1,after(10)),after(20)))".toList =
        .ok (.sound "and_v(v:pk(a),and_v(v:thresh(1,ln:after(10)),after(20)))".toList) ∧
      ∃ policy, Policy.read "and(pk(a),and(thresh(1,after(10)),after(20)))".toList = .ok policy ∧
        policy.outsideOnes.mixes = false ∧ (policy.mixes = false ↔ policy.mixesBelowOnes = false) := by
  have compiled : miniscriptCompiler "and(pk(a),and(thresh(1,after(10)),after(20)))".toList =
      .ok (.sound "and_v(v:pk(a),and_v(v:thresh(1,ln:after(10)),after(20)))".toList) := by
    decide +kernel
  exact ⟨compiled, sound_unmixed_iff compiled⟩

/-- The height below the threshold and the time outside it can never be reached together, yet the policy
is sound. -/
theorem sound_but_mixed :
    miniscriptCompiler "and(pk(a),and(thresh(1,after(10)),after(500000000)))".toList =
        .ok (.sound "and_v(v:pk(a),and_v(v:thresh(1,ln:after(10)),after(500000000)))".toList) ∧
      (Policy.read "and(pk(a),and(thresh(1,after(10)),after(500000000)))".toList).toOption.map
        Policy.mixes = some true := by
  constructor <;> decide +kernel

end SpendPolicy
