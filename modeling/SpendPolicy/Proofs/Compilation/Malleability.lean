import SpendPolicy.Proofs.Compilation.Stages
import SpendPolicy.Proofs.Lowering.Malleability

set_option autoImplicit false

namespace SpendPolicy

theorem nonmalleable_of_sane {m : Miniscript} {node : Node} (sane : m.insanity? node = none) :
    m.spending.nonmalleable = true :=
  (insanity?_eq_none_iff.mp sane).2.2.1

theorem sound_nonmalleable_iff {s canonical : Text}
    (compiled : miniscriptCompiler s = .ok (.sound canonical)) :
    ∃ m, Miniscript.read? canonical = some m ∧
      (m.reference.nonmalleable = true ↔ m.Guarded) := by
  obtain ⟨policy, m, node, stages, typed, sane, rfl⟩ := exists_script_of_sound compiled
  exact ⟨m, stages.read?_text,
    Policy.reference_nonmalleable_iff stages.lowered typed (nonmalleable_of_sane sane)⟩

theorem sound_nonmalleable_timelocked :
    ∃ m, Miniscript.read? "or_d(pk(a),and_v(v:pk(b),after(10)))".toList = some m ∧
      (m.reference.nonmalleable = true ↔ m.Guarded) := by
  have compiled : miniscriptCompiler "or(pk(a),and(pk(b),after(10)))".toList =
      .ok (.sound "or_d(pk(a),and_v(v:pk(b),after(10)))".toList) := by
    decide +kernel
  exact sound_nonmalleable_iff compiled

theorem sound_but_malleable :
    (miniscriptCompiler "and(pk(a),or(after(10),after(20)))".toList =
        .ok (.sound "and_v(v:pk(a),or_i(after(10),after(20)))".toList) ∧
      (Miniscript.read? "and_v(v:pk(a),or_i(after(10),after(20)))".toList).map
        (fun m => m.reference.nonmalleable) = some false) ∧
    miniscriptCompiler "thresh(2,pk(b),and(after(10),pk(a)))".toList =
        .ok (.sound "thresh(2,pk(b),aln:and_v(v:after(10),pk(a)))".toList) ∧
      (Miniscript.read? "thresh(2,pk(b),aln:and_v(v:after(10),pk(a)))".toList).map
        (fun m => m.reference.nonmalleable) = some false := by
  refine ⟨⟨?_, ?_⟩, ?_, ?_⟩ <;> decide +kernel

end SpendPolicy
