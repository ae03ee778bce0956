import SpendPolicy.Proofs.Compilation.Stages
import SpendPolicy.Proofs.Miniscript.Nodes

set_option autoImplicit false

namespace SpendPolicy

/-- A sound form has a type by the rules of the reference exactly if every `s:` in it stands before one
argument, so in any case if no threshold of the policy has a single item. -/
theorem sound_typed_iff {s canonical : Text}
    (compiled : miniscriptCompiler s = .ok (.sound canonical)) :
    ∃ policy m, Policy.read s = .ok policy ∧ Miniscript.read? canonical = some m ∧
      (m.Typed .byItems ↔ m.Everywhere Miniscript.TakesOne) ∧
      ((∀ threshold ∈ policy.thresholds, threshold.2 ≠ 1) → m.Typed .byItems) := by
  obtain ⟨policy, m, node, stages, typed, _, rfl⟩ := exists_script_of_sound compiled
  have byCount : m.Typed .byCount := ⟨node.type, (Miniscript.describes_of_node typed).type⟩
  have same := Policy.thresholds_lowered stages.lowered
  refine ⟨policy, m, stages.reads, stages.read?_text, Miniscript.typed_byItems_iff byCount, ?_⟩
  intro manifold
  apply Miniscript.typed_byItems_of_manifold byCount
  intro threshold member
  exact manifold threshold (same.mem_iff.mp member)

theorem sound_typed_two :
    miniscriptCompiler "thresh(2,pk(a),pk(b),and(pk(c),after(10)))".toList =
        .ok (.sound "thresh(2,pk(a),s:pk(b),aln:and_v(v:pk(c),after(10)))".toList) ∧
      ∃ policy m,
        Policy.read "thresh(2,pk(a),pk(b),and(pk(c),after(10)))".toList = .ok policy ∧
        Miniscript.read? "thresh(2,pk(a),s:pk(b),aln:and_v(v:pk(c),after(10)))".toList = some m ∧
        (m.Typed .byItems ↔ m.Everywhere Miniscript.TakesOne) ∧
        ((∀ threshold ∈ policy.thresholds, threshold.2 ≠ 1) → m.Typed .byItems) := by
  have compiled : miniscriptCompiler "thresh(2,pk(a),pk(b),and(pk(c),after(10)))".toList =
      .ok (.sound "thresh(2,pk(a),s:pk(b),aln:and_v(v:pk(c),after(10)))".toList) := by
    decide +kernel
  exact ⟨compiled, sound_typed_iff compiled⟩

/-- The threshold of one key takes its signature, so that what stands behind the `s:` takes two
arguments. -/
theorem sound_but_untyped :
    miniscriptCompiler "thresh(2,pk(b),and(thresh(1,pk(a)),after(10)))".toList =
        .ok (.sound "thresh(2,pk(b),sln:and_v(v:thresh(1,pk(a)),after(10)))".toList) ∧
      (Miniscript.read? "thresh(2,pk(b),sln:and_v(v:thresh(1,pk(a)),after(10)))".toList).map
        (Miniscript.typeBy .byItems) = some none := by
  constructor <;> decide +kernel

end SpendPolicy
