import SpendPolicy.Proofs.Compilation.Stages

set_option autoImplicit false

namespace SpendPolicy

theorem canonical_refines_policy {s : Text} {c : Compilation} (compiled : miniscriptCompiler s = .ok c)
    (shown : c.canonical ≠ []) :
    ∃ policy m, Policy.read s = .ok policy ∧ Miniscript.read? c.canonical = some m ∧
      (∀ env, m.satisfied env = policy.satisfied env) ∧ m.leaves.Perm policy.leaves ∧
      m.keys.Nodup := by
  obtain ⟨policy, m, stages, canonical⟩ := exists_script_of_canonical compiled shown
  have back : Miniscript.read? c.canonical = some m := by rw [canonical, stages.read?_text]
  exact ⟨policy, m, stages.reads, back, stages.satisfied_eq, stages.leaves_perm, stages.keys_nodup⟩

theorem canonical_refines_policy_thresh :
    miniscriptCompiler "thresh(2,pk(a),pk(b),and(pk(c),after(10)))".toList =
        .ok (.sound "thresh(2,pk(a),s:pk(b),aln:and_v(v:pk(c),after(10)))".toList) ∧
      ∃ policy m, Policy.read "thresh(2,pk(a),pk(b),and(pk(c),after(10)))".toList = .ok policy ∧
        Miniscript.read? "thresh(2,pk(a),s:pk(b),aln:and_v(v:pk(c),after(10)))".toList = some m ∧
        (∀ env, m.satisfied env = policy.satisfied env) ∧ m.leaves.Perm policy.leaves ∧
        m.keys.Nodup := by
  have compiled : miniscriptCompiler "thresh(2,pk(a),pk(b),and(pk(c),after(10)))".toList =
      .ok (.sound "thresh(2,pk(a),s:pk(b),aln:and_v(v:pk(c),after(10)))".toList) := by
    decide +kernel
  exact ⟨compiled, canonical_refines_policy compiled (by decide)⟩

end SpendPolicy
