import SpendPolicy.Proofs.Lowering.Meaning
import SpendPolicy.Proofs.Miniscript.RoundTrip

set_option autoImplicit false

namespace SpendPolicy

structure Lowered (s : Text) (policy : Policy) (m : Miniscript) : Prop where
  reads : Policy.read s = .ok policy
  distinct : policy.keys.Nodup
  lowered : policy.lower = .ok m

namespace Lowered

variable {s : Text} {policy : Policy} {m : Miniscript}

theorem satisfied_eq (stages : Lowered s policy m) (env : Environment) :
    m.satisfied env = policy.satisfied env :=
  Policy.satisfied_lowered stages.lowered env

theorem leaves_perm (stages : Lowered s policy m) : m.leaves.Perm policy.leaves :=
  Policy.leaves_lowered stages.lowered

theorem keys_perm (stages : Lowered s policy m) : m.keys.Perm policy.keys :=
  Policy.keys_lowered stages.lowered

theorem keys_nodup (stages : Lowered s policy m) : m.keys.Nodup :=
  stages.keys_perm.nodup_iff.mpr stages.distinct

theorem legible (stages : Lowered s policy m) : m.Legible := by
  have source := Policy.legible_of_read stages.reads
  constructor
  · intro leaf member
    exact source.leaves leaf (stages.leaves_perm.mem_iff.mp member)
  · intro threshold member
    exact source.thresholds threshold
      ((Policy.thresholds_lowered stages.lowered).mem_iff.mp member)

theorem read?_text (stages : Lowered s policy m) : Miniscript.read? m.text = some m :=
  Miniscript.read?_text stages.legible

end Lowered

theorem insanity?_eq_none_iff {m : Miniscript} {node : Node} :
    m.insanity? node = none ↔ node.type.base = .base ∧ m.spending.needsSignature = true ∧
      m.spending.nonmalleable = true ∧ node.noTimelockMix = true := by
  unfold Miniscript.insanity?
  cases node.type.base <;> cases m.spending.needsSignature <;> cases m.spending.nonmalleable <;>
    cases node.noTimelockMix <;> simp

theorem insanity?_eq_malleable_iff {m : Miniscript} {node : Node} :
    m.insanity? node = some .malleable ↔ node.type.base = .base ∧ m.spending.needsSignature = true ∧
      m.spending.nonmalleable = false := by
  unfold Miniscript.insanity?
  cases node.type.base <;> cases m.spending.needsSignature <;> cases m.spending.nonmalleable <;>
    cases node.noTimelockMix <;> simp

theorem exists_policy_of_compiled {s : Text} {c : Compilation}
    (compiled : miniscriptCompiler s = .ok c) :
    ∃ policy, Policy.read s = .ok policy ∧ policy.compile = .ok c := by
  unfold miniscriptCompiler at compiled
  split at compiled
  · cases compiled
  · next policy reads => exact ⟨policy, reads, compiled⟩

theorem compiled_cases {s : Text} {c : Compilation} (compiled : miniscriptCompiler s = .ok c) :
    (∃ reason, c = .unsound [] reason) ∨
      ∃ policy m node, Lowered s policy m ∧ m.node = .ok node ∧
        c = match m.insanity? node with
          | some insanity => .unsound m.text (.insane insanity)
          | none => .sound m.text := by
  obtain ⟨policy, reads, compiles⟩ := exists_policy_of_compiled compiled
  -- Every way out of the compiler but the last gives no form.
  unfold Policy.compile at compiles
  split at compiles
  · next distinct =>
    split at compiles
    · cases compiles
      exact .inl ⟨_, rfl⟩
    · cases compiles
    · next m lowered =>
      split at compiles
      · cases compiles
        exact .inl ⟨_, rfl⟩
      · cases compiles
      · next node typed =>
        refine .inr ⟨policy, m, node, ⟨reads, distinct, lowered⟩, typed, ?_⟩
        cases insane : m.insanity? node with
        | some insanity =>
          simp only [insane] at compiles
          cases compiles
          rfl
        | none =>
          simp only [insane] at compiles
          cases compiles
          rfl
  · cases compiles
    exact .inl ⟨_, rfl⟩

theorem exists_script_of_shown {s : Text} {c : Compilation} (compiled : miniscriptCompiler s = .ok c)
    (shown : c.canonical ≠ []) :
    ∃ policy m node, Lowered s policy m ∧ m.node = .ok node ∧ c.canonical = m.text ∧
      ∀ insanity, c.reason? = some (.insane insanity) ↔ m.insanity? node = some insanity := by
  rcases compiled_cases compiled with ⟨reason, rfl⟩ | ⟨policy, m, node, stages, typed, rfl⟩
  · exact absurd rfl shown
  · refine ⟨policy, m, node, stages, typed, ?_⟩
    cases m.insanity? node with
    | none => simp [Compilation.canonical, Compilation.reason?]
    | some found => simp [Compilation.canonical, Compilation.reason?]

theorem exists_script_of_canonical {s : Text} {c : Compilation}
    (compiled : miniscriptCompiler s = .ok c) (shown : c.canonical ≠ []) :
    ∃ policy m, Lowered s policy m ∧ c.canonical = m.text := by
  obtain ⟨policy, m, _, stages, _, same, _⟩ := exists_script_of_shown compiled shown
  exact ⟨policy, m, stages, same⟩

theorem exists_script_of_sound {s canonical : Text}
    (compiled : miniscriptCompiler s = .ok (.sound canonical)) :
    ∃ policy m node, Lowered s policy m ∧ m.node = .ok node ∧ m.insanity? node = none ∧
      canonical = m.text := by
  rcases compiled_cases compiled with ⟨reason, same⟩ | ⟨policy, m, node, stages, typed, same⟩
  · cases same
  · refine ⟨policy, m, node, stages, typed, ?_⟩
    cases insanity : m.insanity? node with
    | some insanity => simp [insanity] at same
    | none =>
      rw [insanity] at same
      cases same
      exact ⟨rfl, rfl⟩

end SpendPolicy
