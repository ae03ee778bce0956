import SpendPolicy.Proofs.Compilation.Totality
import SpendPolicy.Proofs.Lowering.Renaming

set_option autoImplicit false

namespace SpendPolicy

namespace Miniscript

variable {m : Miniscript} {node : Node}

theorem canonical_answer : (m.answer node).canonical = m.text := by
  unfold answer
  cases m.insanity? node <;> rfl

theorem isSound_answer : (m.answer node).isSound = (m.insanity? node).isNone := by
  unfold answer
  cases m.insanity? node <;> rfl

theorem reason?_answer : (m.answer node).reason? = (m.insanity? node).map .insane := by
  unfold answer
  cases m.insanity? node <;> rfl

theorem answer_eq_sound_iff {canonical : Text} :
    m.answer node = .sound canonical ↔ m.insanity? node = none ∧ canonical = m.text := by
  unfold answer
  cases m.insanity? node <;> simp [eq_comm]

end Miniscript

namespace Policy

variable {policy : Policy} {f : Text → Text}

theorem compile_rename (wellFormed : policy.WellFormed) (renamed : (policy.rename f).WellFormed)
    (distinct : policy.keys.Nodup) (stay : (policy.rename f).keys.Nodup) :
    policy.compile = .error (.untyped .undetermined) ∧
        (policy.rename f).compile = .error (.untyped .undetermined) ∨
      ∃ m node, policy.Lowers m ∧ policy.compile = .ok (m.answer node) ∧
        (policy.rename f).compile = .ok ((m.rename f).answer node) := by
  obtain ⟨m, lowers⟩ := exists_lowers wellFormed
  have again := lowers.rename renamed
  obtain ⟨type, typed, _⟩ := lowers.base
  have same := Miniscript.determined_rename (f := f) ⟨type, typed⟩
  by_cases determined : m.Determined
  · obtain ⟨node, built, answers⟩ := compile_of_determined lowers distinct determined
    obtain ⟨other, rebuilt, others⟩ := compile_of_determined again stay (same.mpr determined)
    rw [Miniscript.node_rename, built] at rebuilt
    cases rebuilt
    exact .inr ⟨m, node, lowers, answers, others⟩
  · exact .inl ⟨compile_of_undetermined lowers distinct determined,
      compile_of_undetermined again stay (determined ∘ same.mp)⟩

theorem exists_sound_rename (wellFormed : policy.WellFormed) (renamed : (policy.rename f).WellFormed)
    (distinct : policy.keys.Nodup) (stay : (policy.rename f).keys.Nodup) :
    (∃ canonical, (policy.rename f).compile = .ok (.sound canonical)) ↔
      ∃ canonical, policy.compile = .ok (.sound canonical) := by
  rcases compile_rename wellFormed renamed distinct stay with
    ⟨stops, stopsToo⟩ | ⟨m, node, _, answers, others⟩
  · simp [stops, stopsToo]
  · simp [answers, others, Miniscript.answer_eq_sound_iff, Miniscript.insanity?_rename]

end Policy

end SpendPolicy
