import SpendPolicy.Proofs.Compilation.Renaming
import SpendPolicy.Proofs.Compilation.Stages
import SpendPolicy.Proofs.Lowering.Spending

set_option autoImplicit false

namespace SpendPolicy

theorem Compilation.isSound_iff {c : Compilation} :
    c.isSound = true ↔ ∃ canonical, c = .sound canonical := by
  cases c <;> simp [isSound]

namespace Policy

variable {policy : Policy} {m : Miniscript}

theorem Reflects.insanity?_eq_none_iff (reflects : policy.Reflects m) {node : Node}
    (typed : m.node = .ok node) (determined : m.Determined) :
    m.insanity? node = none ↔ policy.Sane := by
  have base : node.type.base = .base := by
    obtain ⟨type, found, base⟩ := reflects.coherent.base
    cases found.symm.trans (Miniscript.describes_of_node typed).type
    exact base
  rw [SpendPolicy.insanity?_eq_none_iff]
  constructor
  · rintro ⟨_, signed, nonmalleable, apart⟩
    have same := reflects.agree (.inl nonmalleable)
    rw [reflects.apart nonmalleable signed node typed, Bool.not_eq_true'] at apart
    exact ⟨same ▸ signed, same ▸ nonmalleable, (reflects.determined nonmalleable).mp determined, apart⟩
  · intro sane
    have same := reflects.agree (.inr sane.nonmalleable)
    have signed : m.spending.needsSignature = true := same ▸ sane.signature
    have nonmalleable : m.spending.nonmalleable = true := same ▸ sane.nonmalleable
    refine ⟨base, signed, nonmalleable, ?_⟩
    rw [reflects.apart nonmalleable signed node typed, sane.unmixed, Bool.not_false]

theorem Reflects.determined_of_sane (reflects : policy.Reflects m) (sane : policy.Sane) :
    m.Determined := by
  have nonmalleable : m.spending.nonmalleable = true :=
    reflects.agree (.inr sane.nonmalleable) ▸ sane.nonmalleable
  exact (reflects.determined nonmalleable).mpr sane.determined

theorem compiles_sound_iff (wellFormed : policy.WellFormed) :
    (∃ canonical, policy.compile = .ok (.sound canonical)) ↔ policy.keys.Nodup ∧ policy.Sane := by
  obtain ⟨m, lowers⟩ := exists_lowers wellFormed
  have reflects := reflects_invariant.holds lowers.follows.types wellFormed
  by_cases distinct : policy.keys.Nodup
  · by_cases determined : m.Determined
    · obtain ⟨node, typed, answers⟩ := compile_of_determined lowers distinct determined
      simp [answers, Miniscript.answer_eq_sound_iff, distinct,
        reflects.insanity?_eq_none_iff typed determined]
    · have insane : ¬ policy.Sane := determined ∘ reflects.determined_of_sane
      simp [compile_of_undetermined lowers distinct determined, insane]
  · simp [compile_of_repeated distinct, distinct]

theorem isSound_of_compile (wellFormed : policy.WellFormed) {c : Compilation}
    (answers : policy.compile = .ok c) : c.isSound = true ↔ policy.keys.Nodup ∧ policy.Sane := by
  rw [← compiles_sound_iff wellFormed, answers, Compilation.isSound_iff]
  simp

end Policy

end SpendPolicy
