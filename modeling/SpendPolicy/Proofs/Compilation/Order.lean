import SpendPolicy.Proofs.Compilation.Soundness
import SpendPolicy.Proofs.Compilation.Substitution
import SpendPolicy.Proofs.Lowering.Order

set_option autoImplicit false

namespace SpendPolicy

open Policy (Rearranged Parts)

inductive SameOutcome :
    Except CompileFailure Compilation → Except CompileFailure Compilation → Prop
  | answers {c d : Compilation} (same : c.isSound = d.isSound) : SameOutcome (.ok c) (.ok d)
  | stops (fault other : TypeFault) : SameOutcome (.error (.untyped fault)) (.error (.untyped other))

namespace Policy

variable {parts : Parts} {policy other : Policy} {m m' : Miniscript}

theorem Rearranged.compiles_sound_iff (rearranged : Rearranged parts policy other)
    (wellFormed : policy.WellFormed) :
    (∃ canonical, other.compile = .ok (.sound canonical)) ↔
      ∃ canonical, policy.compile = .ok (.sound canonical) := by
  rw [Policy.compiles_sound_iff wellFormed,
    Policy.compiles_sound_iff (rearranged.wellFormed wellFormed), rearranged.keys_nodup_iff,
    rearranged.sameAnalysis.sane_iff]

theorem answers_or_stops (lowers : policy.Lowers m) :
    (policy.keys.Nodup → m.Determined) ∧ (∃ c, policy.compile = .ok c) ∨
      ¬ (policy.keys.Nodup → m.Determined) ∧ policy.compile = .error (.untyped .undetermined) := by
  by_cases distinct : policy.keys.Nodup
  · by_cases determined : m.Determined
    · obtain ⟨_, _, answers⟩ := compile_of_determined lowers distinct determined
      exact .inl ⟨fun _ => determined, _, answers⟩
    · exact .inr ⟨fun all => determined (all distinct),
        compile_of_undetermined lowers distinct determined⟩
  · exact .inl ⟨fun unique => absurd unique distinct, _, compile_of_repeated distinct⟩

theorem Rearranged.sameOutcome_iff (rearranged : Rearranged parts policy other)
    (wellFormed : policy.WellFormed) (lowers : policy.Lowers m) (lowers' : other.Lowers m') :
    SameOutcome policy.compile other.compile ↔
      (policy.keys.Nodup → (m.Determined ↔ m'.Determined)) := by
  have keys := rearranged.keys_nodup_iff
  have known : (policy.keys.Nodup → (m.Determined ↔ m'.Determined)) ↔
      ((policy.keys.Nodup → m.Determined) ↔ (other.keys.Nodup → m'.Determined)) := by
    rw [keys]
    tauto
  rw [known]
  rcases answers_or_stops lowers with ⟨here, c, answers⟩ | ⟨here, stops⟩
  · rcases answers_or_stops lowers' with ⟨there, d, others⟩ | ⟨there, stops⟩
    · have same : c.isSound = d.isSound := by
        rw [Bool.eq_iff_iff, isSound_of_compile wellFormed answers,
          isSound_of_compile (rearranged.wellFormed wellFormed) others, keys,
          rearranged.sameAnalysis.sane_iff]
      rw [answers, others]
      exact iff_of_true (.answers same) (iff_of_true here there)
    · rw [answers, stops]
      exact iff_of_false nofun fun both => there (both.mp here)
  · rcases answers_or_stops lowers' with ⟨there, d, others⟩ | ⟨there, stops'⟩
    · rw [stops, others]
      exact iff_of_false nofun fun both => here (both.mpr there)
    · rw [stops, stops']
      exact iff_of_true (.stops _ _) (iff_of_false here there)

theorem Rearranged.determined_of_nonmalleable (rearranged : Rearranged parts policy other)
    (wellFormed : policy.WellFormed) (lowers : policy.Lowers m) (lowers' : other.Lowers m')
    (nonmalleable : policy.spending.nonmalleable = true) : m.Determined ↔ m'.Determined := by
  have same := rearranged.sameAnalysis
  have determined {policy : Policy} {m : Miniscript} (wellFormed : policy.WellFormed)
      (lowers : policy.Lowers m) (nonmalleable : policy.spending.nonmalleable = true) :
      m.Determined ↔ policy.nestsOnes = false := by
    have reflects := reflects_invariant.holds lowers.follows.types wellFormed
    exact reflects.determined (reflects.agree (.inr nonmalleable) ▸ nonmalleable)
  rw [determined wellFormed lowers nonmalleable,
    determined (rearranged.wellFormed wellFormed) lowers' (same.spending ▸ nonmalleable),
    same.nestsOnes]

theorem Rearranged.determined_of_items (rearranged : Rearranged .items policy other)
    (wellFormed : policy.WellFormed) (lowers : policy.Lowers m) (lowers' : other.Lowers m') :
    m.Determined ↔ m'.Determined := by
  induction rearranged generalizing m' with
  | refl =>
    cases lowers.follows.types.symm.trans lowers'.follows.types
    rfl
  | @tail between _ before exchange ih =>
    have wellFormed' := Rearranged.wellFormed before wellFormed
    obtain ⟨middle, lowered⟩ := exists_lowers wellFormed'
    have similar := exchange.similar wellFormed' lowered.follows.types lowers'.follows.types
    exact (ih lowered).trans similar.determined.symm

end Policy

/-- Operands that change places never change whether a policy is sound. They change the outcome exactly
where the script is determined in one order only, which takes a policy that is malleable. -/
theorem outcome_of_swapped_operands {policy other : Policy} (wellFormed : policy.WellFormed)
    (swapped : Rearranged .operands policy other) :
    ((∃ canonical, miniscriptCompiler other.text = .ok (.sound canonical)) ↔
      ∃ canonical, miniscriptCompiler policy.text = .ok (.sound canonical)) ∧
    (∃ m m', policy.lowerBy Miniscript.outline = .ok m ∧ other.lowerBy Miniscript.outline = .ok m' ∧
      (SameOutcome (miniscriptCompiler policy.text) (miniscriptCompiler other.text) ↔
        (policy.keys.Nodup → (m.Determined ↔ m'.Determined)))) ∧
    (policy.spending.nonmalleable = true →
      SameOutcome (miniscriptCompiler policy.text) (miniscriptCompiler other.text)) := by
  have wellFormed' := swapped.wellFormed wellFormed
  obtain ⟨m, lowers⟩ := Policy.exists_lowers wellFormed
  obtain ⟨m', lowers'⟩ := Policy.exists_lowers wellFormed'
  rw [miniscriptCompiler_text wellFormed, miniscriptCompiler_text wellFormed']
  have outcome := swapped.sameOutcome_iff wellFormed lowers lowers'
  refine ⟨swapped.compiles_sound_iff wellFormed,
    ⟨m, m', lowers.follows.types, lowers'.follows.types, outcome⟩, fun nonmalleable => ?_⟩
  exact outcome.mpr fun _ =>
    swapped.determined_of_nonmalleable wellFormed lowers lowers' nonmalleable

theorem outcome_of_swapped_timelock :
    let policy := Policy.or (.and (.key ['a']) (.after 10)) (.key ['b'])
    let other := Policy.or (.key ['b']) (.and (.after 10) (.key ['a']))
    policy.WellFormed ∧ Rearranged .operands policy other ∧
      ((∃ canonical, miniscriptCompiler other.text = .ok (.sound canonical)) ↔
        ∃ canonical, miniscriptCompiler policy.text = .ok (.sound canonical)) ∧
      (∃ m m', policy.lowerBy Miniscript.outline = .ok m ∧ other.lowerBy Miniscript.outline = .ok m' ∧
        (SameOutcome (miniscriptCompiler policy.text) (miniscriptCompiler other.text) ↔
          (policy.keys.Nodup → (m.Determined ↔ m'.Determined)))) ∧
      (policy.spending.nonmalleable = true →
        SameOutcome (miniscriptCompiler policy.text) (miniscriptCompiler other.text)) := by
  intro policy other
  have named (c : Char) (plain : Policy.IsName [c]) : (Policy.key [c]).WellFormed := plain
  have wellFormed : policy.WellFormed :=
    ⟨⟨named 'a' (by decide), rfl⟩, named 'b' (by decide)⟩
  have swapped : Rearranged .operands policy other :=
    .tail (.single (.or rfl _ _)) (.orRight _ (.and rfl _ _))
  exact ⟨wellFormed, swapped, outcome_of_swapped_operands wellFormed swapped⟩

def zeroHash : Policy :=
  .hash .ripemd160 (.replicate 20 0)

/-- In the first order the inner threshold comes first in the `or_d`, which then can be neither satisfied
nor dissatisfied without choice, so that the outer threshold is not determined. -/
theorem swapped_but_stopped :
    (Policy.thresh 1 [.or (.thresh 1 [zeroHash, zeroHash]) zeroHash]).WellFormed ∧
      Rearranged .operands (.thresh 1 [.or (.thresh 1 [zeroHash, zeroHash]) zeroHash])
        (.thresh 1 [.or zeroHash (.thresh 1 [zeroHash, zeroHash])]) ∧
      miniscriptCompiler (Policy.thresh 1 [.or (.thresh 1 [zeroHash, zeroHash]) zeroHash]).text =
        .error (.untyped .undetermined) ∧
      (miniscriptCompiler (Policy.thresh 1 [.or zeroHash (.thresh 1 [zeroHash, zeroHash])]).text).map
        Compilation.isSound = .ok false ∧
      ¬ SameOutcome
        (miniscriptCompiler (Policy.thresh 1 [.or (.thresh 1 [zeroHash, zeroHash]) zeroHash]).text)
        (miniscriptCompiler (Policy.thresh 1 [.or zeroHash (.thresh 1 [zeroHash, zeroHash])]).text) := by
  have one : Numeral.Legible 1 := Policy.legible_of_isInRange (by decide)
  have stops : miniscriptCompiler
      (Policy.thresh 1 [.or (.thresh 1 [zeroHash, zeroHash]) zeroHash]).text =
        .error (.untyped .undetermined) := by
    decide +kernel
  have answers : (miniscriptCompiler
      (Policy.thresh 1 [.or zeroHash (.thresh 1 [zeroHash, zeroHash])]).text).map
        Compilation.isSound = .ok false := by
    decide +kernel
  refine ⟨⟨by decide, by decide, one, ?_⟩, .single (.item 1 [] [] (.or rfl _ _)), stops, answers, ?_⟩
  · exact ⟨⟨⟨by decide, by decide, one, rfl, rfl, trivial⟩, rfl⟩, trivial⟩
  · intro same
    rw [stops] at same
    generalize miniscriptCompiler _ = other at same answers
    cases same
    cases answers

theorem outcome_of_moved_items {policy other : Policy} (wellFormed : policy.WellFormed)
    (moved : Rearranged .items policy other) :
    SameOutcome (miniscriptCompiler policy.text) (miniscriptCompiler other.text) := by
  have wellFormed' := moved.wellFormed wellFormed
  obtain ⟨m, lowers⟩ := Policy.exists_lowers wellFormed
  obtain ⟨m', lowers'⟩ := Policy.exists_lowers wellFormed'
  rw [miniscriptCompiler_text wellFormed, miniscriptCompiler_text wellFormed']
  exact (moved.sameOutcome_iff wellFormed lowers lowers').mpr fun _ =>
    moved.determined_of_items wellFormed lowers lowers'

theorem outcome_of_moved_timelock :
    (Policy.thresh 2 [.and (.key ['a']) (.after 10), .key ['b'], .key ['c']]).WellFormed ∧
      Rearranged .items (.thresh 2 [.and (.key ['a']) (.after 10), .key ['b'], .key ['c']])
        (.thresh 2 [.key ['c'], .key ['b'], .and (.key ['a']) (.after 10)]) ∧
      SameOutcome (miniscriptCompiler "thresh(2,and(pk(a),after(10)),pk(b),pk(c))".toList)
        (miniscriptCompiler "thresh(2,pk(c),pk(b),and(pk(a),after(10)))".toList) := by
  have two : Numeral.Legible 2 := Policy.legible_of_isInRange (by decide)
  have named (c : Char) (plain : Policy.IsName [c]) : (Policy.key [c]).WellFormed := plain
  have wellFormed :
      (Policy.thresh 2 [.and (.key ['a']) (.after 10), .key ['b'], .key ['c']]).WellFormed :=
    ⟨by decide, by decide, two, ⟨named 'a' (by decide), rfl⟩, named 'b' (by decide),
      named 'c' (by decide), trivial⟩
  have moved : Rearranged .items (.thresh 2 [.and (.key ['a']) (.after 10), .key ['b'], .key ['c']])
      (.thresh 2 [.key ['c'], .key ['b'], .and (.key ['a']) (.after 10)]) :=
    .single (.thresh rfl 2 (List.reverse_perm _).symm)
  exact ⟨wellFormed, moved, outcome_of_moved_items wellFormed moved⟩

end SpendPolicy
