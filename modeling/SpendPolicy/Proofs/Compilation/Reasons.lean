import SpendPolicy.Proofs.Compilation.Stages
import SpendPolicy.Proofs.Compilation.Totality
import SpendPolicy.Proofs.Miniscript.Building
import SpendPolicy.Proofs.Policy.Writing

set_option autoImplicit false

namespace SpendPolicy

open Miniscript (IsStop HasFittingItems)

theorem Policy.Lowers.base_of_node {policy : Policy} {m : Miniscript} {node : Node}
    (lowers : policy.Lowers m) (built : m.node = .ok node) : node.type.base = .base := by
  obtain ⟨type, typed, base⟩ := lowers.base
  cases typed.symm.trans (Miniscript.describes_of_node built).type
  exact base

theorem Miniscript.insanity?_of_base {m : Miniscript} {node : Node} {insanity : Insanity}
    (base : node.type.base = .base) (insane : m.insanity? node = some insanity) :
    insanity ∈ [Insanity.unsigned, .malleable, .timelockMix] := by
  simp only [insanity?, base, bne_self_eq_false, Bool.false_eq_true, if_false] at insane
  split at insane
  · cases insane
    simp
  · split at insane
    · cases insane
      simp
    · split at insane
      · cases insane
        simp
      · cases insane

/-- The reasons that are ever given: the others are of scripts that the rules of lowering do not give. -/
def UnsoundReason.given : List UnsoundReason :=
  [.repeatedKey, .insane .unsigned, .insane .malleable, .insane .timelockMix]

theorem mem_given_of_compile {policy : Policy} {c : Compilation} {reason : UnsoundReason}
    (wellFormed : policy.WellFormed) (compiles : policy.compile = .ok c)
    (unsound : c.reason? = some reason) : reason ∈ UnsoundReason.given := by
  obtain ⟨m, lowers⟩ := Policy.exists_lowers wellFormed
  by_cases distinct : policy.keys.Nodup
  · by_cases determined : m.Determined
    · obtain ⟨node, built, answers⟩ := Policy.compile_of_determined lowers distinct determined
      cases compiles.symm.trans answers
      unfold Miniscript.answer at unsound
      split at unsound
      · next insanity insane =>
        cases unsound
        have possible := Miniscript.insanity?_of_base (lowers.base_of_node built) insane
        simpa [UnsoundReason.given] using possible
      · cases unsound
    · cases compiles.symm.trans (Policy.compile_of_undetermined lowers distinct determined)
  · cases compiles.symm.trans (Policy.compile_of_repeated distinct)
    cases unsound
    simp [UnsoundReason.given]

/-- A policy that is read either stops the compiler at a threshold, the items of which have been built, or is
lowered to a script of the base type whose thresholds all have items of the types that they ask for. No text
is refused for want of such a script. -/
theorem lowering_builds_or_stops (s : Text) :
    (∀ policy, Policy.read s = .ok policy →
      (policy.Stops ∧ ∃ m, policy.lowerBy Miniscript.outline = .ok m ∧ ∃ sub ∈ m.subscripts, sub.IsStop) ∨
        ∃ m node, policy.lower = .ok m ∧ m.node = .ok node ∧ node.type.base = .base ∧
          m.Everywhere HasFittingItems) ∧
      ∀ c reason, miniscriptCompiler s = .ok c → c.reason? = some reason →
        reason ∈ UnsoundReason.given := by
  constructor
  · intro policy reads
    obtain ⟨m, lowers⟩ := Policy.exists_lowers (Policy.wellFormed_of_read reads)
    by_cases determined : m.Determined
    · obtain ⟨node, lowered, built⟩ := lowers.builds determined
      exact .inr ⟨m, node, lowered, built, lowers.base_of_node built,
        Miniscript.everywhere_hasFittingItems built⟩
    · exact .inl ⟨lowers.stops determined, m, lowers.follows.types,
        Miniscript.exists_stop lowers.typed determined⟩
  · intro c reason compiled unsound
    obtain ⟨policy, reads, compiles⟩ := exists_policy_of_compiled compiled
    exact mem_given_of_compile (Policy.wellFormed_of_read reads) compiles unsound

theorem lowering_builds_or_stops_mended :
    let s := "thresh(2,or(after(5),pk(a)),and(pk(b),after(10)))".toList
    let policy : Policy := .thresh 2 [.or (.after 5) (.key ['a']), .and (.key ['b']) (.after 10)]
    Policy.read s = .ok policy ∧
      (∃ m node, policy.lower = .ok m ∧ m.node = .ok node ∧ node.type.base = .base ∧
        m.Everywhere HasFittingItems) ∧
      ∃ c reason, miniscriptCompiler s = .ok c ∧ c.reason? = some reason ∧
        reason ∈ UnsoundReason.given := by
  intro s policy
  have reads : Policy.read s = .ok policy := by
    have two : Numeral.Legible 2 := Policy.legible_of_isInRange (by decide)
    have first : Policy.IsName ['a'] := by decide
    have second : Policy.IsName ['b'] := by decide
    exact @Policy.read_text policy ⟨by decide, by decide, two, ⟨rfl, first⟩, ⟨second, rfl⟩, trivial⟩
  have compiled : miniscriptCompiler s =
      .ok (.unsound "thresh(2,ln:or_d(pk(a),after(5)),aln:and_v(v:pk(b),after(10)))".toList
        (.insane .unsigned)) := by
    decide +kernel
  obtain ⟨forms, reasons⟩ := lowering_builds_or_stops s
  have built := (forms policy reads).resolve_left fun stopped => by
    rcases stopped.1 with stops | ⟨m, lowered, stops⟩
    · cases stops
    · cases lowered
      cases stops
  exact ⟨reads, built, _, _, compiled, rfl, reasons _ _ compiled rfl⟩

end SpendPolicy
