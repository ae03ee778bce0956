import SpendPolicy.Composition
import SpendPolicy.Proofs.Compilation.Soundness
import SpendPolicy.Proofs.Validation.Spelling

set_option autoImplicit false

namespace SpendPolicy

open SpendPolicy.Composition (compose)

structure Aligned (leaves : List Leaf) : Prop where
  after : ∀ first second, .after first ∈ leaves → .after second ∈ leaves →
    Locktime.isAbsoluteHeight first = Locktime.isAbsoluteHeight second
  older : ∀ first second, .older first ∈ leaves → .older second ∈ leaves →
    Locktime.isRelativeTime first = Locktime.isRelativeTime second

theorem Aligned.apart {leaves : List Leaf} (aligned : Aligned leaves) :
    (Timelocks.ofLeaves leaves).mixes = false := by
  rw [Bool.eq_false_iff]
  intro mix
  obtain ⟨first, here, second, there, conflict⟩ := Timelocks.exists_conflict_of_mixes mix
  unfold Leaf.conflicts at conflict
  split at conflict
  · next value other => simp [aligned.after value other here there] at conflict
  · next value other => simp [aligned.older value other here there] at conflict
  · cases conflict

section Text

variable {settings : Settings} {policy left right : Policy}

theorem isValid_text_iff (wellFormed : policy.WellFormed) :
    (Validator.validate ⟨miniscriptCompiler, settings⟩ policy.text).isValid = true ↔
      (∀ name ∈ policy.keys, IsAdmitted settings name) ∧ policy.keys.Nodup ∧ policy.Sane := by
  have filled : policy.text.trim ≠ [] := Policy.trim_ne_nil_of_read (Policy.read_text wellFormed)
  have sound : (∃ compiled, policy.blind.compile = .ok (.sound compiled)) ↔
      policy.keys.Nodup ∧ policy.Sane := by
    rw [← Policy.compiles_sound_iff wellFormed]
    by_cases distinct : policy.keys.Nodup
    · exact Policy.exists_sound_rename wellFormed (wellFormed_blind wellFormed) distinct
        ((nodup_blind wellFormed).mpr distinct)
    · rw [Policy.compiles_sound_iff wellFormed,
        Policy.compiles_sound_iff (wellFormed_blind wellFormed), nodup_blind wellFormed]
      simp [distinct]
  rw [Verdict.isValid_iff]
  simp only [exists_valid_iff, miniscriptCompiler_template wellFormed, exists_and_left, sound,
    mem_contents_text wellFormed]
  exact and_iff_right filled

theorem isValid_or (wellFormed : left.WellFormed) (wellFormed' : right.WellFormed)
    (valid : (Validator.validate ⟨miniscriptCompiler, settings⟩ left.text).isValid = true)
    (valid' : (Validator.validate ⟨miniscriptCompiler, settings⟩ right.text).isValid = true)
    (disjoint : left.keys.Disjoint right.keys) :
    (Validator.validate ⟨miniscriptCompiler, settings⟩ (Policy.or left right).text).isValid = true := by
  obtain ⟨admitted, distinct, sane⟩ := (isValid_text_iff wellFormed).mp valid
  obtain ⟨admitted', distinct', sane'⟩ := (isValid_text_iff wellFormed').mp valid'
  have whole : (Policy.or left right).WellFormed := ⟨wellFormed, wellFormed'⟩
  exact (isValid_text_iff whole).mpr ⟨List.forall_mem_append.mpr ⟨admitted, admitted'⟩,
    distinct.append distinct' disjoint, sane.or sane'⟩

theorem isValid_and (wellFormed : left.WellFormed) (wellFormed' : right.WellFormed)
    (valid : (Validator.validate ⟨miniscriptCompiler, settings⟩ left.text).isValid = true)
    (valid' : (Validator.validate ⟨miniscriptCompiler, settings⟩ right.text).isValid = true)
    (disjoint : left.keys.Disjoint right.keys) (aligned : Aligned (left.leaves ++ right.leaves)) :
    (Validator.validate ⟨miniscriptCompiler, settings⟩ (Policy.and left right).text).isValid = true := by
  obtain ⟨admitted, distinct, sane⟩ := (isValid_text_iff wellFormed).mp valid
  obtain ⟨admitted', distinct', sane'⟩ := (isValid_text_iff wellFormed').mp valid'
  have whole : (Policy.and left right).WellFormed := ⟨wellFormed, wellFormed'⟩
  exact (isValid_text_iff whole).mpr ⟨List.forall_mem_append.mpr ⟨admitted, admitted'⟩,
    distinct.append distinct' disjoint, sane.and sane' aligned.apart⟩

theorem compose_pair (kind : CompositionKind) (pair : kind ≠ .threshold) {s t : Text} (first : s ≠ [])
    (second : t ≠ []) :
    compose kind [some s, some t] none = .ok (Composition.combine kind none [s, t]) := by
  obtain ⟨c, s, rfl⟩ := List.exists_cons_of_ne_nil first
  obtain ⟨d, t, rfl⟩ := List.exists_cons_of_ne_nil second
  cases kind with
  | and | or => rfl
  | threshold => exact absurd rfl pair

end Text

theorem composition_valid {settings : Settings} {s t : Text} {left right : Policy}
    (reads : Policy.read s = .ok left) (canonical : left.text = s)
    (readsToo : Policy.read t = .ok right) (canonicalToo : right.text = t)
    (valid : (Validator.validate ⟨miniscriptCompiler, settings⟩ s).isValid = true)
    (validToo : (Validator.validate ⟨miniscriptCompiler, settings⟩ t).isValid = true)
    (disjoint : left.keys.Disjoint right.keys) :
    (∃ either, compose .or [some s, some t] none = .ok either ∧
      (Validator.validate ⟨miniscriptCompiler, settings⟩ either).isValid = true) ∧
    (Aligned (left.leaves ++ right.leaves) →
      ∃ both, compose .and [some s, some t] none = .ok both ∧
        (Validator.validate ⟨miniscriptCompiler, settings⟩ both).isValid = true) := by
  have wellFormed := Policy.wellFormed_of_read reads
  have wellFormed' := Policy.wellFormed_of_read readsToo
  have filled : s ≠ [] := fun empty => Policy.trim_ne_nil_of_read reads (by rw [empty]; rfl)
  have filled' : t ≠ [] := fun empty => Policy.trim_ne_nil_of_read readsToo (by rw [empty]; rfl)
  subst canonical canonicalToo
  constructor
  · exact ⟨_, compose_pair .or nofun filled filled',
      isValid_or wellFormed wellFormed' valid validToo disjoint⟩
  · intro aligned
    exact ⟨_, compose_pair .and nofun filled filled',
      isValid_and wellFormed wellFormed' valid validToo disjoint aligned⟩

theorem composition_valid_delayed :
    let key (digit : Char) : Text := '0' :: '2' :: List.replicate 64 digit
    let left := Policy.key (key '1')
    let right := Policy.and (.key (key '2')) (.after 10)
    Policy.read left.text = .ok left ∧ Policy.read right.text = .ok right ∧
      (Validator.validate ⟨miniscriptCompiler, .default⟩ left.text).isValid = true ∧
      (Validator.validate ⟨miniscriptCompiler, .default⟩ right.text).isValid = true ∧
      left.keys.Disjoint right.keys ∧ Aligned (left.leaves ++ right.leaves) ∧
      (∃ either, compose .or [some left.text, some right.text] none = .ok either ∧
        (Validator.validate ⟨miniscriptCompiler, .default⟩ either).isValid = true) ∧
      ∃ both, compose .and [some left.text, some right.text] none = .ok both ∧
        (Validator.validate ⟨miniscriptCompiler, .default⟩ both).isValid = true := by
  intro key left right
  have isName : Policy.IsName (key '1') ∧ Policy.IsName (key '2') := by decide +kernel
  have reads : Policy.read left.text = .ok left := Policy.read_text isName.1
  have readsToo : Policy.read right.text = .ok right := Policy.read_text ⟨isName.2, rfl⟩
  have valid : (Validator.validate ⟨miniscriptCompiler, .default⟩ left.text).isValid = true := by
    decide +kernel
  have validToo : (Validator.validate ⟨miniscriptCompiler, .default⟩ right.text).isValid = true := by
    decide +kernel
  have disjoint : left.keys.Disjoint right.keys := List.disjoint_left.mpr (by decide)
  have aligned : Aligned (left.leaves ++ right.leaves) := by
    constructor <;> simp [left, right, Policy.leaves]
  obtain ⟨either, both⟩ := composition_valid reads rfl readsToo rfl valid validToo disjoint
  exact ⟨reads, readsToo, valid, validToo, disjoint, aligned, either, both aligned⟩

end SpendPolicy
