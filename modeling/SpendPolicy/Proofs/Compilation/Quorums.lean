import SpendPolicy.Proofs.Compilation.Renaming
import SpendPolicy.Proofs.Compilation.Stages
import SpendPolicy.Proofs.Lowering.Quorums

set_option autoImplicit false

namespace SpendPolicy.Policy

open Environment (keyless)

theorem exists_sound_iff {policy : Policy} (wellFormed : policy.WellFormed)
    (quorums : policy.HasQuorums) (distinct : policy.keys.Nodup) :
    (∃ canonical, policy.compile = .ok (.sound canonical)) ↔
      policy.satisfied keyless = false ∧ policy.isUnmixed = true := by
  obtain ⟨m, lowers⟩ := exists_lowers wellFormed
  have settled := settled_invariant.holds lowers.follows.types wellFormed quorums
  obtain ⟨node, typed, answers⟩ := compile_of_determined lowers distinct settled.determined
  have base : node.type.base = .base := by
    obtain ⟨type, found, base⟩ := settled.base
    cases found.symm.trans (Miniscript.describes_of_node typed).type
    exact base
  obtain ⟨_, unmixed⟩ := settled.timelocks node typed
  simp [answers, Miniscript.answer_eq_sound_iff, insanity?_eq_none_iff, base, settled.nonmalleable,
    settled.signature, unmixed]

structure Secured (policy : Policy) : Prop where
  quorums : policy.HasQuorums
  signed : policy.satisfied keyless = false
  unmixed : policy.isUnmixed = true

theorem Secured.exists_sound {policy : Policy} (secured : policy.Secured)
    (wellFormed : policy.WellFormed) (distinct : policy.keys.Nodup) :
    ∃ canonical, policy.compile = .ok (.sound canonical) :=
  (exists_sound_iff wellFormed secured.quorums distinct).mpr ⟨secured.signed, secured.unmixed⟩

theorem secured_key (name : Text) : (key name).Secured :=
  ⟨trivial, rfl, rfl⟩

theorem secured_quorum {required : Nat} {items : List Policy} (positive : 1 ≤ required)
    (keys : ∀ item ∈ items, ∃ name, item = .key name) : (thresh required items).Secured := by
  refine ⟨keys, ?_, rfl⟩
  rw [satisfied, (quorum_parts keys).1, decide_eq_false (by omega)]

section Parts

variable {left right : Policy}

theorem secured_or (first : left.Secured) (second : right.Secured) : (or left right).Secured where
  quorums := ⟨first.quorums, second.quorums⟩
  signed := by rw [satisfied, first.signed, second.signed, Bool.or_false]
  unmixed := by rw [isUnmixed, first.unmixed, second.unmixed, Bool.and_true]

theorem secured_and (first : left.Secured) (second : right.HasQuorums)
    (apart : (Timelocks.ofLeaves (left.leaves ++ right.leaves)).mixes = false) :
    (and left right).Secured where
  quorums := ⟨first.quorums, second⟩
  signed := by rw [satisfied, first.signed, Bool.false_and]
  unmixed := by rw [isUnmixed, apart, Bool.not_false]

theorem secured_delayed {value : Nat} (secured : left.Secured)
    (timeless : Timelocks.ofLeaves left.leaves = .none) : (and left (after value)).Secured := by
  refine secured_and secured (show (after value).HasQuorums from trivial) ?_
  rw [Timelocks.ofLeaves_append, timeless, Timelocks.none_merge]
  simp [leaves, Leaf.timelocks, Timelocks.ofAfter, Timelocks.mixes, Timelocks.none]

end Parts

end SpendPolicy.Policy
