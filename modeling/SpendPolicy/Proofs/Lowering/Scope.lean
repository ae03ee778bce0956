import SpendPolicy.Proofs.Lowering.Meaning
import SpendPolicy.Proofs.Miniscript.KeySites

set_option autoImplicit false

namespace SpendPolicy

open Lowering
open Extraction (Flat)

def AgreeOn (good : Text → Prop) (typing other : Typing) : Prop :=
  ∀ m : Miniscript, (∀ name ∈ m.keys, good name) → typing m = other m

section Congruence

variable {typing other : Typing} {good : Text → Prop}

theorem Lowering.pickItems_congr (agree : AgreeOn good typing other) {xs : List Miniscript}
    (names : ∀ x ∈ xs, ∀ name ∈ x.keys, good name) :
    pickItems typing xs = pickItems other xs := by
  induction xs with
  | nil => rfl
  | cons x xs ih =>
    have tail := ih fun x member => names x (List.mem_cons_of_mem _ member)
    have head : pick typing (isDissatisfiableUnit .wrapped) (itemCandidates x) =
        pick other (isDissatisfiableUnit .wrapped) (itemCandidates x) := by
      apply pick_congr
      intro m member
      rw [agree m]
      rw [(Miniscript.Alike.of_itemCandidate member).keys]
      exact names x (List.mem_cons_self ..)
    simp only [pickItems, head, tail]

theorem Lowering.thresh_congr (agree : AgreeOn good typing other) {required : Nat}
    {xs : List Miniscript} (names : ∀ x ∈ xs, ∀ name ∈ x.keys, good name) :
    thresh typing required xs = thresh other required xs := by
  match xs with
  | [] => rfl
  | x :: xs =>
    have head : pick typing (isDissatisfiableUnit .base) (firstCandidates x) =
        pick other (isDissatisfiableUnit .base) (firstCandidates x) := by
      apply pick_congr
      intro m member
      rw [agree m]
      rw [(Miniscript.Alike.of_firstCandidate member).keys]
      exact names x (List.mem_cons_self ..)
    have tail := pickItems_congr agree fun x member => names x (List.mem_cons_of_mem _ member)
    simp only [thresh, head, tail]

theorem Lowering.pickOr_congr (agree : AgreeOn good typing other) {x y : Miniscript}
    (left : ∀ name ∈ x.keys, good name)
    (right : ∀ name ∈ y.keys, good name) :
    pick typing isNonmalleable (orCandidates x y) = pick other isNonmalleable (orCandidates x y) := by
  apply pick_congr
  intro m member
  rw [agree m]
  intro name inside
  have either : name ∈ x.keys ∨ name ∈ y.keys := by
    rcases Miniscript.mem_orCandidates.mp member with rfl | rfl | rfl
    · simpa [Miniscript.keys] using inside
    · simpa [Miniscript.keys, or_comm] using inside
    · simpa [Miniscript.keys] using inside
  exact either.elim (left name) (right name)

namespace Policy

mutual

theorem lowerBy_congr (agree : AgreeOn good typing other) {policy : Policy}
    (names : ∀ name ∈ policy.keys, good name) :
    policy.lowerBy typing = policy.lowerBy other := by
  match policy with
  | .key _ | .after _ | .older _ | .hash _ _ | .unknown => rfl
  | .and left right =>
    have first : left.lowerBy typing = left.lowerBy other :=
      lowerBy_congr agree fun name member => names name (List.mem_append_left _ member)
    have second : right.lowerBy typing = right.lowerBy other :=
      lowerBy_congr agree fun name member => names name (List.mem_append_right _ member)
    simp only [lowerBy, first, second]
  | .or left right =>
    have first : left.lowerBy typing = left.lowerBy other :=
      lowerBy_congr agree fun name member => names name (List.mem_append_left _ member)
    have second : right.lowerBy typing = right.lowerBy other :=
      lowerBy_congr agree fun name member => names name (List.mem_append_right _ member)
    cases leftScript : left.lowerBy other with
    | error fault => simp only [lowerBy, first, leftScript]
    | ok x =>
      cases rightScript : right.lowerBy other with
      | error fault => simp only [lowerBy, first, leftScript, second, rightScript]
      | ok y =>
        simp only [lowerBy, first, leftScript, second, rightScript]
        apply pickOr_congr agree
        · intro name member
          exact names name (List.mem_append_left _ ((keys_lowered leftScript).mem_iff.mp member))
        · intro name member
          exact names name (List.mem_append_right _ ((keys_lowered rightScript).mem_iff.mp member))
  | .thresh required items =>
    have each := lowerAllBy_congr agree names
    cases scripts : lowerAllBy other items with
    | error fault => simp only [lowerBy, each, scripts]
    | ok xs =>
      simp only [lowerBy, each, scripts]
      apply thresh_congr agree
      intro x member name inside
      obtain ⟨item, inItems, script⟩ := (forall₂_of_lowerAllBy scripts).exists_left_of_mem member
      apply names name
      rw [keys, keysOfAll_eq_flatMap]
      exact List.mem_flatMap.mpr ⟨item, inItems, (keys_lowered script).mem_iff.mp inside⟩

theorem lowerAllBy_congr (agree : AgreeOn good typing other) {items : List Policy}
    (names : ∀ name ∈ keysOfAll items, good name) :
    lowerAllBy typing items = lowerAllBy other items := by
  match items with
  | [] => rfl
  | item :: items =>
    have head : item.lowerBy typing = item.lowerBy other :=
      lowerBy_congr agree fun name member => names name (List.mem_append_left _ member)
    have tail : lowerAllBy typing items = lowerAllBy other items :=
      lowerAllBy_congr agree fun name member => names name (List.mem_append_right _ member)
    simp only [lowerAllBy, head, tail]

end

end Policy

end Congruence

theorem agreeOn_readable (scope : List Text) :
    AgreeOn (fun name => name ∈ scope ∧ Flat name) (Miniscript.nodeWithin scope) Miniscript.node :=
  fun _ readable => Miniscript.nodeWithin_eq_node readable

theorem Policy.steps_of_lowerTyped {policy : Policy} {m : Miniscript} {node : Node}
    (lowered : policy.lowerTyped = .ok (m, node)) :
    policy.lowerBy (Miniscript.nodeWithin policy.keys) = .ok m ∧ m.node = .ok node := by
  simp only [lowerTyped] at lowered
  split at lowered
  · cases lowered
  · next script found =>
    split at lowered
    · cases lowered
    · next typed =>
      cases lowered
      exact ⟨found, Miniscript.node_of_nodeWithin typed⟩

theorem lowerTyped_eq_ok_iff {policy : Policy} {m : Miniscript} {node : Node}
    (flat : ∀ name ∈ policy.keys, Flat name) :
    policy.lowerTyped = .ok (m, node) ↔ policy.lower = .ok m ∧ m.node = .ok node := by
  have readable : ∀ name ∈ policy.keys, name ∈ policy.keys ∧ Flat name :=
    fun name member => ⟨member, flat name member⟩
  have same := Policy.lowerBy_congr (agreeOn_readable policy.keys) readable
  unfold Policy.lower
  cases lowered : policy.lowerBy Miniscript.node with
  | error fault => simp [Policy.lowerTyped, same, lowered]
  | ok script =>
    have typed : Miniscript.nodeWithin policy.keys script = script.node :=
      Miniscript.nodeWithin_eq_node fun name member =>
        readable name ((Policy.keys_lowered lowered).mem_iff.mp member)
    cases typing : script.node with
    | error fault =>
      simp only [Policy.lowerTyped, same, lowered, typed, typing]
      grind
    | ok found =>
      simp only [Policy.lowerTyped, same, lowered, typed, typing]
      grind

end SpendPolicy
