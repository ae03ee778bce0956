import SpendPolicy.Proofs.Lowering.Rules
import SpendPolicy.Proofs.Miniscript.Meaning
import SpendPolicy.Proofs.Miniscript.Subscripts

set_option autoImplicit false

namespace SpendPolicy

open Lowering

namespace Miniscript

section Wrapped

variable {x m : Miniscript}

theorem mem_firstCandidates : m ∈ firstCandidates x ↔ m = x ∨ m = optional x := by
  simp [firstCandidates]

theorem mem_itemCandidates : m ∈ itemCandidates x ↔
    ∃ first ∈ firstCandidates x, m = .wrap .s first ∨ m = .wrap .a first := by
  simp only [itemCandidates, firstCandidates, List.mem_cons, List.not_mem_nil, or_false,
    exists_eq_or_imp, exists_eq_left, or_assoc]

theorem mem_orCandidates {y : Miniscript} :
    m ∈ orCandidates x y ↔ m = .orD x y ∨ m = .orD y x ∨ m = .orI x y := by
  simp [orCandidates]

theorem everywhere_orCandidate {y : Miniscript} {p : Miniscript → Prop} (orD : ∀ x y, p (orD x y))
    (orI : ∀ x y, p (orI x y)) (member : m ∈ orCandidates x y) :
    m.Everywhere p ↔ x.Everywhere p ∧ y.Everywhere p := by
  rcases mem_orCandidates.mp member with rfl | rfl | rfl
  · exact everywhere_orD.trans (and_iff_right (orD x y))
  · exact (everywhere_orD.trans (and_iff_right (orD y x))).trans and_comm
  · exact everywhere_orI.trans (and_iff_right (orI x y))

structure Alike (x m : Miniscript) : Prop where
  satisfied : ∀ env, m.satisfied env = x.satisfied env
  leaves : m.leaves = x.leaves
  thresholds : m.thresholds = x.thresholds

theorem Alike.refl (x : Miniscript) : Alike x x :=
  ⟨fun _ => rfl, rfl, rfl⟩

theorem alike_optional (x : Miniscript) : Alike x (optional x) :=
  ⟨fun env => by simp [Lowering.optional, satisfied, satisfiedWith], rfl, rfl⟩

theorem Alike.keys (alike : Alike x m) : m.keys = x.keys := by
  rw [keys_eq_leaves, keys_eq_leaves, alike.leaves]

theorem Alike.of_firstCandidate (member : m ∈ firstCandidates x) : Alike x m := by
  rcases mem_firstCandidates.mp member with rfl | rfl
  · exact .refl m
  · exact alike_optional x

theorem Alike.of_itemCandidate (member : m ∈ itemCandidates x) : Alike x m := by
  obtain ⟨first, inner, rfl | rfl⟩ := mem_itemCandidates.mp member
  · have alike := of_firstCandidate inner
    exact ⟨alike.satisfied, alike.leaves, alike.thresholds⟩
  · have alike := of_firstCandidate inner
    exact ⟨alike.satisfied, alike.leaves, alike.thresholds⟩

theorem Alike.of_first {typing : Typing} (picked : PicksFirst typing x m) : Alike x m :=
  .of_firstCandidate (pick_mem picked)

theorem Alike.of_item {typing : Typing} (picked : PicksItem typing x m) : Alike x m :=
  .of_itemCandidate (pick_mem picked)

end Wrapped

end Miniscript

namespace Policy

open Miniscript (Alike mem_orCandidates)

theorem satisfied_invariant (typing : Typing) (env : Environment) :
    LoweringInvariant typing fun policy m => m.satisfied env = policy.satisfied env where
  key _ := rfl
  after _ := rfl
  older _ := rfl
  hash _ _ := rfl
  and first second := by
    simp only [Miniscript.satisfied] at first second
    simp [Miniscript.satisfied, Miniscript.satisfiedWith, satisfied, verified, first, second]
  or first second picked := by
    simp only [Miniscript.satisfied] at first second
    rcases mem_orCandidates.mp (pick_mem picked) with rfl | rfl | rfl
    · simp [Miniscript.satisfied, Miniscript.satisfiedWith, satisfied, first, second]
    · simp [Miniscript.satisfied, Miniscript.satisfiedWith, satisfied, first, second, Bool.or_comm]
    · simp [Miniscript.satisfied, Miniscript.satisfiedWith, satisfied, first, second]
  thresh {_ _ _ _ items scripts} first picked others := by
    have head := ((Alike.of_first picked).satisfied env).trans first
    have tail : scripts.countP (Miniscript.satisfiedWith false env) = items.countP (satisfied env) :=
      List.Forall₂.countP_eq <| others.imp <| by
        rintro item script ⟨x, inner, candidate⟩
        exact ((Alike.of_item candidate).satisfied env).trans inner
    simp only [Miniscript.satisfied] at head
    simp [Miniscript.satisfied, Miniscript.satisfiedWith, satisfied, List.countP_cons, head, tail]

theorem leaves_invariant (typing : Typing) :
    LoweringInvariant typing fun policy m => m.leaves.Perm policy.leaves where
  key _ := .refl _
  after _ := .refl _
  older _ := .refl _
  hash _ _ := .refl _
  and first second := first.append second
  or first second picked := by
    rcases mem_orCandidates.mp (pick_mem picked) with rfl | rfl | rfl
    · exact first.append second
    · exact List.perm_append_comm.trans (first.append second)
    · exact first.append second
  thresh {_ _ _ _ items scripts} first picked others := by
    have head := (Alike.of_first picked).leaves
    have tail : (scripts.flatMap Miniscript.leaves).Perm (items.flatMap leaves) :=
      List.Forall₂.flatMap_perm <| others.imp <| by
        rintro item script ⟨x, inner, candidate⟩
        exact (Alike.of_item candidate).leaves ▸ inner
    simpa [Miniscript.leaves, leaves, head] using first.append tail

theorem thresholds_invariant (typing : Typing) :
    LoweringInvariant typing fun policy m => m.thresholds.Perm policy.thresholds where
  key _ := .refl _
  after _ := .refl _
  older _ := .refl _
  hash _ _ := .refl _
  and first second := first.append second
  or first second picked := by
    rcases mem_orCandidates.mp (pick_mem picked) with rfl | rfl | rfl
    · exact first.append second
    · exact List.perm_append_comm.trans (first.append second)
    · exact first.append second
  thresh {_ _ _ _ items scripts} first picked others := by
    have count := others.length_eq
    have head := (Alike.of_first picked).thresholds
    have tail : (scripts.flatMap Miniscript.thresholds).Perm (items.flatMap thresholds) :=
      List.Forall₂.flatMap_perm <| others.imp <| by
        rintro item script ⟨x, inner, candidate⟩
        exact (Alike.of_item candidate).thresholds ▸ inner
    simpa [Miniscript.thresholds, thresholds, head, count] using first.append tail

section Lowered

variable {typing : Typing} {policy : Policy} {m : Miniscript}

theorem satisfied_lowered (lowered : policy.lowerBy typing = .ok m) (env : Environment) :
    m.satisfied env = policy.satisfied env :=
  (satisfied_invariant typing env).holds lowered

theorem leaves_lowered (lowered : policy.lowerBy typing = .ok m) : m.leaves.Perm policy.leaves :=
  (leaves_invariant typing).holds lowered

theorem thresholds_lowered (lowered : policy.lowerBy typing = .ok m) :
    m.thresholds.Perm policy.thresholds :=
  (thresholds_invariant typing).holds lowered

theorem keys_lowered (lowered : policy.lowerBy typing = .ok m) : m.keys.Perm policy.keys := by
  rw [Miniscript.keys_eq_leaves, keys_eq_leaves]
  exact (leaves_lowered lowered).filterMap _

end Lowered

end Policy

end SpendPolicy
