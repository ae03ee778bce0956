import SpendPolicy.Proofs.Lowering.Outline
import SpendPolicy.Proofs.Miniscript.Renaming
import SpendPolicy.Proofs.Policy.Renaming

set_option autoImplicit false

namespace SpendPolicy

open Lowering Miniscript

variable {f : Text → Text}

section Pick

variable {fits : Miniscript → Node → Bool} {candidates : List Miniscript} {m : Miniscript}

def KeyBlind (fits : Miniscript → Node → Bool) : Prop :=
  ∀ (f : Text → Text) m node, fits (m.rename f) node = fits m node

theorem keyBlind_isNonmalleable : KeyBlind isNonmalleable := by
  intro f m node
  simp only [isNonmalleable, spending_rename]

theorem keyBlind_isDissatisfiableUnit (expected : BaseType) :
    KeyBlind (isDissatisfiableUnit expected) :=
  fun _ _ _ => rfl

theorem isTyped_rename (m : Miniscript) : isTyped id (m.rename f) = isTyped id m := by
  simp only [isTyped, id, typeBy_rename]

theorem isFitting_rename (only : TypeOnly fits) (blind : KeyBlind fits) (m : Miniscript) :
    isFitting id fits (m.rename f) = isFitting id fits m := by
  simp only [isFitting, outline, id, typeBy_rename]
  cases m.typeBy .byCount with
  | none => rfl
  | some type => exact (blind f m _).trans (only m _ _ rfl)

theorem pick_rename (only : TypeOnly fits) (blind : KeyBlind fits)
    (picked : pick outline fits candidates = .ok m) :
    pick outline fits (candidates.map (rename f)) = .ok (m.rename f) := by
  have fitting : isFitting id fits ∘ rename f = isFitting id fits :=
    funext (isFitting_rename only blind)
  have typed : isTyped id ∘ rename f = isTyped id := funext isTyped_rename
  simp only [pick, choose, chooseFrom_outline, Option.none_or] at picked ⊢
  rw [List.find?_map, List.find?_map, fitting, typed, ← Option.map_or]
  cases found : (candidates.find? (isFitting id fits)).or (candidates.find? (isTyped id)) with
  | none => simp [found] at picked
  | some chosen =>
    simp only [found, Except.ok.injEq] at picked
    rw [← picked]
    rfl

theorem pickOr_rename {x y : Miniscript}
    (picked : pick outline isNonmalleable (orCandidates x y) = .ok m) :
    pick outline isNonmalleable (orCandidates (x.rename f) (y.rename f)) = .ok (m.rename f) :=
  pick_rename typeOnly_isNonmalleable keyBlind_isNonmalleable picked

theorem picksFirst_rename {x first : Miniscript} (picked : PicksFirst outline x first) :
    PicksFirst outline (x.rename f) (first.rename f) :=
  pick_rename (typeOnly_isDissatisfiableUnit .base) (keyBlind_isDissatisfiableUnit .base) picked

theorem picksItem_rename {x item : Miniscript} (picked : PicksItem outline x item) :
    PicksItem outline (x.rename f) (item.rename f) :=
  pick_rename (typeOnly_isDissatisfiableUnit .wrapped) (keyBlind_isDissatisfiableUnit .wrapped) picked

end Pick

namespace Policy

theorem exists_items_rename {items : List Policy} {scripts : List Miniscript}
    (each : List.Forall₂ (fun item script => ∃ x,
      (item.rename f).lowerBy outline = .ok (x.rename f) ∧ PicksItem outline x script) items scripts) :
    ∃ xs, lowerAllBy outline (renameAll f items) = .ok xs ∧
      pickItems outline xs = .ok (Miniscript.renameAll f scripts) := by
  induction each with
  | nil => exact ⟨[], rfl, rfl⟩
  | cons here _ ih =>
    obtain ⟨x, lowered, picked⟩ := here
    obtain ⟨xs, all, items⟩ := ih
    refine ⟨x.rename f :: xs, ?_, ?_⟩
    · rw [renameAll, lowerAllBy_cons, lowered, all]
      rfl
    · rw [pickItems_cons, picksItem_rename picked, items]
      rfl

theorem lowerBy_rename {policy : Policy} {m : Miniscript} (lowered : policy.lowerBy outline = .ok m) :
    (policy.rename f).lowerBy outline = .ok (m.rename f) := by
  have invariant : LoweringInvariant outline fun policy m =>
      (policy.rename f).lowerBy outline = .ok (m.rename f) :=
    { key := fun _ => rfl
      after := fun _ => rfl
      older := fun _ => rfl
      hash := fun _ _ => rfl
      and := by
        intro left right x y first second
        rw [rename, lowerBy_and, first, second]
        rfl
      or := by
        intro left right x y m first second picked
        rw [rename, lowerBy_or, first, second]
        exact pickOr_rename picked
      thresh := by
        intro required first x m items scripts head picked each
        obtain ⟨xs, all, picks⟩ := exists_items_rename each
        rw [rename, lowerBy_thresh, renameAll, lowerAllBy_cons, head, all]
        change Lowering.thresh outline required (x.rename f :: xs) = _
        rw [thresh_cons, picksFirst_rename picked, picks]
        rfl }
  exact invariant.holds lowered

theorem Lowers.rename {policy : Policy} {m : Miniscript} (lowers : policy.Lowers m)
    (wellFormed : (policy.rename f).WellFormed) : (policy.rename f).Lowers (m.rename f) := by
  obtain ⟨other, renamed⟩ := exists_lowers wellFormed
  have same := renamed.follows.types.symm.trans (lowerBy_rename lowers.follows.types)
  cases same
  exact renamed

end Policy

end SpendPolicy
