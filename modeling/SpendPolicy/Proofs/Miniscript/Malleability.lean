import SpendPolicy.Lowering
import SpendPolicy.Proofs.Miniscript.Signatures
import SpendPolicy.Proofs.Miniscript.Subscripts

set_option autoImplicit false

namespace SpendPolicy

-- The analysis departs from these rules in `0`, in the forced of `and_v`, in the forced and the
-- expressive of `or_d`, and in the nonmalleable of `or_i`.
namespace Reference

def zero : Spending :=
  ⟨true, false, true, true⟩

def key : Spending :=
  ⟨true, false, true, true⟩

def timelock : Spending :=
  ⟨false, true, false, true⟩

def hash : Spending :=
  ⟨false, false, false, true⟩

def andV (x y : Spending) : Spending :=
  { needsSignature := x.needsSignature || y.needsSignature
    forced := x.needsSignature || y.forced
    expressive := false
    nonmalleable := x.nonmalleable && y.nonmalleable }

def orD (x z : Spending) : Spending :=
  { needsSignature := x.needsSignature && z.needsSignature
    forced := z.forced
    expressive := z.expressive
    nonmalleable := x.nonmalleable && z.nonmalleable && x.expressive
      && (x.needsSignature || z.needsSignature) }

def orI (x z : Spending) : Spending :=
  { needsSignature := x.needsSignature && z.needsSignature
    forced := x.forced && z.forced
    expressive := (x.expressive && z.forced) || (x.forced && z.expressive)
    nonmalleable := x.nonmalleable && z.nonmalleable && (x.needsSignature || z.needsSignature) }

def thresh (required : Nat) (items : List Spending) : Spending :=
  let signed := items.countP Spending.needsSignature
  { needsSignature := decide (items.length < signed + required)
    forced := false
    expressive := items.all fun x => x.expressive && x.needsSignature
    nonmalleable := items.all (fun x => x.expressive && x.nonmalleable)
      && decide (items.length ≤ signed + required) }

def wrap (wrapper : Wrapper) (x : Spending) : Spending :=
  match wrapper with
  | .v => ⟨x.needsSignature, true, false, x.nonmalleable⟩
  | .s | .a | .n => x
  | .l => orI zero x
  | .u => orI x zero

end Reference

namespace Miniscript

open Environment (keyless)

mutual

def reference : Miniscript → Spending
  | .zero => Reference.zero
  | .key _ => Reference.key
  | .after _ | .older _ => Reference.timelock
  | .hash _ _ => Reference.hash
  | .andV left right => Reference.andV left.reference right.reference
  | .orD left right => Reference.orD left.reference right.reference
  | .orI left right => Reference.orI left.reference right.reference
  | .thresh required items => Reference.thresh required (references items)
  | .wrap wrapper argument => Reference.wrap wrapper argument.reference

def references : List Miniscript → List Spending
  | [] => []
  | item :: items => item.reference :: references items

end

@[simp] theorem references_eq_map (items : List Miniscript) :
    references items = items.map reference := by
  induction items with
  | nil => simp [references]
  | cons item items ih => simp [references, ih]

theorem signatureRules_reference : SignatureRules false fun m => m.reference.needsSignature where
  zero := rfl
  key _ := rfl
  after _ := rfl
  older _ := rfl
  hash _ _ := rfl
  andV _ _ := rfl
  orD _ _ := rfl
  orI _ _ := rfl
  thresh required items := by
    simp [reference, Reference.thresh, List.countP_map, Function.comp_def]
  same wrapper member x := by
    simp only [List.mem_cons, List.not_mem_nil, or_false] at member
    rcases member with rfl | rfl | rfl | rfl <;> rfl
  left _ := rfl
  right _ := rfl

theorem reference_needsSignature_eq (m : Miniscript) :
    m.reference.needsSignature = !m.satisfied keyless :=
  signatureRules_reference.needs_eq m

theorem reference_needsSignature {m : Miniscript} (needs : m.spending.needsSignature = true) :
    m.reference.needsSignature = true := by
  rw [reference_needsSignature_eq, not_satisfied_of_needsSignature needs, Bool.not_false]

/-- What keeps the shortcuts of the analysis harmless: one branch of an `or_i` is not spent without a
signature, and what stands behind an `l:` wrapper is forced. -/
def IsGuarded : Miniscript → Prop
  | .orI x y => x.satisfied keyless = false ∨ y.satisfied keyless = false
  | .wrap .l x => x.reference.forced = true
  | _ => True

def Guarded (m : Miniscript) : Prop :=
  ∀ sub ∈ m.subscripts, sub.IsGuarded

section Guarded

variable {x y : Miniscript}

theorem guarded_andV : (andV x y).Guarded ↔ x.Guarded ∧ y.Guarded :=
  everywhere_andV.trans (iff_of_eq (true_and _))

theorem guarded_orD : (orD x y).Guarded ↔ x.Guarded ∧ y.Guarded :=
  everywhere_orD.trans (iff_of_eq (true_and _))

theorem guarded_orI : (orI x y).Guarded ↔
    (x.satisfied keyless = false ∨ y.satisfied keyless = false) ∧ x.Guarded ∧ y.Guarded :=
  everywhere_orI

theorem guarded_thresh {required : Nat} {items : List Miniscript} :
    (thresh required items).Guarded ↔ ∀ item ∈ items, item.Guarded :=
  everywhere_thresh.trans (iff_of_eq (true_and _))

theorem guarded_wrap {wrapper : Wrapper} (other : wrapper ≠ .l) :
    (wrap wrapper x).Guarded ↔ x.Guarded := by
  apply everywhere_wrap.trans
  cases wrapper with
  | l => exact absurd rfl other
  | v | s | a | n | u => exact iff_of_eq (true_and _)

theorem guarded_optional :
    (Lowering.optional x).Guarded ↔ x.reference.forced = true ∧ x.Guarded := by
  apply everywhere_wrap.trans
  exact and_congr Iff.rfl (guarded_wrap (by decide))

end Guarded

end Miniscript

end SpendPolicy
