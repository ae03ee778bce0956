import SpendPolicy.Miniscript.Spending
import SpendPolicy.Proofs.Miniscript.Meaning
import SpendPolicy.Proofs.Miniscript.Subscripts

set_option autoImplicit false

namespace SpendPolicy.Miniscript

open Environment (keyless)

/-- How the need for a signature follows from the parts of a script, `0` being spendable or not. -/
structure SignatureRules (spendable : Bool) (needs : Miniscript → Bool) : Prop where
  zero : needs .zero = !spendable
  key : ∀ name, needs (.key name) = true
  after : ∀ value, needs (.after value) = false
  older : ∀ value, needs (.older value) = false
  hash : ∀ algorithm digest, needs (.hash algorithm digest) = false
  andV : ∀ x y, needs (.andV x y) = (needs x || needs y)
  orD : ∀ x y, needs (.orD x y) = (needs x && needs y)
  orI : ∀ x y, needs (.orI x y) = (needs x && needs y)
  thresh : ∀ required items,
    needs (.thresh required items) = decide (items.length < items.countP needs + required)
  same : ∀ wrapper ∈ [Wrapper.v, .s, .a, .n], ∀ x, needs (.wrap wrapper x) = needs x
  left : ∀ x, needs (.wrap .l x) = (!spendable && needs x)
  right : ∀ x, needs (.wrap .u x) = (needs x && !spendable)

namespace SignatureRules

variable {spendable : Bool} {needs : Miniscript → Bool}

-- The rules decide the need by recursion on the script. For a threshold the items that need a
-- signature and those that are satisfied without one add up to all items.
mutual

theorem needs_eq (rules : SignatureRules spendable needs) (m : Miniscript) :
    needs m = !m.satisfiedWith spendable keyless := by
  match m with
  | .zero => exact rules.zero
  | .key name => exact rules.key name
  | .after value => exact rules.after value
  | .older value => exact rules.older value
  | .hash algorithm digest => exact rules.hash algorithm digest
  | .andV left right =>
    rw [rules.andV, rules.needs_eq left, rules.needs_eq right, satisfiedWith, Bool.not_and]
  | .orD left right =>
    rw [rules.orD, rules.needs_eq left, rules.needs_eq right, satisfiedWith, Bool.not_or]
  | .orI left right =>
    rw [rules.orI, rules.needs_eq left, rules.needs_eq right, satisfiedWith, Bool.not_or]
  | .thresh required items =>
    have count := rules.countP_needs items
    rw [rules.thresh, satisfiedWith, Bool.eq_iff_iff]
    simp only [decide_eq_true_eq, Bool.not_eq_true', decide_eq_false_iff_not]
    omega
  | .wrap wrapper argument =>
    have inner := rules.needs_eq argument
    cases wrapper with
    | v | s | a | n => exact (rules.same _ (by simp) argument).trans inner
    | l => rw [rules.left, inner, satisfiedWith, Bool.not_or]
    | u => rw [rules.right, inner, satisfiedWith, Bool.not_or]

theorem countP_needs (rules : SignatureRules spendable needs) (items : List Miniscript) :
    items.countP needs + satisfiedCount spendable keyless items = items.length := by
  match items with
  | [] => rfl
  | item :: items =>
    have head := rules.needs_eq item
    have tail := rules.countP_needs items
    rw [List.countP_cons, head, satisfiedCount, List.length_cons]
    cases item.satisfiedWith spendable keyless with
    | false =>
      simp only [Bool.not_false, if_true, Bool.false_eq_true, if_false]
      omega
    | true =>
      simp only [Bool.not_true, if_true, Bool.false_eq_true, if_false]
      omega

end

end SignatureRules

theorem signatureRules_spending : SignatureRules true fun m => m.spending.needsSignature where
  zero := rfl
  key _ := rfl
  after _ := rfl
  older _ := rfl
  hash _ _ := rfl
  andV _ _ := rfl
  orD _ _ := rfl
  orI _ _ := rfl
  thresh required items := by
    simp [spending, Spending.thresh, List.countP_map, Function.comp_def]
  same wrapper member x := by
    simp only [List.mem_cons, List.not_mem_nil, or_false] at member
    rcases member with rfl | rfl | rfl | rfl <;> rfl
  left _ := rfl
  right _ := rfl

theorem needsSignature_eq (m : Miniscript) :
    m.spending.needsSignature = !m.satisfiedWith true keyless :=
  signatureRules_spending.needs_eq m

mutual

theorem satisfiedWith_true (env : Environment) (m : Miniscript)
    (holds : m.satisfiedWith false env = true) : m.satisfiedWith true env = true := by
  match m with
  | .zero => rfl
  | .key _ | .after _ | .older _ | .hash _ _ => exact holds
  | .andV left right =>
    obtain ⟨first, second⟩ := Bool.and_eq_true_iff.mp holds
    exact Bool.and_eq_true_iff.mpr
      ⟨satisfiedWith_true env left first, satisfiedWith_true env right second⟩
  | .orD left right | .orI left right =>
    exact Bool.or_eq_true_iff.mpr ((Bool.or_eq_true_iff.mp holds).imp
      (satisfiedWith_true env left) (satisfiedWith_true env right))
  | .thresh required items =>
    have enough : required ≤ satisfiedCount false env items := of_decide_eq_true holds
    exact decide_eq_true (Nat.le_trans enough (satisfiedCount_le env items))
  | .wrap wrapper argument =>
    cases wrapper with
    | v | s | a | n => exact satisfiedWith_true env argument holds
    | l => rfl
    | u => exact Bool.or_true _

theorem satisfiedCount_le (env : Environment) (items : List Miniscript) :
    satisfiedCount false env items ≤ satisfiedCount true env items := by
  match items with
  | [] => exact Nat.le_refl 0
  | item :: items =>
    have tail := satisfiedCount_le env items
    have head := satisfiedWith_true env item
    rw [satisfiedCount, satisfiedCount]
    split
    · next holds =>
      rw [if_pos (head holds)]
      omega
    · omega

end

theorem not_satisfied_of_needsSignature {m : Miniscript}
    (needs : m.spending.needsSignature = true) : m.satisfied keyless = false := by
  rw [needsSignature_eq, Bool.not_eq_true'] at needs
  cases holds : m.satisfied keyless with
  | false => rfl
  | true => exact absurd (satisfiedWith_true keyless m holds) (by simp [needs])

def IsZeroFree : Miniscript → Prop
  | .zero | .wrap .l _ | .wrap .u _ => False
  | _ => True

def ZeroFree (m : Miniscript) : Prop :=
  m.Everywhere IsZeroFree

instance : DecidablePred IsZeroFree
  | .zero | .wrap .l _ | .wrap .u _ => .isFalse id
  | .key _ | .after _ | .older _ | .hash _ _ => .isTrue trivial
  | .andV _ _ | .orD _ _ | .orI _ _ | .thresh _ _ => .isTrue trivial
  | .wrap .v _ | .wrap .s _ | .wrap .a _ | .wrap .n _ => .isTrue trivial

instance (m : Miniscript) : Decidable m.ZeroFree :=
  inferInstanceAs (Decidable (∀ sub ∈ m.subscripts, sub.IsZeroFree))

theorem zeroFree_thresh {required : Nat} {items : List Miniscript} :
    (thresh required items).ZeroFree ↔ ∀ item ∈ items, item.ZeroFree :=
  everywhere_thresh.trans (iff_of_eq (true_and _))

mutual

theorem satisfiedWith_of_zeroFree (env : Environment) (m : Miniscript) (free : m.ZeroFree) :
    m.satisfiedWith true env = m.satisfiedWith false env := by
  match m with
  | .zero => exact free.self.elim
  | .key _ | .after _ | .older _ | .hash _ _ => rfl
  | .andV left right =>
    obtain ⟨_, first, second⟩ := everywhere_andV.mp free
    rw [satisfiedWith, satisfiedWith, satisfiedWith_of_zeroFree env left first,
      satisfiedWith_of_zeroFree env right second]
  | .orD left right =>
    obtain ⟨_, first, second⟩ := everywhere_orD.mp free
    rw [satisfiedWith, satisfiedWith, satisfiedWith_of_zeroFree env left first,
      satisfiedWith_of_zeroFree env right second]
  | .orI left right =>
    obtain ⟨_, first, second⟩ := everywhere_orI.mp free
    rw [satisfiedWith, satisfiedWith, satisfiedWith_of_zeroFree env left first,
      satisfiedWith_of_zeroFree env right second]
  | .thresh required items =>
    rw [satisfiedWith, satisfiedWith, satisfiedCount_of_zeroFree env items (zeroFree_thresh.mp free)]
  | .wrap wrapper argument =>
    obtain ⟨own, inner⟩ := everywhere_wrap.mp free
    cases wrapper with
    | v | s | a | n => exact satisfiedWith_of_zeroFree env argument inner
    | l | u => exact own.elim

theorem satisfiedCount_of_zeroFree (env : Environment) (items : List Miniscript)
    (each : ∀ item ∈ items, item.ZeroFree) :
    satisfiedCount true env items = satisfiedCount false env items := by
  match items with
  | [] => rfl
  | item :: items =>
    obtain ⟨here, later⟩ := List.forall_mem_cons.mp each
    rw [satisfiedCount, satisfiedCount, satisfiedWith_of_zeroFree env item here,
      satisfiedCount_of_zeroFree env items later]

end

theorem needsSignature_of_zeroFree {m : Miniscript} (free : m.ZeroFree) :
    m.spending.needsSignature = !m.satisfied keyless := by
  rw [needsSignature_eq, satisfiedWith_of_zeroFree keyless m free, satisfied]

end SpendPolicy.Miniscript
