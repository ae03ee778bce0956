import SpendPolicy.Proofs.Lowering.Quorums
import SpendPolicy.Proofs.Policy.Spending

set_option autoImplicit false

namespace SpendPolicy

open Lowering Miniscript

section Members

variable {x m item : Miniscript}

theorem isFitting_iff_suits {expected : BaseType} :
    isFitting id (isDissatisfiableUnit expected) x = true ↔ x.Suits expected := by
  simp only [isFitting_iff, outline_eq_ok_iff, isDissatisfiableUnit, Suits, id]
  constructor
  · rintro ⟨_, ⟨type, typed, rfl⟩, fits⟩
    exact ⟨type, typed, fits⟩
  · rintro ⟨type, typed, fits⟩
    exact ⟨_, ⟨type, typed, rfl⟩, fits⟩

theorem isFitting_wrap_a (x : Miniscript) :
    isFitting id (isDissatisfiableUnit .wrapped) (wrap .a x) =
      isFitting id (isDissatisfiableUnit .base) x := by
  rw [Bool.eq_iff_iff, isFitting_iff_suits, isFitting_iff_suits]
  cases typed : x.typeBy .byCount with
  | none => simp [Suits, typeBy, typed]
  | some type =>
    by_cases base : type.base = .base <;>
      simp [Suits, typeBy, typed, ScriptType.wrap?, ScriptType.isDissatisfiableUnit, base]

theorem suits_of_wrap_s (suits : (wrap .s x).Suits .wrapped) : x.Suits .base := by
  obtain ⟨type, typed, fits⟩ := suits
  simp only [typeBy, Option.bind_eq_some_iff, ScriptType.wrap?, Option.ite_none_right_eq_some,
    Option.some.injEq] at typed
  obtain ⟨inner, shown, ⟨base, _⟩, rfl⟩ := typed
  refine ⟨inner, shown, ?_⟩
  simpa [ScriptType.isDissatisfiableUnit, base] using fits

namespace Lowering

def member (x : Miniscript) : Miniscript :=
  if isFitting id (isDissatisfiableUnit .base) x then x else optional x

inductive IsMember (x : Miniscript) : Miniscript → Prop
  | first : IsMember x (member x)
  | swapped : IsMember x (.wrap .s (member x))
  | aside : IsMember x (.wrap .a (member x))

theorem member_of_suits (suits : x.Suits .base) : member x = x :=
  if_pos (isFitting_iff_suits.mpr suits)

theorem member_of_not_suits (unsuited : ¬ x.Suits .base) : member x = optional x :=
  if_neg (unsuited ∘ isFitting_iff_suits.mp)

theorem member_of_picksFirst (base : x.IsBase) (picked : PicksFirst outline x m) : IsMember x m := by
  have fits : isFitting id (isDissatisfiableUnit .base) (optional x) = true :=
    isFitting_iff_suits.mpr (suits_optional base)
  have found : (firstCandidates x).find? (isFitting id (isDissatisfiableUnit .base)) =
      some (member x) := by
    unfold member
    cases alone : isFitting id (isDissatisfiableUnit .base) x <;>
      simp [firstCandidates, alone, fits]
  simp only [PicksFirst, pick, choose, chooseFrom_outline, found, Option.some_or,
    Except.ok.injEq] at picked
  exact picked ▸ .first

theorem suits_of_picksFirst (base : x.IsBase) (picked : PicksFirst outline x m) : m.Suits .base := by
  obtain ⟨_, _, found, suits⟩ := exists_pick_first base
  cases picked.symm.trans found
  exact suits

theorem suits_of_picksItem (base : x.IsBase) (picked : PicksItem outline x m) : m.Suits .wrapped := by
  obtain ⟨_, _, found, suits⟩ := exists_pick_item base
  cases picked.symm.trans found
  exact suits

theorem find?_itemCandidates (base : x.IsBase) :
    (itemCandidates x).find? (isFitting id (isDissatisfiableUnit .wrapped)) =
      [wrap .s (member x), wrap .a (member x)].find?
        (isFitting id (isDissatisfiableUnit .wrapped)) := by
  have fits : isFitting id (isDissatisfiableUnit .base) (optional x) = true :=
    isFitting_iff_suits.mpr (suits_optional base)
  by_cases suits : x.Suits .base
  · have fit := isFitting_iff_suits.mpr suits
    simp [member_of_suits suits, itemCandidates, List.find?_cons, isFitting_wrap_a, fit]
  · have unfit : isFitting id (isDissatisfiableUnit .base) x = false :=
      Bool.eq_false_iff.mpr (suits ∘ isFitting_iff_suits.mp)
    have unswapped : isFitting id (isDissatisfiableUnit .wrapped) (.wrap .s x) = false :=
      Bool.eq_false_iff.mpr (suits ∘ suits_of_wrap_s ∘ isFitting_iff_suits.mp)
    simp [member_of_not_suits suits, itemCandidates, List.find?_cons, isFitting_wrap_a, unfit,
      unswapped, fits]

theorem suits_member (base : x.IsBase) : (member x).Suits .base := by
  by_cases suits : x.Suits .base
  · rwa [member_of_suits suits]
  · rw [member_of_not_suits suits]
    exact suits_optional base

theorem member_of_picksItem (base : x.IsBase) (picked : PicksItem outline x m) : IsMember x m := by
  have fits : isFitting id (isDissatisfiableUnit .wrapped) (wrap .a (member x)) = true := by
    rw [isFitting_wrap_a]
    exact isFitting_iff_suits.mpr (suits_member base)
  simp only [PicksItem, pick, choose, chooseFrom_outline, find?_itemCandidates base] at picked
  cases swaps : isFitting id (isDissatisfiableUnit .wrapped) (wrap .s (member x)) with
  | true =>
    simp only [List.find?_cons, swaps, Option.some_or, Except.ok.injEq] at picked
    exact picked ▸ .swapped
  | false =>
    simp only [List.find?_cons, swaps, fits, Option.some_or, Except.ok.injEq] at picked
    exact picked ▸ .aside

namespace IsMember

theorem spending (is : IsMember x item) : item.spending = (member x).spending := by
  cases is <;> rfl

theorem witnesses (is : IsMember x item) : item.witnesses = (member x).witnesses := by
  cases is <;> rfl

theorem hidesTimelocks (is : IsMember x item) :
    item.hidesTimelocks = (member x).hidesTimelocks := by
  cases is <;> rfl

theorem determined (is : IsMember x item) : item.Determined ↔ (member x).Determined := by
  cases is <;> simp

end IsMember

theorem member_of_signed (signed : (member x).spending.needsSignature = true) : member x = x := by
  by_cases suits : x.Suits .base
  · exact member_of_suits suits
  · rw [member_of_not_suits suits] at signed
    cases signed

end Lowering

end Members

namespace Node

variable {a node : Node}

theorem shows_wrap {wrapper : Wrapper} (plain : wrapper = .s ∨ wrapper = .a)
    (timeless : a.Shows .none true) (typed : wrap wrapper a = .ok node) : node.Shows .none true := by
  have known : (a.timelocks.getD .none) = .none := timeless.1
  rcases plain with rfl | rfl
  · obtain ⟨_, rfl⟩ := require_eq_ok_iff.mp typed
    exact ⟨known, by simp [retyped, mixesTimelocks, known]; rfl⟩
  · obtain ⟨_, rfl⟩ := require_eq_ok_iff.mp typed
    exact ⟨known, by simp [retyped, mixesTimelocks, known]; rfl⟩

end Node

namespace Miniscript

structure Dissatisfiable (m : Miniscript) : Prop where
  suits : m.Suits .base
  signature : m.spending.needsSignature = true
  witness : m.witnesses.dissatisfying = true
  timeless : ∀ node, m.node = .ok node → node.Shows .none true

structure Coherent (m : Miniscript) : Prop where
  base : m.IsBase
  expressive : m.spending.expressive = true → m.Dissatisfiable
  forced : m.spending.forced = true → ∀ type, m.typeBy .byCount = some type → type.d = false
  hidden : m.hidesTimelocks = true → m.Suits .base

section Coherent

variable {x y m item : Miniscript}

theorem coherent_key (name : Text) : (key name).Coherent where
  base := ⟨_, rfl, rfl⟩
  expressive _ :=
    { suits := ⟨_, rfl, rfl⟩
      signature := rfl
      witness := rfl
      timeless := by
        rintro node ⟨⟩
        exact ⟨rfl, rfl⟩ }
  forced := nofun
  hidden := nofun

theorem coherent_timelock (typed : m.typeBy .byCount = some .timelock)
    (spending : m.spending = .timelock) (shown : m.hidesTimelocks = false) : m.Coherent where
  base := ⟨_, typed, rfl⟩
  expressive expressive := by
    rw [spending] at expressive
    cases expressive
  forced _ type same := by
    cases typed.symm.trans same
    rfl
  hidden hides := by
    rw [shown] at hides
    cases hides

theorem coherent_hash {algorithm : HashAlgorithm} {digest : Bytes}
    (size : digest.length = algorithm.digestSize) : (hash algorithm digest).Coherent where
  base := ⟨_, if_pos size, rfl⟩
  expressive := nofun
  forced := nofun
  hidden := nofun

theorem coherent_andV (first : x.Coherent) (second : y.Coherent) :
    (andV (verified x) y).Coherent where
  base := Policy.isBase_and first.base second.base
  expressive := nofun
  forced _ type typed := by
    simp only [typeBy, Option.bind_eq_some_iff, ScriptType.andV?, Option.ite_none_right_eq_some,
      Option.some.injEq] at typed
    obtain ⟨_, _, _, _, _, rfl⟩ := typed
    rfl
  hidden := nofun

theorem exists_type_orD {type : ScriptType} (typed : (orD x y).typeBy .byCount = some type) :
    x.Suits .base ∧ ∃ b, y.typeBy .byCount = some b ∧ type.base = .base ∧ type.u = b.u ∧
      type.d = b.d := by
  simp only [typeBy, Option.bind_eq_some_iff, ScriptType.orD?, Option.ite_none_right_eq_some,
    Option.some.injEq] at typed
  obtain ⟨a, first, b, second, ⟨fits, _⟩, rfl⟩ := typed
  exact ⟨⟨a, first, fits⟩, b, second, rfl, rfl, rfl⟩

theorem typed_orD (first : x.Suits .base) (second : y.IsBase) : (orD x y).Typed .byCount := by
  obtain ⟨a, left, fits⟩ := first
  obtain ⟨b, right, base⟩ := second
  simp [Typed, typeBy, left, right, ScriptType.orD?, fits, base]

theorem dissatisfiable_orD (typed : (orD x y).Typed .byCount) (first : x.Dissatisfiable)
    (second : y.Dissatisfiable) : (orD x y).Dissatisfiable where
  suits := by
    obtain ⟨type, typed⟩ := typed
    obtain ⟨_, b, right, base, u, d⟩ := exists_type_orD typed
    obtain ⟨_, same, fits⟩ := second.suits
    cases right.symm.trans same
    refine ⟨type, typed, ?_⟩
    simp only [ScriptType.isDissatisfiableUnit, Bool.and_eq_true, beq_iff_eq] at fits ⊢
    exact ⟨⟨base, d.trans fits.1.2⟩, u.trans fits.2⟩
  signature := Bool.and_eq_true_iff.mpr ⟨first.signature, second.signature⟩
  witness := Bool.and_eq_true_iff.mpr ⟨first.witness, second.witness⟩
  timeless node built := by
    obtain ⟨a, b, left, right, both⟩ := exists_of_node_orD built
    exact Node.shows_or (first.timeless a left) (second.timeless b right) (.inl both)

theorem coherent_orD (typed : (orD x y).Typed .byCount) (first : x.Coherent) (second : y.Coherent) :
    (orD x y).Coherent where
  base := by
    obtain ⟨type, typed⟩ := typed
    exact ⟨type, typed, isBase_of_orD typed⟩
  expressive expressive := by
    obtain ⟨left, right⟩ := Bool.and_eq_true_iff.mp expressive
    exact dissatisfiable_orD typed (first.expressive left) (second.expressive right)
  forced forced type typed := by
    obtain ⟨_, right⟩ := Bool.and_eq_true_iff.mp forced
    obtain ⟨_, b, shown, _, _, d⟩ := exists_type_orD typed
    exact d.trans (second.forced right b shown)
  hidden := nofun

theorem coherent_orI (first : x.Coherent) (second : y.Coherent)
    (dull : (orI x y).spending.expressive = false) : (orI x y).Coherent where
  base := isBase_orI first.base second.base
  expressive expressive := by
    rw [dull] at expressive
    cases expressive
  forced forced type typed := by
    obtain ⟨left, right⟩ := Bool.and_eq_true_iff.mp forced
    simp only [typeBy, Option.bind_eq_some_iff, ScriptType.orI?, Option.ite_none_right_eq_some,
      Option.some.injEq] at typed
    obtain ⟨a, leftType, b, rightType, _, rfl⟩ := typed
    exact Bool.or_eq_false_iff.mpr ⟨first.forced left a leftType, second.forced right b rightType⟩
  hidden := nofun

section Or

variable (first : x.Coherent) (second : y.Coherent)

include first second

theorem fits_orD_of_expressive (expressive : x.spending.expressive = true) :
    (orD x y).Typed .byCount ∧ (orD x y).spending.nonmalleable =
      (x.spending.nonmalleable && y.spending.nonmalleable) := by
  have strong := first.expressive expressive
  refine ⟨typed_orD strong.suits second.base, ?_⟩
  simp [spending, Spending.orD, strong.signature, expressive]

theorem dull_of_blocked (blocked : ∀ node, (orD x y).outline = .ok node →
      (x.spending.nonmalleable && y.spending.nonmalleable) = true ∧
        (orD x y).spending.nonmalleable = false) : x.spending.expressive = false := by
  by_contra expressive
  obtain ⟨⟨type, typed⟩, same⟩ :=
    fits_orD_of_expressive first second (Bool.not_eq_false _ ▸ expressive)
  obtain ⟨whole, not⟩ := blocked _ (outline_eq_ok_iff.mpr ⟨type, typed, rfl⟩)
  rw [same, whole] at not
  cases not

theorem dull_of_pick_orI
    (picked : pick outline isNonmalleable (orCandidates x y) = .ok (orI x y)) :
    x.spending.expressive = false ∧ y.spending.expressive = false := by
  have blocked := blocked_of_picked_orI picked
  refine ⟨dull_of_blocked first second (blocked (orD x y) (by simp)),
    dull_of_blocked second first fun node typed => ?_⟩
  rw [Bool.and_comm]
  exact blocked (orD y x) (by simp) node typed

variable (picked : pick outline isNonmalleable (orCandidates x y) = .ok m)

include picked

theorem typed_of_pick_or : m.Typed .byCount := by
  obtain ⟨chosen, _, found, type, typed, _⟩ := exists_pick_or first.base second.base
  cases picked.symm.trans found
  exact ⟨type, typed⟩

theorem nonmalleable_of_pick_or :
    m.spending.nonmalleable = (x.spending.nonmalleable && y.spending.nonmalleable) := by
  have atMost : m.spending.nonmalleable = true →
      (x.spending.nonmalleable && y.spending.nonmalleable) = true := by
    intro nonmalleable
    rcases mem_orCandidates.mp (pick_mem picked) with rfl | rfl | rfl
    · simp only [spending, Spending.orD, Bool.and_eq_true] at nonmalleable ⊢
      exact nonmalleable.1.1
    · simp only [spending, Spending.orD, Bool.and_eq_true] at nonmalleable ⊢
      exact nonmalleable.1.1.symm
    · exact nonmalleable
  rw [Bool.eq_iff_iff]
  exact ⟨atMost, Policy.nonmalleable_of_picked first.base second.base picked⟩

theorem spending_of_pick_or : m.spending = x.spending.either y.spending := by
  apply Spending.ext
  · exact Policy.spending_orCandidate (pick_mem picked)
  · rcases mem_orCandidates.mp (pick_mem picked) with rfl | rfl | rfl
    · rfl
    · exact Bool.and_comm ..
    · rfl
  · rcases mem_orCandidates.mp (pick_mem picked) with rfl | rfl | rfl
    · rfl
    · exact Bool.and_comm ..
    · obtain ⟨left, right⟩ := dull_of_pick_orI first second picked
      simp [spending, Spending.orI, Spending.either, left, right]
  · exact nonmalleable_of_pick_or first second picked

theorem coherent_or : m.Coherent := by
  have typed := typed_of_pick_or first second picked
  rcases mem_orCandidates.mp (pick_mem picked) with rfl | rfl | rfl
  · exact coherent_orD typed first second
  · exact coherent_orD typed second first
  · obtain ⟨left, right⟩ := dull_of_pick_orI first second picked
    exact coherent_orI first second (by simp [spending, Spending.orI, left, right])

end Or

section Thresh

variable {required : Nat} {items : List Miniscript}

def Members (items : List Miniscript) : Prop :=
  ∀ item ∈ items, ∃ x, x.Coherent ∧ IsMember x item

theorem witness_of_expressive (coherent : x.Coherent) (is : IsMember x item)
    (expressive : item.spending.expressive = true) : item.witnesses.dissatisfying = true := by
  rw [is.spending] at expressive
  rw [is.witnesses]
  by_cases suits : x.Suits .base
  · rw [member_of_suits suits] at expressive ⊢
    exact (coherent.expressive expressive).witness
  · rw [member_of_not_suits suits]
    rfl

theorem timeless_of_signed (coherent : x.Coherent) (is : IsMember x item)
    (expressive : item.spending.expressive = true)
    (signed : item.spending.needsSignature = true) {node : Node} (typed : item.node = .ok node) :
    node.Shows .none true := by
  rw [is.spending] at expressive signed
  have same := member_of_signed signed
  rw [same] at expressive
  have alone := (coherent.expressive expressive).timeless
  cases is with
  | first =>
    rw [same] at typed
    exact alone node typed
  | swapped =>
    obtain ⟨a, inner, wrapped⟩ := exists_of_node_wrap typed
    rw [same] at inner
    exact Node.shows_wrap (.inl rfl) (alone a inner) wrapped
  | aside =>
    obtain ⟨a, inner, wrapped⟩ := exists_of_node_wrap typed
    rw [same] at inner
    exact Node.shows_wrap (.inr rfl) (alone a inner) wrapped

theorem shows_of_signed (members : Members items)
    (both : ∀ item ∈ items, item.spending.expressive = true ∧ item.spending.needsSignature = true)
    {node : Node} (typed : (thresh required items).node = .ok node) : node.Shows .none true := by
  obtain ⟨nodes, pairs, whole⟩ := exists_nodes_of_thresh typed
  refine Node.shows_thresh (fun a member => ?_) whole
  obtain ⟨item, inside, built⟩ := pairs.exists_left_of_mem member
  obtain ⟨x, coherent, is⟩ := members item inside
  exact timeless_of_signed coherent is (both item inside).1 (both item inside).2 built

theorem suits_thresh (base : (thresh required items).IsBase) :
    (thresh required items).Suits .base := by
  obtain ⟨type, typed, _⟩ := base
  simp only [typeBy, Option.bind_eq_some_iff, Option.ite_none_right_eq_some,
    Option.some.injEq] at typed
  obtain ⟨types, each, fits, rfl⟩ := typed
  exact ⟨ThreshRule.byCount types, by simp [typeBy, each, fits], rfl⟩

theorem coherent_thresh (positive : 1 ≤ required) (base : (thresh required items).IsBase)
    (members : Members items) : (thresh required items).Coherent where
  base := base
  expressive expressive := by
    have both := spending_thresh_expressive.mp expressive
    refine ⟨suits_thresh base, needsSignature_thresh positive fun item inside => (both item inside).2,
      ?_, fun node => shows_of_signed members both⟩
    simp only [witnesses, witnessesOfAll_eq_map, Witnesses.ofThresh, List.any_map,
      Bool.not_eq_true', List.any_eq_false, Function.comp_apply]
    intro item inside
    obtain ⟨x, coherent, is⟩ := members item inside
    simp [Witnesses.isCommitted, witness_of_expressive coherent is (both item inside).1]
  forced := nofun
  hidden _ := suits_thresh base

end Thresh

end Coherent

end Miniscript

end SpendPolicy
