import SpendPolicy.Proofs.Lowering.Meaning
import SpendPolicy.Proofs.Miniscript.Malleability
import SpendPolicy.Proofs.Miniscript.Typing

set_option autoImplicit false

namespace SpendPolicy

open Lowering
open Environment (keyless)

namespace Miniscript

structure Analysed (m : Miniscript) (node : Node) : Prop where
  base : node.type.base = .base
  expressive : m.spending.expressive = true → node.type.isDissatisfiableUnit .base = true ∧
    m.spending.needsSignature = true ∧ m.reference.expressive = true
  nonmalleable : m.spending.nonmalleable = true → (m.reference.nonmalleable = true ↔ m.Guarded)

def WellAnalysed (m : Miniscript) : Prop :=
  ∀ node, m.node = .ok node → Analysed m node

section Analysed

variable {x y : Miniscript}

theorem wellAnalysed_key (name : Text) : WellAnalysed (key name) := by
  rintro _ ⟨⟩
  refine ⟨rfl, fun _ => ⟨rfl, rfl, rfl⟩, fun _ => iff_of_true rfl ?_⟩
  simp [Guarded, subscripts, IsGuarded]

theorem wellAnalysed_leaf {m : Miniscript} {condition : Bool} {node : Node}
    (typed : m.node = Node.require condition node) (base : node.type.base = .base)
    (dull : m.spending.expressive = false) (sound : m.reference.nonmalleable = true)
    (alone : m.Guarded) : WellAnalysed m := by
  intro other same
  obtain ⟨_, rfl⟩ := Node.require_eq_ok_iff.mp (typed.symm.trans same)
  exact ⟨base, fun expressive => by simp [dull] at expressive, fun _ => iff_of_true sound alone⟩

theorem wellAnalysed_andV (left : WellAnalysed x) (right : WellAnalysed y) :
    WellAnalysed (andV (verified x) y) := by
  intro node typed
  obtain ⟨a, b, first, second, built⟩ := exists_of_node_andV typed
  obtain ⟨inner, script, _⟩ := exists_of_node_wrap first
  obtain ⟨_, rfl⟩ := Node.require_eq_ok_iff.mp built
  have here := left inner script
  have there := right b second
  refine ⟨there.base, nofun, fun nonmalleable => ?_⟩
  obtain ⟨first, second⟩ := Bool.and_eq_true_iff.mp nonmalleable
  rw [guarded_andV, verified, guarded_wrap (by decide), ← here.nonmalleable first,
    ← there.nonmalleable second]
  exact Bool.and_eq_true_iff

theorem wellAnalysed_orD (left : WellAnalysed x) (right : WellAnalysed y) :
    WellAnalysed (orD x y) := by
  intro node typed
  obtain ⟨a, b, first, second, built⟩ := exists_of_node_orD typed
  obtain ⟨fits, rfl⟩ := Node.require_eq_ok_iff.mp built
  have here := left a first
  have there := right b second
  refine ⟨rfl, fun expressive => ?_, fun nonmalleable => ?_⟩
  · obtain ⟨ex, ey⟩ := Bool.and_eq_true_iff.mp expressive
    obtain ⟨_, sx, _⟩ := here.expressive ex
    obtain ⟨unit, sy, forth⟩ := there.expressive ey
    refine ⟨?_, Bool.and_eq_true_iff.mpr ⟨sx, sy⟩, forth⟩
    simp only [ScriptType.isDissatisfiableUnit, there.base] at unit ⊢
    exact unit
  · have parts : (x.spending.nonmalleable && y.spending.nonmalleable &&
        (x.spending.needsSignature || y.spending.needsSignature) && x.spending.expressive) = true :=
      nonmalleable
    simp only [Bool.and_eq_true, Bool.or_eq_true] at parts
    obtain ⟨⟨⟨mx, my⟩, signed⟩, ex⟩ := parts
    have refSigned : (x.reference.needsSignature || y.reference.needsSignature) = true :=
      Bool.or_eq_true_iff.mpr (signed.imp reference_needsSignature reference_needsSignature)
    have refExpressive := (here.expressive ex).2.2
    -- With the left part expressive and a signature in one of them, the reference asks no more
    -- than that both are nonmalleable.
    rw [guarded_orD, ← here.nonmalleable mx, ← there.nonmalleable my]
    change (_ && _ && x.reference.expressive && (x.reference.needsSignature || _)) = true ↔ _
    rw [refExpressive, refSigned, Bool.and_true, Bool.and_true, Bool.and_eq_true]

theorem blocked_of_picked_orI {typing : Typing}
    (picked : pick typing isNonmalleable (orCandidates x y) = .ok (orI x y)) :
    ∀ candidate ∈ [orD x y, orD y x], ∀ node, typing candidate = .ok node →
      (orI x y).spending.nonmalleable = true ∧ candidate.spending.nonmalleable = false := by
  obtain ⟨_, _, earlier, later, split, choice⟩ := pick_spec picked
  -- The last of the three candidates was picked, so the two before it were passed over.
  have before : earlier = [orD x y, orD y x] := by
    match earlier with
    | [] => simp [orCandidates] at split
    | [_] => simp [orCandidates] at split
    | [_, _] =>
      simp only [orCandidates, List.cons_append, List.nil_append, List.cons.injEq] at split
      rw [split.1, split.2.1]
    | _ :: _ :: _ :: _ => simp [orCandidates] at split
  intro candidate member node typed
  rw [← before] at member
  rcases choice with ⟨fits, none⟩ | ⟨_, untyped⟩
  · exact ⟨fits, none candidate member node typed⟩
  · have requirement := untyped candidate member
    simp [typed] at requirement

theorem nonmalleable_of_pick {typing : Typing} {m : Miniscript}
    (picked : pick typing isNonmalleable (orCandidates x y) = .ok m)
    (built : ∃ node, typing (orI x y) = .ok node)
    (both : (x.spending.nonmalleable && y.spending.nonmalleable) = true) :
    m.spending.nonmalleable = true := by
  obtain ⟨node, typed⟩ := built
  obtain ⟨_, _, fits⟩ := fits_of_pick picked ⟨orI x y, by simp [orCandidates], node, typed, both⟩
  exact fits

theorem orD_of_expressive {a b : Node} (here : Analysed x a) (there : Analysed y b)
    (first : x.node = .ok a) (second : y.node = .ok b) (ex : x.spending.expressive = true) :
    (∃ node, (orD x y).node = .ok node) ∧
      (orD x y).spending.nonmalleable = (x.spending.nonmalleable && y.spending.nonmalleable) := by
  obtain ⟨unit, signed, _⟩ := here.expressive ex
  constructor
  · have fits : (a.type.isDissatisfiableUnit .base && b.type.base == .base) = true := by
      simp [unit, there.base]
    simp only [Miniscript.node, first, second]
    exact ⟨_, Node.require_eq_ok_iff.mpr ⟨fits, rfl⟩⟩
  · simp [spending, Spending.orD, signed, ex]

theorem dull_parts_of_orI {a b : Node} (here : Analysed x a) (there : Analysed y b)
    (first : x.node = .ok a) (second : y.node = .ok b)
    (picked : pick Miniscript.node isNonmalleable (orCandidates x y) = .ok (orI x y)) :
    x.spending.expressive = false ∧ y.spending.expressive = false := by
  -- A type and a nonmalleable `or_d` would have won, whichever part is the expressive one.
  have blocked := blocked_of_picked_orI picked
  have notLeft : x.spending.expressive = false := by
    cases ex : x.spending.expressive with
    | false => rfl
    | true =>
      obtain ⟨⟨node, typed⟩, sound⟩ := orD_of_expressive here there first second ex
      obtain ⟨whole, not⟩ := blocked (orD x y) (by simp) node typed
      rw [sound] at not
      exact absurd whole (by simp [spending, Spending.orI, not])
  have notRight : y.spending.expressive = false := by
    cases ey : y.spending.expressive with
    | false => rfl
    | true =>
      obtain ⟨⟨node, typed⟩, sound⟩ := orD_of_expressive there here second first ey
      obtain ⟨whole, not⟩ := blocked (orD y x) (by simp) node typed
      rw [sound, Bool.and_comm] at not
      exact absurd whole (by simp [spending, Spending.orI, not])
  exact ⟨notLeft, notRight⟩

theorem wellAnalysed_orI (left : WellAnalysed x) (right : WellAnalysed y)
    (picked : pick Miniscript.node isNonmalleable (orCandidates x y) = .ok (orI x y)) :
    WellAnalysed (orI x y) := by
  intro node typed
  obtain ⟨a, b, first, second, built⟩ := exists_of_node_orI typed
  obtain ⟨_, rfl⟩ := Node.require_eq_ok_iff.mp built
  have here := left a first
  have there := right b second
  obtain ⟨notLeft, notRight⟩ := dull_parts_of_orI here there first second picked
  have dull : (orI x y).spending.expressive = false := by
    simp [spending, Spending.orI, notLeft, notRight]
  refine ⟨here.base, fun expressive => by simp [dull] at expressive, fun nonmalleable => ?_⟩
  obtain ⟨mx, my⟩ := Bool.and_eq_true_iff.mp nonmalleable
  rw [guarded_orI, ← here.nonmalleable mx, ← there.nonmalleable my]
  change (_ && _ && (x.reference.needsSignature || y.reference.needsSignature)) = true ↔ _
  -- That a branch needs a signature in the reference is that nobody satisfies it without one.
  rw [reference_needsSignature_eq, reference_needsSignature_eq]
  simp only [Bool.and_eq_true, Bool.or_eq_true, Bool.not_eq_true']
  tauto

structure AnalysedItem (item : Miniscript) : Prop where
  expressive : item.spending.expressive = true → item.spending.needsSignature = true →
    item.reference.expressive = true
  nonmalleable : item.spending.expressive = true → item.spending.nonmalleable = true →
    (item.reference.expressive = true ∧ item.reference.nonmalleable = true ↔ item.Guarded)

theorem Analysed.item {a : Node} (here : Analysed x a) : AnalysedItem x where
  expressive ex _ := (here.expressive ex).2.2
  nonmalleable ex mx := by simp [(here.expressive ex).2.2, here.nonmalleable mx]

theorem Analysed.optional {a : Node} (here : Analysed x a) : AnalysedItem (Lowering.optional x) where
  expressive _ signed := by cases signed
  nonmalleable _ mx := by
    have inner : x.spending.nonmalleable = true := mx
    have forced : (Lowering.optional x).reference.expressive = x.reference.forced := by
      simp [Lowering.optional, reference, Reference.wrap, Reference.orI, Reference.zero]
    have sound : (Lowering.optional x).reference.nonmalleable = x.reference.nonmalleable := by
      simp [Lowering.optional, reference, Reference.wrap, Reference.orI, Reference.zero]
    rw [guarded_optional, forced, sound, here.nonmalleable inner]

theorem AnalysedItem.wrap {wrapper : Wrapper} (plain : wrapper = .s ∨ wrapper = .a)
    (inner : AnalysedItem x) : AnalysedItem (wrap wrapper x) := by
  have guarded : (Miniscript.wrap wrapper x).Guarded ↔ x.Guarded := by
    apply guarded_wrap
    rcases plain with rfl | rfl <;> decide
  rcases plain with rfl | rfl
  · exact ⟨inner.expressive, fun ex mx => (inner.nonmalleable ex mx).trans guarded.symm⟩
  · exact ⟨inner.expressive, fun ex mx => (inner.nonmalleable ex mx).trans guarded.symm⟩

theorem item_cases {P : Miniscript → Prop} {m : Miniscript} {node : Node}
    (alone : ∀ a, x.node = .ok a → P x) (branched : ∀ a, x.node = .ok a → P (Lowering.optional x))
    (wrapped : ∀ wrapper, wrapper = .s ∨ wrapper = .a → ∀ y, P y → P (wrap wrapper y))
    (member : m ∈ firstCandidates x ∨ m ∈ itemCandidates x) (typed : m.node = .ok node) : P m := by
  have first {m : Miniscript} {node : Node} (member : m ∈ firstCandidates x) (typed : m.node = .ok node) :
      P m := by
    rcases mem_firstCandidates.mp member with rfl | rfl
    · exact alone node typed
    · obtain ⟨a, inner⟩ := exists_of_node_optional typed
      exact branched a inner
  rcases member with member | member
  · exact first member typed
  · obtain ⟨y, inside, rfl | rfl⟩ := mem_itemCandidates.mp member
    · obtain ⟨a, inner, _⟩ := exists_of_node_wrap typed
      exact wrapped .s (.inl rfl) y (first inside inner)
    · obtain ⟨a, inner, _⟩ := exists_of_node_wrap typed
      exact wrapped .a (.inr rfl) y (first inside inner)

theorem analysedItem_of_candidate {m : Miniscript} {node : Node} (well : WellAnalysed x)
    (member : m ∈ firstCandidates x ∨ m ∈ itemCandidates x) (typed : m.node = .ok node) :
    AnalysedItem m :=
  item_cases (fun a inner => (well a inner).item) (fun a inner => (well a inner).optional)
    (fun _ plain _ item => item.wrap plain) member typed

section Thresh

variable {required : Nat} {items : List Miniscript}

theorem spending_thresh_expressive : (thresh required items).spending.expressive = true ↔
    ∀ item ∈ items, item.spending.expressive = true ∧ item.spending.needsSignature = true := by
  simp [spending, Spending.thresh, List.countP_eq_length, forall_and]

theorem spending_thresh_nonmalleable : (thresh required items).spending.nonmalleable = true ↔
    (∀ item ∈ items, item.spending.expressive = true ∧ item.spending.nonmalleable = true) ∧
      items.length ≤ items.countP (fun m => m.spending.needsSignature) + required := by
  simp [spending, Spending.thresh, List.countP_map, Function.comp_def, forall_and]

theorem reference_thresh_expressive : (thresh required items).reference.expressive = true ↔
    ∀ item ∈ items, item.reference.expressive = true ∧ item.reference.needsSignature = true := by
  simp [reference, Reference.thresh]

theorem reference_thresh_nonmalleable : (thresh required items).reference.nonmalleable = true ↔
    (∀ item ∈ items, item.reference.expressive = true ∧ item.reference.nonmalleable = true) ∧
      items.length ≤ items.countP (fun m => m.reference.needsSignature) + required := by
  simp [reference, Reference.thresh, List.countP_map, Function.comp_def]

theorem countP_signed_le (items : List Miniscript) :
    items.countP (fun m => m.spending.needsSignature) ≤
      items.countP (fun m => m.reference.needsSignature) :=
  List.countP_mono_left fun _ _ needs => reference_needsSignature needs

theorem needsSignature_thresh (positive : 1 ≤ required)
    (signed : ∀ item ∈ items, item.spending.needsSignature = true) :
    (thresh required items).spending.needsSignature = true := by
  have all : items.countP (fun m => m.spending.needsSignature) = items.length :=
    List.countP_eq_length.mpr signed
  rw [signatureRules_spending.thresh, all, decide_eq_true_eq]
  omega

theorem wellAnalysed_thresh
    (each : ∀ item ∈ items, ∀ node, item.node = .ok node → AnalysedItem item) :
    WellAnalysed (thresh required items) := by
  intro node typed
  obtain ⟨xs, pairs, positive, _, type⟩ := exists_of_node_thresh typed
  have analysed : ∀ item ∈ items, AnalysedItem item := by
    intro item member
    obtain ⟨a, _, inner⟩ := pairs.exists_right_of_mem member
    exact each item member a inner
  refine ⟨by rw [type]; rfl, fun expressive => ?_, fun nonmalleable => ?_⟩
  · have both := spending_thresh_expressive.mp expressive
    refine ⟨by rw [type]; rfl, needsSignature_thresh positive fun item member => (both item member).2,
      reference_thresh_expressive.mpr fun item member => ?_⟩
    obtain ⟨ex, signed⟩ := both item member
    exact ⟨(analysed item member).expressive ex signed, reference_needsSignature signed⟩
  · obtain ⟨both, enough⟩ := spending_thresh_nonmalleable.mp nonmalleable
    have more := countP_signed_le items
    rw [reference_thresh_nonmalleable, guarded_thresh,
      and_iff_left (show items.length ≤ _ + required by omega)]
    exact forall₂_congr fun item member =>
      (analysed item member).nonmalleable (both item member).1 (both item member).2

end Thresh

end Analysed

end Miniscript

namespace Policy

open Miniscript

theorem wellAnalysed_invariant :
    LoweringInvariant Miniscript.node fun _ m => m.WellAnalysed where
  key := wellAnalysed_key
  after _ := wellAnalysed_leaf rfl rfl rfl rfl (by simp [Guarded, subscripts, IsGuarded])
  older _ := wellAnalysed_leaf rfl rfl rfl rfl (by simp [Guarded, subscripts, IsGuarded])
  hash _ _ := wellAnalysed_leaf rfl rfl rfl rfl (by simp [Guarded, subscripts, IsGuarded])
  and left right := wellAnalysed_andV left right
  or left right picked := by
    rcases mem_orCandidates.mp (pick_mem picked) with rfl | rfl | rfl
    · exact wellAnalysed_orD left right
    · exact wellAnalysed_orD right left
    · exact wellAnalysed_orI left right picked
  thresh {_ _ _ first _ scripts} well picked others := by
    apply wellAnalysed_thresh
    -- The first item was picked among candidates without `s:` and `a:`, the others among those with.
    intro item member node typed
    rcases List.mem_cons.mp member with rfl | later
    · exact analysedItem_of_candidate well (.inl (pick_mem picked)) typed
    · obtain ⟨_, _, x, inner, candidate⟩ := others.exists_left_of_mem later
      exact analysedItem_of_candidate inner (.inr (pick_mem candidate)) typed

theorem reference_nonmalleable_iff {policy : Policy} {m : Miniscript} {node : Node}
    (lowered : policy.lower = .ok m) (typed : m.node = .ok node)
    (nonmalleable : m.spending.nonmalleable = true) :
    m.reference.nonmalleable = true ↔ m.Guarded :=
  (wellAnalysed_invariant.holds lowered node typed).nonmalleable nonmalleable

end Policy

end SpendPolicy
