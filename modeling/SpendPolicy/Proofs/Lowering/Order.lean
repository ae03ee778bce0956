import SpendPolicy.Proofs.Lowering.Spending
import SpendPolicy.Proofs.Policy.Order

set_option autoImplicit false

namespace SpendPolicy

open Lowering Miniscript

namespace Miniscript

structure Similar (x y : Miniscript) : Prop where
  type : y.typeBy .byCount = x.typeBy .byCount
  spending : y.spending = x.spending
  witnesses : y.witnesses = x.witnesses
  hidesTimelocks : y.hidesTimelocks = x.hidesTimelocks
  determined : y.Determined ↔ x.Determined

namespace Similar

variable {x y x' y' : Miniscript}

theorem refl (x : Miniscript) : Similar x x :=
  ⟨rfl, rfl, rfl, rfl, .rfl⟩

theorem outline (similar : Similar x y) : y.outline = x.outline := by
  simp only [Miniscript.outline, similar.type, similar.witnesses]

theorem andV (first : Similar x x') (second : Similar y y') :
    Similar (.andV (verified x) y) (.andV (verified x') y') where
  type := by simp only [verified, typeBy, first.type, second.type]
  spending := by simp only [verified, Miniscript.spending, first.spending, second.spending]
  witnesses := by simp only [verified, Miniscript.witnesses, first.witnesses, second.witnesses]
  hidesTimelocks := rfl
  determined := by
    rw [determined_andV, determined_andV, verified, verified, determined_wrap, determined_wrap,
      first.determined, second.determined]

theorem orD (first : Similar x x') (second : Similar y y') : Similar (.orD x y) (.orD x' y') where
  type := by simp only [typeBy, first.type, second.type]
  spending := by simp only [Miniscript.spending, first.spending, second.spending]
  witnesses := by simp only [Miniscript.witnesses, first.witnesses, second.witnesses]
  hidesTimelocks := rfl
  determined := by rw [determined_orD, determined_orD, first.determined, second.determined]

theorem orI (first : Similar x x') (second : Similar y y') : Similar (.orI x y) (.orI x' y') where
  type := by simp only [typeBy, first.type, second.type]
  spending := by simp only [Miniscript.spending, first.spending, second.spending]
  witnesses := by simp only [Miniscript.witnesses, first.witnesses, second.witnesses]
  hidesTimelocks := rfl
  determined := by rw [determined_orI, determined_orI, first.determined, second.determined]

theorem optional (similar : Similar x y) : Similar (Lowering.optional x) (Lowering.optional y) where
  type := by simp only [Lowering.optional, typeBy, similar.type]
  spending := by simp only [Lowering.optional, Miniscript.spending, similar.spending]
  witnesses := by simp only [Lowering.optional, Miniscript.witnesses, similar.witnesses]
  hidesTimelocks := rfl
  determined := by simp only [Lowering.optional, determined_wrap, similar.determined]

theorem member (similar : Similar x y) : Similar (Lowering.member x) (Lowering.member y) := by
  have same : isFitting id (isDissatisfiableUnit .base) y = isFitting id (isDissatisfiableUnit .base) x := by
    simp only [isFitting, id, similar.outline]
    rfl
  unfold Lowering.member
  rw [same]
  split
  · exact similar
  · exact similar.optional

end Similar

section Pick

variable {fits : Miniscript → Node → Bool} {candidates others : List Miniscript} {m m' : Miniscript}

theorem find?_similar {p : Miniscript → Bool} (blind : ∀ x y, Similar x y → p y = p x)
    (pairs : List.Forall₂ Similar candidates others) :
    Option.Rel Similar (candidates.find? p) (others.find? p) := by
  induction pairs with
  | nil => exact .none
  | @cons x y _ _ here _ ih =>
    rw [List.find?_cons, List.find?_cons, blind x y here]
    cases p x with
    | true => exact .some here
    | false => exact ih

theorem similar_of_pick (blind : ∀ x y node, Similar x y → fits y node = fits x node)
    (pairs : List.Forall₂ Similar candidates others) (picked : pick outline fits candidates = .ok m)
    (other : pick outline fits others = .ok m') : Similar m m' := by
  have fitting := find?_similar (p := isFitting id fits)
    (fun x y similar => by simp only [isFitting, id, similar.outline, blind x y _ similar]) pairs
  have typed := find?_similar (p := isTyped id)
    (fun x y similar => by simp only [isTyped, id, similar.type]) pairs
  simp only [pick, choose, chooseFrom_outline, Option.none_or] at picked other
  generalize candidates.find? (isFitting id fits) = a at fitting picked
  generalize others.find? (isFitting id fits) = b at fitting other
  generalize candidates.find? (isTyped id) = c at typed picked
  generalize others.find? (isTyped id) = d at typed other
  cases fitting with
  | some similar =>
    cases picked
    cases other
    exact similar
  | none =>
    cases typed with
    | some similar =>
      cases picked
      cases other
      exact similar
    | none => cases picked

theorem similar_of_pick_or {x y x' y' : Miniscript} (first : Similar x x') (second : Similar y y')
    (picked : pick outline isNonmalleable (orCandidates x y) = .ok m)
    (other : pick outline isNonmalleable (orCandidates x' y') = .ok m') : Similar m m' :=
  similar_of_pick (fun _ _ _ similar => by simp only [isNonmalleable, similar.spending])
    (.cons (first.orD second) (.cons (second.orD first) (.cons (first.orI second) .nil))) picked other

end Pick

structure View where
  spending : Spending
  witnesses : Witnesses
  hidesTimelocks : Bool
  determined : Prop

def view (m : Miniscript) : View :=
  ⟨m.spending, m.witnesses, m.hidesTimelocks, m.Determined⟩

theorem Similar.view {x y : Miniscript} (similar : Similar x y) : y.view = x.view := by
  simp only [Miniscript.view, similar.spending, similar.witnesses, similar.hidesTimelocks,
    similar.determined]

theorem view_of_isMember {x item : Miniscript} (is : IsMember x item) :
    item.view = (Lowering.member x).view := by
  simp only [view, is.spending, is.witnesses, is.hidesTimelocks, is.determined]

section Thresh

variable {required : Nat} {items others : List Miniscript}

theorem thresh?_perm {xs ys : List Witnesses} (perm : xs.Perm ys) :
    Witnesses.thresh? required ys = Witnesses.thresh? required xs := by
  simp only [Witnesses.thresh?, Witnesses.isReachable, perm.length_eq, perm.countP_eq, perm.any_eq]
  rfl

theorem ofThresh_perm {xs ys : List Witnesses} (perm : xs.Perm ys) :
    Witnesses.ofThresh required ys = Witnesses.ofThresh required xs := by
  simp only [Witnesses.ofThresh, Witnesses.isReachable, perm.length_eq, perm.countP_eq, perm.any_eq]

theorem typeBy_thresh (base : (thresh required items).IsBase) :
    (thresh required items).typeBy .byCount = some (Node.threshType items.length) := by
  obtain ⟨type, typed, _⟩ := base
  rw [typed]
  simp only [typeBy, Option.bind_eq_some_iff, Option.ite_none_right_eq_some,
    Option.some.injEq] at typed
  obtain ⟨types, each, _, rfl⟩ := typed
  rw [(typesBy_eq_some_iff.mp each).length_eq, ThreshRule.byCount]

theorem similar_thresh (first : (thresh required items).IsBase)
    (second : (thresh required others).IsBase) (perm : (items.map view).Perm (others.map view)) :
    Similar (thresh required items) (thresh required others) := by
  have spendings : (items.map spending).Perm (others.map spending) := by
    simpa [Function.comp_def, view] using perm.map View.spending
  have together : (items.map witnesses).Perm (others.map witnesses) := by
    simpa [Function.comp_def, view] using perm.map View.witnesses
  have each (p : View → Prop) : (∀ item ∈ others, p item.view) ↔ ∀ item ∈ items, p item.view := by
    have shown (xs : List Miniscript) : (∀ item ∈ xs, p item.view) ↔ ∀ seen ∈ xs.map view, p seen :=
      List.forall_mem_map.symm
    simp only [shown, perm.mem_iff]
  have hides : (∀ item ∈ others, item.hidesTimelocks = false) ↔
      ∀ item ∈ items, item.hidesTimelocks = false := each (·.hidesTimelocks = false)
  have determined : (∀ item ∈ others, item.Determined) ↔ ∀ item ∈ items, item.Determined :=
    each View.determined
  refine ⟨?_, ?_, ?_, rfl, ?_⟩
  · have count : items.length = others.length := by simpa using perm.length_eq
    rw [typeBy_thresh first, typeBy_thresh second, count]
  · rw [spending, spending, spendings_eq_map, spendings_eq_map]
    exact Spending.thresh_perm spendings
  · simp only [witnesses, witnessesOfAll_eq_map]
    exact ofThresh_perm together
  · rw [determined_thresh, determined_thresh, IsDetermined, IsDetermined, hides, determined,
      thresh?_perm together]

end Thresh

end Miniscript

namespace Policy

def LowersAll (typing : Typing) : List Policy → List Miniscript → Prop :=
  List.Forall₂ fun item x => item.lowerBy typing = .ok x

theorem LowersAll.unique {typing : Typing} {items : List Policy} {xs ys : List Miniscript}
    (first : LowersAll typing items xs) (second : LowersAll typing items ys) : xs = ys :=
  List.right_unique_forall₂' (fun _ _ _ here there => Except.ok.inj (here.symm.trans there)) first
    second

section Thresh

variable {required : Nat} {items : List Policy} {m : Miniscript}

theorem isBase_of_lowerBy {policy : Policy} (wellFormed : policy.WellFormed)
    (lowered : policy.lowerBy outline = .ok m) : m.IsBase :=
  (reflects_invariant.holds lowered wellFormed).coherent.base

theorem exists_members_of_lowerBy (wellFormed : (thresh required items).WellFormed)
    (lowered : (thresh required items).lowerBy outline = .ok m) :
    ∃ xs scripts, LowersAll outline items xs ∧ List.Forall₂ IsMember xs scripts ∧
      m = .thresh required scripts := by
  obtain ⟨xs, lowers, whole⟩ := exists_of_lowerBy_thresh lowered
  have bases : ∀ x ∈ xs, x.IsBase := by
    intro x member
    obtain ⟨item, inside, here⟩ := lowers.exists_left_of_mem member
    exact isBase_of_lowerBy (allWellFormed_iff.mp wellFormed.2.2.2 item inside) here
  obtain ⟨x, rest, first, scripts, rfl, head, tail, rfl⟩ := exists_of_thresh whole
  obtain ⟨base, others⟩ := List.forall_mem_cons.mp bases
  refine ⟨x :: rest, first :: scripts, lowers, .cons (member_of_picksFirst base head) ?_, rfl⟩
  refine ((List.forall₂_and_left rest scripts).mpr ⟨others, tail⟩).imp ?_
  exact fun x script ⟨base, picked⟩ => member_of_picksItem base picked

end Thresh

theorem views_of_members {xs scripts : List Miniscript} (members : List.Forall₂ IsMember xs scripts) :
    scripts.map view = xs.map fun x => (member x).view :=
  (members.imp fun _ _ => view_of_isMember).map_eq

theorem views_of_similar {xs ys : List Miniscript} (pairs : List.Forall₂ Similar xs ys) :
    (ys.map fun y => (member y).view) = xs.map fun x => (member x).view :=
  (pairs.imp fun _ _ similar => similar.member.view).map_eq

theorem similar_of_lowersAll {required : Nat} {items others : List Policy} {m m' : Miniscript}
    (wellFormed : (thresh required items).WellFormed)
    (wellFormed' : (thresh required others).WellFormed)
    (lowered : (thresh required items).lowerBy outline = .ok m)
    (lowered' : (thresh required others).lowerBy outline = .ok m')
    (perm : ∀ xs ys, LowersAll outline items xs → LowersAll outline others ys →
      ∃ zs, List.Forall₂ Similar xs zs ∧ zs.Perm ys) : Similar m m' := by
  have base := isBase_of_lowerBy wellFormed lowered
  have base' := isBase_of_lowerBy wellFormed' lowered'
  obtain ⟨xs, scripts, each, members, rfl⟩ := exists_members_of_lowerBy wellFormed lowered
  obtain ⟨ys, scripts', each', members', rfl⟩ := exists_members_of_lowerBy wellFormed' lowered'
  obtain ⟨zs, pairs, moved⟩ := perm xs ys each each'
  apply similar_thresh base base'
  rw [views_of_members members, views_of_members members', ← views_of_similar pairs]
  exact moved.map _

theorem similar_of_lowerBy {policy : Policy} {x y : Miniscript}
    (first : policy.lowerBy outline = .ok x) (second : policy.lowerBy outline = .ok y) : Similar x y :=
  Except.ok.inj (first.symm.trans second) ▸ .refl x

theorem similar_of_one {before after : List Policy} {item other : Policy} {xs ys : List Miniscript}
    (one : ∀ x y, item.lowerBy outline = .ok x → other.lowerBy outline = .ok y → Similar x y)
    (first : LowersAll outline (before ++ item :: after) xs)
    (second : LowersAll outline (before ++ other :: after) ys) : List.Forall₂ Similar xs ys := by
  induction before generalizing xs ys with
  | nil =>
    cases first with
    | cons here rest =>
      cases second with
      | cons there others =>
        cases LowersAll.unique rest others
        exact .cons (one _ _ here there) (List.forall₂_same.mpr fun x _ => .refl x)
  | cons _ before ih =>
    cases first with
    | cons here rest =>
      cases second with
      | cons there others => exact .cons (similar_of_lowerBy here there) (ih rest others)

theorem Exchange.similar {policy other : Policy} (exchange : Exchange .items policy other)
    (wellFormed : policy.WellFormed) {m m' : Miniscript} (lowered : policy.lowerBy outline = .ok m)
    (lowered' : other.lowerBy outline = .ok m') : Similar m m' := by
  have whole := exchange.wellFormed wellFormed
  induction exchange generalizing m m' with
  | and chosen => cases chosen
  | or chosen => cases chosen
  | thresh _ required perm =>
    refine similar_of_lowersAll wellFormed whole lowered lowered' fun xs ys first second => ?_
    obtain ⟨zs, others, moved⟩ := List.perm_comp_forall₂ perm second
    cases first.unique others
    exact ⟨xs, List.forall₂_same.mpr fun x _ => .refl x, moved⟩
  | andLeft inner right ih =>
    obtain ⟨x, y, first, second, rfl⟩ := exists_of_lowerBy_and lowered
    obtain ⟨x', y', first', second', rfl⟩ := exists_of_lowerBy_and lowered'
    exact (ih wellFormed.1 first first' whole.1).andV (similar_of_lowerBy second second')
  | andRight left inner ih =>
    obtain ⟨x, y, first, second, rfl⟩ := exists_of_lowerBy_and lowered
    obtain ⟨x', y', first', second', rfl⟩ := exists_of_lowerBy_and lowered'
    exact (similar_of_lowerBy first first').andV (ih wellFormed.2 second second' whole.2)
  | orLeft inner right ih =>
    obtain ⟨x, y, first, second, picked⟩ := exists_of_lowerBy_or lowered
    obtain ⟨x', y', first', second', picked'⟩ := exists_of_lowerBy_or lowered'
    exact similar_of_pick_or (ih wellFormed.1 first first' whole.1) (similar_of_lowerBy second second')
      picked picked'
  | orRight left inner ih =>
    obtain ⟨x, y, first, second, picked⟩ := exists_of_lowerBy_or lowered
    obtain ⟨x', y', first', second', picked'⟩ := exists_of_lowerBy_or lowered'
    exact similar_of_pick_or (similar_of_lowerBy first first') (ih wellFormed.2 second second' whole.2)
      picked picked'
  | @item required before after item other inner ih =>
    refine similar_of_lowersAll wellFormed whole lowered lowered' fun xs ys first second =>
      ⟨ys, similar_of_one (fun x y here there => ?_) first second, .refl ys⟩
    have inside : item ∈ before ++ item :: after := by simp
    have moved : other ∈ before ++ other :: after := by simp
    exact ih (allWellFormed_iff.mp wellFormed.2.2.2 item inside) here there
      (allWellFormed_iff.mp whole.2.2.2 other moved)

end Policy

end SpendPolicy
