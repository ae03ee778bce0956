import SpendPolicy.Composition

set_option autoImplicit false

namespace SpendPolicy

def CompositionKind.Admits (threshold : Option Int) (count : Int) : CompositionKind → Prop
  | .and | .or => count = 2
  | .threshold => 2 ≤ count ∧ ∃ k, threshold = some k ∧ 1 ≤ k ∧ k ≤ count

namespace Composition

variable {kind : CompositionKind} {threshold : Option Int} {expressions : List (Option Text)}
  {texts : List Text} {expression : Text} {position : Nat} {count : Int}

theorem checkArity_eq_ok_iff : checkArity kind count threshold = .ok () ↔ kind.Admits threshold count := by
  cases kind with
  | and | or => simp [checkArity, CompositionKind.Admits]
  | threshold =>
    cases threshold with
    | none => simp [checkArity, CompositionKind.Admits]; split <;> simp
    | some k =>
      simp only [checkArity, CompositionKind.Admits, Option.some.injEq, exists_eq_left']
      split
      · next few => simp; omega
      · next enough =>
        split
        · next between => simp [between]; omega
        · next outside => simp; omega

theorem eq_of_present (present : present position expressions = .ok texts) :
    expressions = texts.map some ∧ [] ∉ texts := by
  fun_induction Composition.present position expressions generalizing texts with
  | case1 =>
    cases present
    exact ⟨rfl, List.not_mem_nil⟩
  | case2 position c s rest more found ih =>
    cases present
    obtain ⟨same, filled⟩ := ih found
    exact ⟨by rw [List.map_cons, same], List.not_mem_cons_of_ne_of_not_mem (List.cons_ne_nil c s).symm filled⟩
  | case3 => cases present
  | case4 => cases present

theorem present_map_some (filled : [] ∉ texts) : present position (texts.map some) = .ok texts := by
  induction texts generalizing position with
  | nil => rfl
  | cons s texts ih =>
    obtain ⟨own, others⟩ := List.ne_and_not_mem_of_not_mem_cons filled
    obtain ⟨c, s, rfl⟩ := List.exists_cons_of_ne_nil own.symm
    simp only [List.map_cons, present, ih others]

theorem compose_eq_ok_iff : compose kind expressions threshold = .ok expression ↔
    ∃ texts, expressions = texts.map some ∧ [] ∉ texts ∧ kind.Admits threshold texts.length ∧
      combine kind threshold texts = expression := by
  constructor
  · intro composed
    unfold compose at composed
    split at composed
    · cases composed
    · next texts all =>
      split at composed
      · cases composed
      · next arity =>
        cases composed
        obtain ⟨same, filled⟩ := eq_of_present all
        exact ⟨texts, same, filled, checkArity_eq_ok_iff.mp arity, rfl⟩
  · rintro ⟨texts, rfl, filled, admits, rfl⟩
    simp only [compose, present_map_some filled, checkArity_eq_ok_iff.mpr admits]

theorem compose_map_some_eq_ok_iff : compose kind (texts.map some) threshold = .ok expression ↔
    [] ∉ texts ∧ kind.Admits threshold texts.length ∧ combine kind threshold texts = expression := by
  rw [compose_eq_ok_iff]
  constructor
  · rintro ⟨others, same, holds⟩
    cases (List.map_inj_right fun _ _ => Option.some.inj).mp same
    exact holds
  · exact fun holds => ⟨texts, rfl, holds⟩

theorem combine_ne_nil (kind : CompositionKind) (threshold : Option Int) (texts : List Text) :
    combine kind threshold texts ≠ [] := by
  cases kind <;> simp [combine, Form.thresh, Form.call]

theorem compose_filled (composed : compose kind expressions threshold = .ok expression) :
    expression ≠ [] := by
  obtain ⟨texts, _, _, _, rfl⟩ := compose_eq_ok_iff.mp composed
  exact combine_ne_nil kind threshold texts

theorem exists_compose_iff (admits : kind.Admits threshold expressions.length)
    (filled : some [] ∉ expressions) :
    (∃ expression, compose kind expressions threshold = .ok expression) ↔ none ∉ expressions := by
  constructor
  · rintro ⟨expression, composed⟩ absent
    obtain ⟨texts, rfl, _⟩ := compose_eq_ok_iff.mp composed
    simp at absent
  · intro all
    have same : (expressions.map fun e => e.getD []).map some = expressions := by
      rw [List.map_map]
      refine (List.map_congr_left fun e member => ?_).trans (List.map_id expressions)
      cases e with
      | none => exact absurd member all
      | some s => rfl
    rw [← same] at filled
    rw [← List.length_map (fun e => Option.getD e [])] at admits
    exact ⟨_, compose_eq_ok_iff.mpr ⟨_, same.symm, by simpa using filled, admits, rfl⟩⟩

end Composition

end SpendPolicy
