import SpendPolicy.Miniscript.Basic

set_option autoImplicit false

namespace SpendPolicy.Miniscript

mutual

def subscripts : Miniscript → List Miniscript
  | .andV left right => .andV left right :: (left.subscripts ++ right.subscripts)
  | .orD left right => .orD left right :: (left.subscripts ++ right.subscripts)
  | .orI left right => .orI left right :: (left.subscripts ++ right.subscripts)
  | .thresh required items => .thresh required items :: subscriptsOfAll items
  | .wrap wrapper argument => .wrap wrapper argument :: argument.subscripts
  | .zero => [.zero]
  | .key name => [.key name]
  | .after value => [.after value]
  | .older value => [.older value]
  | .hash algorithm digest => [.hash algorithm digest]

def subscriptsOfAll : List Miniscript → List Miniscript
  | [] => []
  | item :: items => item.subscripts ++ subscriptsOfAll items

end

@[simp] theorem subscriptsOfAll_eq_flatMap (items : List Miniscript) :
    subscriptsOfAll items = items.flatMap subscripts := by
  induction items with
  | nil => simp [subscriptsOfAll]
  | cons item items ih => simp [subscriptsOfAll, ih]

def Everywhere (p : Miniscript → Prop) (m : Miniscript) : Prop :=
  ∀ sub ∈ m.subscripts, p sub

theorem self_mem_subscripts (m : Miniscript) : m ∈ m.subscripts := by
  cases m <;> simp [subscripts]

mutual

theorem subscripts_trans {x y z : Miniscript} (first : x ∈ y.subscripts) (second : y ∈ z.subscripts) :
    x ∈ z.subscripts := by
  match z with
  | .zero | .key _ | .after _ | .older _ | .hash _ _ =>
    cases List.mem_singleton.mp second
    exact first
  | .andV left right | .orD left right | .orI left right =>
    rcases List.mem_cons.mp second with rfl | inside
    · exact first
    · refine List.mem_cons_of_mem _ (List.mem_append.mpr ?_)
      exact (List.mem_append.mp inside).imp (subscripts_trans first) (subscripts_trans first)
  | .thresh _ items =>
    rcases List.mem_cons.mp second with rfl | inside
    · exact first
    · exact List.mem_cons_of_mem _ (subscriptsOfAll_trans first inside)
  | .wrap _ argument =>
    rcases List.mem_cons.mp second with rfl | inside
    · exact first
    · exact List.mem_cons_of_mem _ (subscripts_trans first inside)

theorem subscriptsOfAll_trans {x y : Miniscript} {items : List Miniscript} (first : x ∈ y.subscripts)
    (second : y ∈ subscriptsOfAll items) : x ∈ subscriptsOfAll items := by
  match items with
  | [] => cases second
  | item :: items =>
    exact List.mem_append.mpr ((List.mem_append.mp second).imp (subscripts_trans first)
      (subscriptsOfAll_trans first))

end

section Everywhere

variable {p q : Miniscript → Prop} {x y : Miniscript}

theorem Everywhere.imp (everywhere : x.Everywhere p) (each : ∀ sub, p sub → q sub) :
    x.Everywhere q := by
  intro sub inside
  exact each sub (everywhere sub inside)

theorem Everywhere.self (everywhere : x.Everywhere p) : p x :=
  everywhere x (self_mem_subscripts x)

theorem Everywhere.within (everywhere : x.Everywhere p) (inside : y ∈ x.subscripts) : y.Everywhere p :=
  fun sub member => everywhere sub (subscripts_trans member inside)

theorem everywhere_andV : (andV x y).Everywhere p ↔ p (andV x y) ∧ x.Everywhere p ∧ y.Everywhere p := by
  simp only [Everywhere, subscripts, List.forall_mem_cons, List.forall_mem_append]

theorem everywhere_orD : (orD x y).Everywhere p ↔ p (orD x y) ∧ x.Everywhere p ∧ y.Everywhere p := by
  simp only [Everywhere, subscripts, List.forall_mem_cons, List.forall_mem_append]

theorem everywhere_orI : (orI x y).Everywhere p ↔ p (orI x y) ∧ x.Everywhere p ∧ y.Everywhere p := by
  simp only [Everywhere, subscripts, List.forall_mem_cons, List.forall_mem_append]

theorem everywhere_thresh {required : Nat} {items : List Miniscript} :
    (thresh required items).Everywhere p ↔
      p (thresh required items) ∧ ∀ item ∈ items, item.Everywhere p := by
  simp only [Everywhere, subscripts, List.forall_mem_cons, subscriptsOfAll_eq_flatMap,
    List.mem_flatMap, forall_exists_index, and_imp]
  exact and_congr_right fun _ => ⟨fun all item member sub inside => all sub item member inside,
    fun all sub item member inside => all item member sub inside⟩

theorem everywhere_wrap {wrapper : Wrapper} :
    (wrap wrapper x).Everywhere p ↔ p (wrap wrapper x) ∧ x.Everywhere p := by
  simp only [Everywhere, subscripts, List.forall_mem_cons]

end Everywhere

end SpendPolicy.Miniscript
