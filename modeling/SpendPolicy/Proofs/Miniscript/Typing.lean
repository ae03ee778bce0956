import SpendPolicy.Lowering
import SpendPolicy.Proofs.Basic

set_option autoImplicit false

namespace SpendPolicy

theorem Node.require_eq_ok_iff {condition : Bool} {node other : Node} :
    Node.require condition node = .ok other ↔ condition = true ∧ node = other := by
  unfold Node.require
  split <;> simp_all

namespace Miniscript

theorem nodes_cons (item : Miniscript) (items : List Miniscript) :
    nodes (item :: items) = item.node.bind fun x => (nodes items).map fun xs => x :: xs := by
  rw [nodes]
  cases item.node <;> cases nodes items <;> rfl

theorem node_thresh (required : Nat) (items : List Miniscript) :
    (thresh required items).node = (nodes items).bind (Node.thresh required) := by
  rw [node]
  cases nodes items <;> rfl

theorem node_wrap (wrapper : Wrapper) (argument : Miniscript) :
    (wrap wrapper argument).node = argument.node.bind (Node.wrap wrapper) := by
  rw [node]
  cases argument.node <;> rfl

section Typed

variable {x y : Miniscript} {node : Node}

theorem exists_of_both {first second : Except TypeFault Node}
    {f : Node → Node → Except TypeFault Node}
    (typed : (match first, second with
      | .error fault, _ => Except.error fault
      | .ok _, .error fault => Except.error fault
      | .ok a, .ok b => f a b) = .ok node) :
    ∃ a b, first = .ok a ∧ second = .ok b ∧ f a b = .ok node := by
  split at typed
  · cases typed
  · cases typed
  · next a b => exact ⟨a, b, rfl, rfl, typed⟩

theorem exists_of_node_andV (typed : (andV x y).node = .ok node) :
    ∃ a b, x.node = .ok a ∧ y.node = .ok b ∧ Node.andV a b = .ok node :=
  exists_of_both typed

theorem exists_of_node_orD (typed : (orD x y).node = .ok node) :
    ∃ a b, x.node = .ok a ∧ y.node = .ok b ∧ Node.orD a b = .ok node :=
  exists_of_both typed

theorem exists_of_node_orI (typed : (orI x y).node = .ok node) :
    ∃ a b, x.node = .ok a ∧ y.node = .ok b ∧ Node.orI a b = .ok node :=
  exists_of_both typed

theorem exists_of_node_wrap {wrapper : Wrapper} (typed : (wrap wrapper x).node = .ok node) :
    ∃ a, x.node = .ok a ∧ Node.wrap wrapper a = .ok node := by
  rw [node_wrap] at typed
  exact Except.bind_eq_ok_iff.mp typed

theorem exists_of_node_optional (typed : (Lowering.optional x).node = .ok node) :
    ∃ a, x.node = .ok a := by
  obtain ⟨_, wrapped, _⟩ := exists_of_node_wrap typed
  obtain ⟨a, inner, _⟩ := exists_of_node_wrap wrapped
  exact ⟨a, inner⟩

theorem forall₂_of_nodes {items : List Miniscript} {xs : List Node} (typed : nodes items = .ok xs) :
    List.Forall₂ (fun item a => item.node = .ok a) items xs :=
  Except.forall₂_of_eq_ok nodes_cons rfl typed

theorem type_of_threshOf {required : Nat} {first : Node} {items : List Node}
    (typed : Node.threshOf required first items = .ok node) :
    node.type = Node.threshType (items.length + 1) := by
  unfold Node.threshOf at typed
  split at typed
  · cases typed
  · split at typed
    · cases typed
    · cases typed
      rfl

theorem exists_nodes_of_thresh {required : Nat} {items : List Miniscript}
    (typed : (thresh required items).node = .ok node) :
    ∃ xs, List.Forall₂ (fun item a => item.node = .ok a) items xs ∧
      Node.thresh required xs = .ok node := by
  rw [node_thresh, Except.bind_eq_ok_iff] at typed
  obtain ⟨xs, each, whole⟩ := typed
  exact ⟨xs, forall₂_of_nodes each, whole⟩

theorem exists_of_node_thresh {required : Nat} {items : List Miniscript}
    (typed : (thresh required items).node = .ok node) :
    ∃ xs, List.Forall₂ (fun item a => item.node = .ok a) items xs ∧ 1 ≤ required ∧
      required ≤ items.length ∧ node.type = Node.threshType items.length := by
  obtain ⟨xs, pairs, typed⟩ := exists_nodes_of_thresh typed
  unfold Node.thresh at typed
  split at typed
  · cases typed
  · next first rest =>
    split at typed
    · next bounds =>
      simp only [Bool.and_eq_true, decide_eq_true_eq] at bounds
      have size := pairs.length_eq
      refine ⟨first :: rest, pairs, bounds.1.1, ?_, ?_⟩
      · rw [size]
        exact bounds.1.2
      · rw [size, type_of_threshOf typed, List.length_cons]
    · cases typed

end Typed

end Miniscript

end SpendPolicy
