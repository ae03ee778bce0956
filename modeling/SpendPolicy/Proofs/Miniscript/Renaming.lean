import SpendPolicy.Proofs.Miniscript.Nodes
import SpendPolicy.Miniscript.Spending

set_option autoImplicit false

namespace SpendPolicy.Miniscript

mutual

def rename (f : Text → Text) : Miniscript → Miniscript
  | .key name => .key (f name)
  | .andV left right => .andV (left.rename f) (right.rename f)
  | .orD left right => .orD (left.rename f) (right.rename f)
  | .orI left right => .orI (left.rename f) (right.rename f)
  | .thresh required items => .thresh required (renameAll f items)
  | .wrap wrapper argument => .wrap wrapper (argument.rename f)
  | .zero => .zero
  | .after value => .after value
  | .older value => .older value
  | .hash algorithm digest => .hash algorithm digest

def renameAll (f : Text → Text) : List Miniscript → List Miniscript
  | [] => []
  | item :: items => item.rename f :: renameAll f items

end

@[simp] theorem renameAll_eq_map (f : Text → Text) (items : List Miniscript) :
    renameAll f items = items.map (rename f) := by
  induction items with
  | nil => simp [renameAll]
  | cons item items ih => simp [renameAll, ih]

variable {f : Text → Text}

mutual

theorem node_rename (m : Miniscript) : (m.rename f).node = m.node := by
  match m with
  | .zero | .key _ | .after _ | .older _ | .hash _ _ => rfl
  | .andV left right | .orD left right | .orI left right =>
    simp only [rename, node, node_rename left, node_rename right]
  | .thresh required items => simp only [rename, node, nodes_rename items]
  | .wrap wrapper argument => simp only [rename, node, node_rename argument]

theorem nodes_rename (items : List Miniscript) : nodes (renameAll f items) = nodes items := by
  match items with
  | [] => rfl
  | item :: items => simp only [renameAll, nodes, node_rename item, nodes_rename items]

end

mutual

theorem typeBy_rename (rule : ThreshRule) (m : Miniscript) :
    (m.rename f).typeBy rule = m.typeBy rule := by
  match m with
  | .zero | .key _ | .after _ | .older _ | .hash _ _ => rfl
  | .andV left right | .orD left right | .orI left right =>
    simp only [rename, typeBy, typeBy_rename rule left, typeBy_rename rule right]
  | .thresh required items => simp only [rename, typeBy, typesBy_rename rule items]
  | .wrap wrapper argument => simp only [rename, typeBy, typeBy_rename rule argument]

theorem typesBy_rename (rule : ThreshRule) (items : List Miniscript) :
    typesBy rule (renameAll f items) = typesBy rule items := by
  match items with
  | [] => rfl
  | item :: items =>
    simp only [renameAll, typesBy, typeBy_rename rule item, typesBy_rename rule items]

end

mutual

theorem spending_rename (m : Miniscript) : (m.rename f).spending = m.spending := by
  match m with
  | .zero | .key _ | .after _ | .older _ | .hash _ _ => rfl
  | .andV left right | .orD left right | .orI left right =>
    simp only [rename, spending, spending_rename left, spending_rename right]
  | .thresh required items => simp only [rename, spending, spendings_rename items]
  | .wrap wrapper argument => simp only [rename, spending, spending_rename argument]

theorem spendings_rename (items : List Miniscript) :
    spendings (renameAll f items) = spendings items := by
  match items with
  | [] => rfl
  | item :: items =>
    simp only [renameAll, spendings, spending_rename item, spendings_rename items]

end

theorem insanity?_rename (m : Miniscript) (node : Node) :
    (m.rename f).insanity? node = m.insanity? node := by
  simp only [insanity?, spending_rename]

theorem determined_rename {m : Miniscript} (typed : m.Typed .byCount) :
    (m.rename f).Determined ↔ m.Determined := by
  have renamed : (m.rename f).Typed .byCount := by rwa [Typed, typeBy_rename]
  rw [determined_iff renamed, determined_iff typed, node_rename]

end SpendPolicy.Miniscript
