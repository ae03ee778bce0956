import SpendPolicy.Proofs.Miniscript.Nodes

set_option autoImplicit false

namespace SpendPolicy.Miniscript

def HasFittingItems : Miniscript → Prop
  | .thresh _ items => ∃ first rest, nodes items = .ok (first :: rest) ∧
      first.type.isDissatisfiableUnit .base = true ∧ Node.AllWrapped rest
  | _ => True

def IsStop : Miniscript → Prop
  | .thresh required items => ∃ xs, nodes items = .ok xs ∧ Node.thresh required xs = .error .undetermined
  | _ => False

variable {m : Miniscript} {node : Node}

theorem nodes_of_thresh {required : Nat} {items : List Miniscript}
    (built : (thresh required items).node = .ok node) :
    ∃ xs, nodes items = .ok xs ∧ Node.thresh required xs = .ok node := by
  rw [node_thresh] at built
  cases each : nodes items with
  | error fault =>
    rw [each] at built
    cases built
  | ok xs =>
    rw [each] at built
    exact ⟨xs, rfl, built⟩

theorem exists_nodes {items : List Miniscript} (types : ∀ item ∈ items, item.Typed .byCount)
    (determined : ∀ item ∈ items, item.Determined) : ∃ xs, nodes items = .ok xs :=
  (judgment_nodes items).exists_ok types determined

theorem hasFittingItems_of_node (built : m.node = .ok node) : m.HasFittingItems := by
  match m with
  | .zero | .key _ | .after _ | .older _ | .hash _ _ | .andV _ _ | .orD _ _ | .orI _ _ | .wrap _ _ =>
    trivial
  | .thresh required items =>
    have typed := (describes_of_node built).type
    obtain ⟨xs, each, _⟩ := nodes_of_thresh built
    have describes : List.Forall₂ (fun item a => a.Describes item) items xs :=
      (forall₂_of_nodes each).imp fun _ _ => describes_of_node
    rw [typeBy, typesBy_of_describes describes, Option.bind_some, Option.ite_none_right_eq_some] at typed
    cases xs with
    | nil => cases typed.1
    | cons first rest =>
      have fits := typed.1
      simp only [List.map_cons, ScriptType.areItems, Bool.and_eq_true, List.all_map,
        List.all_eq_true] at fits
      exact ⟨first, rest, each, fits.1.2, fits.2⟩

theorem everywhere_built (built : m.node = .ok node) :
    m.Everywhere fun sub => ∃ a, sub.node = .ok a := by
  have typed : m.Typed .byCount := ⟨_, (describes_of_node built).type⟩
  have determined : m.Determined := (determined_iff typed).mpr ⟨node, built⟩
  intro sub inside
  exact exists_node (everywhere_typed typed sub inside) (Everywhere.within determined inside)

theorem everywhere_hasFittingItems (built : m.node = .ok node) : m.Everywhere HasFittingItems :=
  (everywhere_built built).imp fun _ ⟨_, own⟩ => hasFittingItems_of_node own

-- Building stops in a part that is not determined; a threshold stops itself if its items all are.
mutual

theorem exists_stop {m : Miniscript} (typed : m.Typed .byCount) (unknown : ¬ m.Determined) :
    ∃ sub ∈ m.subscripts, sub.IsStop := by
  match m with
  | .zero | .key _ | .after _ | .older _ | .hash _ _ =>
    exact (unknown (determined_leaf rfl trivial)).elim
  | .andV left right | .orD left right | .orI left right =>
    have parts : ¬ (left.Determined ∧ right.Determined) := by simpa using unknown
    have types := everywhere_typed typed
    rcases not_and_or.mp parts with first | second
    · have own := types left (by simp [subscripts, self_mem_subscripts])
      obtain ⟨sub, inside, stops⟩ := exists_stop own first
      exact ⟨sub, by simp [subscripts, inside], stops⟩
    · have own := types right (by simp [subscripts, self_mem_subscripts])
      obtain ⟨sub, inside, stops⟩ := exists_stop own second
      exact ⟨sub, by simp [subscripts, inside], stops⟩
  | .thresh required items =>
    have types : ∀ item ∈ items, item.Typed .byCount := fun item member =>
      ((everywhere_thresh.mp (everywhere_typed typed)).2 item member).self
    by_cases each : ∀ item ∈ items, item.Determined
    · obtain ⟨xs, built⟩ := exists_nodes types each
      have fails := node_of_undetermined typed unknown
      rw [node_thresh, built] at fails
      exact ⟨_, self_mem_subscripts _, xs, built, fails⟩
    · obtain ⟨sub, inside, stops⟩ := exists_stop_of_items types each
      exact ⟨sub, List.mem_cons_of_mem _ inside, stops⟩
  | .wrap wrapper argument =>
    have own := everywhere_typed typed argument (by simp [subscripts, self_mem_subscripts])
    obtain ⟨sub, inside, stops⟩ := exists_stop own (unknown ∘ determined_wrap.mpr)
    exact ⟨sub, List.mem_cons_of_mem _ inside, stops⟩

theorem exists_stop_of_items {items : List Miniscript} (types : ∀ item ∈ items, item.Typed .byCount)
    (unknown : ¬ ∀ item ∈ items, item.Determined) : ∃ sub ∈ subscriptsOfAll items, sub.IsStop := by
  match items with
  | [] => exact absurd (List.forall_mem_nil _) unknown
  | item :: items =>
    obtain ⟨here, later⟩ := List.forall_mem_cons.mp types
    by_cases known : item.Determined
    · have rest : ¬ ∀ item ∈ items, item.Determined := fun all =>
        unknown (List.forall_mem_cons.mpr ⟨known, all⟩)
      obtain ⟨sub, inside, stops⟩ := exists_stop_of_items later rest
      exact ⟨sub, List.mem_append_right _ inside, stops⟩
    · obtain ⟨sub, inside, stops⟩ := exists_stop here known
      exact ⟨sub, List.mem_append_left _ inside, stops⟩

end

end SpendPolicy.Miniscript
