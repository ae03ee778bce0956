import SpendPolicy.Proofs.Policy.WellFormed

set_option autoImplicit false

namespace SpendPolicy.Policy

mutual

def rename (f : Text → Text) : Policy → Policy
  | .key name => .key (f name)
  | .and left right => .and (left.rename f) (right.rename f)
  | .or left right => .or (left.rename f) (right.rename f)
  | .thresh required items => .thresh required (renameAll f items)
  | .after value => .after value
  | .older value => .older value
  | .hash algorithm digest => .hash algorithm digest
  | .unknown => .unknown

def renameAll (f : Text → Text) : List Policy → List Policy
  | [] => []
  | item :: items => item.rename f :: renameAll f items

end

@[simp] theorem renameAll_eq_map (f : Text → Text) (items : List Policy) :
    renameAll f items = items.map (rename f) := by
  induction items with
  | nil => simp [renameAll]
  | cons item items ih => simp [renameAll, ih]

variable {f : Text → Text}

mutual

theorem keys_rename (policy : Policy) : (policy.rename f).keys = policy.keys.map f := by
  match policy with
  | .key _ | .after _ | .older _ | .hash _ _ | .unknown => rfl
  | .and left right | .or left right =>
    simp only [rename, keys, keys_rename left, keys_rename right, List.map_append]
  | .thresh _ items => exact keysOfAll_rename items

theorem keysOfAll_rename (items : List Policy) :
    keysOfAll (renameAll f items) = (keysOfAll items).map f := by
  match items with
  | [] => rfl
  | item :: items =>
    simp only [renameAll, keysOfAll, keys_rename item, keysOfAll_rename items, List.map_append]

end

mutual

theorem WellFormed.rename {policy : Policy} (wellFormed : policy.WellFormed)
    (names : ∀ name ∈ policy.keys, IsName (f name)) : (policy.rename f).WellFormed := by
  match policy with
  | .key name => exact names name (by simp [keys])
  | .after _ | .older _ | .hash _ _ | .unknown => exact wellFormed
  | .and left right | .or left right =>
    obtain ⟨first, second⟩ := List.forall_mem_append.mp names
    exact ⟨wellFormed.1.rename first, wellFormed.2.rename second⟩
  | .thresh required items =>
    obtain ⟨positive, bounded, number, each⟩ := wellFormed
    refine ⟨positive, ?_, number, each.rename names⟩
    simpa using bounded

theorem AllWellFormed.rename {items : List Policy} (each : AllWellFormed items)
    (names : ∀ name ∈ keysOfAll items, IsName (f name)) : AllWellFormed (renameAll f items) := by
  match items with
  | [] => trivial
  | item :: items =>
    obtain ⟨first, later⟩ := List.forall_mem_append.mp names
    exact ⟨each.1.rename first, AllWellFormed.rename each.2 later⟩

end

mutual

theorem rename_rename (f g : Text → Text) (policy : Policy) :
    (policy.rename f).rename g = policy.rename (g ∘ f) := by
  match policy with
  | .key _ | .after _ | .older _ | .hash _ _ | .unknown => rfl
  | .and left right | .or left right =>
    simp only [rename, rename_rename f g left, rename_rename f g right]
  | .thresh required items => exact congrArg (thresh required) (renameAll_renameAll f g items)

theorem renameAll_renameAll (f g : Text → Text) (items : List Policy) :
    renameAll g (renameAll f items) = renameAll (g ∘ f) items := by
  match items with
  | [] => rfl
  | item :: items =>
    rw [renameAll, renameAll, renameAll, rename_rename f g item, renameAll_renameAll f g items]

end

def shape (policy : Policy) : Policy :=
  policy.rename fun _ => []

theorem shape_rename (policy : Policy) : (policy.rename f).shape = policy.shape :=
  rename_rename f _ policy

theorem length_keys_of_shape {policy other : Policy} (same : policy.shape = other.shape) :
    policy.keys.length = other.keys.length := by
  have places := congrArg (fun shape => shape.keys.length) same
  simpa [shape, keys_rename] using places

mutual

theorem eq_of_shape_of_keys {policy other : Policy} (same : policy.shape = other.shape)
    (names : policy.keys = other.keys) : policy = other := by
  match policy with
  | .key _ =>
    cases other with
    | key _ => simpa [keys] using names
    | _ => simp [shape, rename] at same
  | .after _ | .older _ | .hash _ _ | .unknown => cases other <;> simp_all [shape, rename]
  | .and left right =>
    cases other with
    | and left' right' =>
      obtain ⟨first, second⟩ := Policy.and.inj same
      obtain ⟨left, right⟩ := List.append_inj names (length_keys_of_shape first)
      rw [eq_of_shape_of_keys first left, eq_of_shape_of_keys second right]
    | _ => simp [shape, rename] at same
  | .or left right =>
    cases other with
    | or left' right' =>
      obtain ⟨first, second⟩ := Policy.or.inj same
      obtain ⟨left, right⟩ := List.append_inj names (length_keys_of_shape first)
      rw [eq_of_shape_of_keys first left, eq_of_shape_of_keys second right]
    | _ => simp [shape, rename] at same
  | .thresh required items =>
    cases other with
    | thresh required' items' =>
      obtain ⟨rfl, each⟩ := Policy.thresh.inj same
      rw [eq_of_shapes_of_keys each names]
    | _ => simp [shape, rename] at same

theorem eq_of_shapes_of_keys {items others : List Policy}
    (same : renameAll (fun _ => []) items = renameAll (fun _ => []) others)
    (names : keysOfAll items = keysOfAll others) : items = others := by
  match items with
  | [] =>
    cases others with
    | nil => rfl
    | cons => simp [renameAll] at same
  | item :: items =>
    cases others with
    | nil => simp [renameAll] at same
    | cons other others =>
      obtain ⟨first, later⟩ := List.cons.inj same
      obtain ⟨here, rest⟩ := List.append_inj names (length_keys_of_shape first)
      rw [eq_of_shape_of_keys first here, eq_of_shapes_of_keys later rest]

end

theorem exists_rename_of_shape {policy other : Policy} (same : policy.shape = other.shape)
    (distinct : policy.keys.Nodup) : ∃ f, other = policy.rename f := by
  have lengths := length_keys_of_shape same
  refine ⟨fun name => other.keys.getD (policy.keys.idxOf name) [], ?_⟩
  apply eq_of_shape_of_keys
  · rw [shape_rename, same]
  · rw [keys_rename]
    apply List.ext_getElem
    · rw [List.length_map, lengths]
    · intro i within _
      simp [distinct.idxOf_getElem, List.getElem?_eq_getElem within]

end SpendPolicy.Policy
