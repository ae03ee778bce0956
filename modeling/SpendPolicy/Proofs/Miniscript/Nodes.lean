import SpendPolicy.Proofs.Basic
import SpendPolicy.Proofs.Miniscript.Types
import SpendPolicy.Proofs.Miniscript.Typing

set_option autoImplicit false

namespace SpendPolicy

/-- A result is good if there is one. Without a type there is a fault, the broken requirement where all
else is determined; with a type the only fault is that something is not. -/
inductive Judgment {α : Type} (typed determined : Prop) (good : α → Prop) : Except TypeFault α → Prop
  | ok {a : α} (type : typed) (known : determined) (holds : good a) :
    Judgment typed determined good (.ok a)
  | undetermined (type : typed) (unknown : ¬ determined) :
    Judgment typed determined good (.error .undetermined)
  | untyped {fault : TypeFault} (noType : ¬ typed) (broken : determined → fault = .requirement) :
    Judgment typed determined good (.error fault)

namespace Judgment

variable {α β : Type} {typed typed' determined determined' : Prop} {good : α → Prop}
  {good' : β → Prop}

theorem congr {result : Except TypeFault α} {other : α → Prop}
    (judgment : Judgment typed determined good result)
    (types : typed ↔ typed') (knowns : determined ↔ determined')
    (more : typed' → determined' → ∀ a, good a → other a) :
    Judgment typed' determined' other result := by
  cases judgment with
  | ok type known holds =>
    exact .ok (types.mp type) (knowns.mp known) (more (types.mp type) (knowns.mp known) _ holds)
  | undetermined type unknown => exact .undetermined (types.mp type) (unknown ∘ knowns.mpr)
  | untyped noType broken => exact .untyped (noType ∘ types.mpr) (broken ∘ knowns.mpr)

theorem bind {first : Except TypeFault α} {next : α → Except TypeFault β}
    (judgment : Judgment typed determined good first)
    (step : ∀ a, good a → Judgment typed' determined' good' (next a)) :
    Judgment (typed ∧ typed') (determined ∧ determined') good' (first.bind next) := by
  cases judgment with
  | ok type known holds =>
    rename_i a
    exact (step a holds).congr (by simp [type]) (by simp [known]) fun _ _ _ => id
  | undetermined type unknown =>
    by_cases later : typed'
    · exact .undetermined ⟨type, later⟩ (unknown ∘ And.left)
    · exact .untyped (later ∘ And.right) (absurd ·.1 unknown)
  | untyped noType broken => exact .untyped (noType ∘ And.left) (broken ∘ And.left)

theorem map {result : Except TypeFault α} (judgment : Judgment typed determined good result)
    {f : α → β} (more : ∀ a, good a → good' (f a)) : Judgment typed determined good' (result.map f) := by
  cases judgment with
  | ok type known holds => exact .ok type known (more _ holds)
  | undetermined type unknown => exact .undetermined type unknown
  | untyped noType broken => exact .untyped noType broken

theorem exists_ok {result : Except TypeFault α} (judgment : Judgment typed determined good result)
    (type : typed) (known : determined) : ∃ a, result = .ok a := by
  cases judgment with
  | ok => exact ⟨_, rfl⟩
  | undetermined _ unknown => exact absurd known unknown
  | untyped noType _ => exact absurd type noType

end Judgment

namespace Witnesses

def ofThresh (required : Nat) (items : List Witnesses) : Witnesses :=
  ⟨isReachable required items, !items.any isCommitted⟩

theorem eq_ofThresh {required : Nat} {items : List Witnesses} {w : Witnesses}
    (determined : thresh? required items = some w) : w = ofThresh required items := by
  simp only [thresh?] at determined
  split at determined
  · cases determined
  · cases determined
    rfl

end Witnesses

namespace Miniscript

def hidesTimelocks : Miniscript → Bool
  | .thresh required _ => required == 1
  | .wrap .v x | .wrap .s x | .wrap .a x | .wrap .n x => x.hidesTimelocks
  | .wrap .l _ | .wrap .u _ | .zero | .key _ | .after _ | .older _ | .hash _ _ | .andV _ _
  | .orD _ _ | .orI _ _ => false

mutual

def witnesses : Miniscript → Witnesses
  | .zero => .zero
  | .key _ => .key
  | .after _ | .older _ | .hash _ _ => .satisfiable
  | .andV left right => left.witnesses.andV right.witnesses
  | .orD left right => left.witnesses.orD right.witnesses
  | .orI left right => left.witnesses.orI right.witnesses
  | .thresh required items => .ofThresh required (witnessesOfAll items)
  | .wrap wrapper argument =>
    match wrapper with
    | .v => { argument.witnesses with dissatisfying := false }
    | .s | .a | .n => argument.witnesses
    | .l => Witnesses.zero.orI argument.witnesses
    | .u => argument.witnesses.orI .zero

def witnessesOfAll : List Miniscript → List Witnesses
  | [] => []
  | item :: items => item.witnesses :: witnessesOfAll items

end

@[simp] theorem witnessesOfAll_eq_map (items : List Miniscript) :
    witnessesOfAll items = items.map witnesses := by
  induction items with
  | nil => simp [witnessesOfAll]
  | cons item items ih => simp [witnessesOfAll, ih]

/-- A threshold puts together the witnesses of its items, and their timelocks unless it asks for one
item only. -/
def IsDetermined : Miniscript → Prop
  | .thresh required items =>
    (required ≠ 1 → ∀ item ∈ items, item.hidesTimelocks = false) ∧
      (Witnesses.thresh? required (items.map witnesses)).isSome = true
  | _ => True

def Determined (m : Miniscript) : Prop :=
  m.Everywhere IsDetermined

section Determined

variable {x y : Miniscript}

theorem determined_leaf {m : Miniscript} (single : m.subscripts = [m]) (own : m.IsDetermined) :
    m.Determined := by
  intro sub inside
  rw [single] at inside
  exact List.mem_singleton.mp inside ▸ own

@[simp] theorem determined_andV : (andV x y).Determined ↔ x.Determined ∧ y.Determined := by
  simp only [Determined, everywhere_andV, IsDetermined, true_and]

@[simp] theorem determined_orD : (orD x y).Determined ↔ x.Determined ∧ y.Determined := by
  simp only [Determined, everywhere_orD, IsDetermined, true_and]

@[simp] theorem determined_orI : (orI x y).Determined ↔ x.Determined ∧ y.Determined := by
  simp only [Determined, everywhere_orI, IsDetermined, true_and]

@[simp] theorem determined_wrap {wrapper : Wrapper} : (wrap wrapper x).Determined ↔ x.Determined := by
  simp only [Determined, everywhere_wrap, IsDetermined, true_and]

theorem determined_thresh {required : Nat} {items : List Miniscript} :
    (thresh required items).Determined ↔
      (thresh required items).IsDetermined ∧ ∀ item ∈ items, item.Determined :=
  everywhere_thresh

end Determined

end Miniscript

structure Node.Describes (node : Node) (m : Miniscript) : Prop where
  type : m.typeBy .byCount = some node.type
  witnesses : node.witnesses = m.witnesses
  timelocks : node.timelocks.isNone = m.hidesTimelocks

namespace Miniscript

section Steps

variable {m x y : Miniscript} {a b node : Node}

theorem judgment_require {condition : Bool} {p : Prop} [Decidable p]
    (rule : m.typeBy .byCount = if p then some node.type else none) (same : condition = true ↔ p)
    (witnesses : node.witnesses = m.witnesses)
    (timelocks : node.timelocks.isNone = m.hidesTimelocks) :
    Judgment (m.Typed .byCount) True (Node.Describes · m) (Node.require condition node) := by
  unfold Node.require
  split
  · next met =>
    rw [if_pos (same.mp met)] at rule
    exact .ok ⟨_, rule⟩ trivial ⟨rule, witnesses, timelocks⟩
  · next broken =>
    rw [if_neg (broken ∘ same.mpr)] at rule
    exact .untyped (by simp [Typed, rule]) fun _ => rfl

theorem judgment_andV (first : a.Describes x) (second : b.Describes y) :
    Judgment ((andV x y).Typed .byCount) True (Node.Describes · (andV x y)) (Node.andV a b) := by
  have rule : (andV x y).typeBy .byCount = a.type.andV? b.type := by
    rw [typeBy, first.type, second.type]
    rfl
  refine judgment_require rule ?_ ?_ rfl
  · simp
  · simp only [witnesses, first.witnesses, second.witnesses]

theorem judgment_orD (first : a.Describes x) (second : b.Describes y) :
    Judgment ((orD x y).Typed .byCount) True (Node.Describes · (orD x y)) (Node.orD a b) := by
  have rule : (orD x y).typeBy .byCount = a.type.orD? b.type := by
    rw [typeBy, first.type, second.type]
    rfl
  refine judgment_require rule ?_ ?_ rfl
  · simp
  · simp only [witnesses, first.witnesses, second.witnesses]

theorem judgment_orI (first : a.Describes x) (second : b.Describes y) :
    Judgment ((orI x y).Typed .byCount) True (Node.Describes · (orI x y)) (Node.orI a b) := by
  have rule : (orI x y).typeBy .byCount = a.type.orI? b.type := by
    rw [typeBy, first.type, second.type]
    rfl
  refine judgment_require rule ?_ ?_ rfl
  · simp
  · simp only [witnesses, first.witnesses, second.witnesses]

theorem judgment_wrap (wrapper : Wrapper) (inner : a.Describes x) :
    Judgment ((wrap wrapper x).Typed .byCount) True (Node.Describes · (wrap wrapper x))
      (Node.wrap wrapper a) := by
  have rule : (wrap wrapper x).typeBy .byCount = a.type.wrap? wrapper := by
    rw [typeBy, inner.type]
    rfl
  -- A branch `0` beside the argument determines the timelocks; the other wrappers copy them.
  cases wrapper with
  | v | s | a | n =>
    refine judgment_require rule ?_ ?_ inner.timelocks
    · simp
    · simp [Node.verified, Node.retyped, witnesses, inner.witnesses]
  | l | u =>
    refine judgment_require rule ?_ ?_ rfl
    · simp [ScriptType.zero, Node.zero]
    · simp [Node.zero, witnesses, inner.witnesses]

end Steps

end Miniscript

namespace Node

variable {required : Nat} {first : Node} {rest : List Node}

def AllWrapped (items : List Node) : Prop :=
  ∀ item ∈ items, item.type.isDissatisfiableUnit .wrapped = true

theorem judgment_mergeItems {before : Option Timelocks} {items : List Node} :
    Judgment (AllWrapped items) (∀ item ∈ items, before.isSome = true ∧ item.timelocks.isSome = true)
      (fun merged => before.isSome = true → merged.isSome = true) (mergeItems before items) := by
  induction items generalizing before with
  | nil => exact .ok (by simp [AllWrapped]) (by simp) id
  | cons item items ih =>
    unfold mergeItems
    by_cases fits : item.type.isDissatisfiableUnit .wrapped = true
    · rw [if_pos fits]
      have wrapped : AllWrapped (item :: items) ↔ AllWrapped items := by
        simp [AllWrapped, fits]
      -- The first item that misses its timelocks ends the search, whatever the later ones are.
      have missing (unknown : ¬ (before.isSome = true ∧ item.timelocks.isSome = true)) :
          Judgment (AllWrapped (item :: items))
            (∀ other ∈ item :: items, before.isSome = true ∧ other.timelocks.isSome = true)
            (fun merged : Option Timelocks => before.isSome = true → merged.isSome = true)
            (.error .undetermined) := by
        have never : ¬ ∀ other ∈ item :: items,
            before.isSome = true ∧ other.timelocks.isSome = true :=
          fun all => unknown (all item (List.mem_cons_self ..))
        by_cases later : AllWrapped items
        · exact .undetermined (wrapped.mpr later) never
        · exact .untyped (later ∘ wrapped.mp) (absurd · never)
      cases before with
      | none => exact missing (by simp)
      | some x =>
        cases right : item.timelocks with
        | none => exact missing (by simp [right])
        | some y =>
          refine (@ih (some (x.merge y))).congr wrapped.symm (by simp [right]) ?_
          intro _ _ merged holds _
          exact holds rfl
    · rw [if_neg fits]
      exact .untyped (fun all => fits (all item (List.mem_cons_self ..))) fun _ => rfl

theorem threshMany_eq_map (first : Node) (items : List Node) :
    threshMany first items =
      (mergeItems first.timelocks items).map fun timelocks => (timelocks, !mixesTimelocks timelocks) := by
  unfold threshMany
  cases mergeItems first.timelocks items <;> rfl

theorem judgment_threshTimelocks (more : required ≠ 1 → rest ≠ []) :
    Judgment (AllWrapped rest) (required ≠ 1 → ∀ item ∈ first :: rest, item.timelocks.isSome = true)
      (fun found => found.1.isNone = (required == 1)) (threshTimelocks required first rest) := by
  unfold threshTimelocks
  split
  · next one =>
    unfold threshOne
    split
    · next fits => exact .ok (List.all_eq_true.mp fits) (absurd one) (by simp [one])
    · next broken =>
      exact .untyped (fun all => broken (List.all_eq_true.mpr all)) fun _ => rfl
  · next many =>
    have known : (∀ item ∈ rest, first.timelocks.isSome = true ∧ item.timelocks.isSome = true) ↔
        (required ≠ 1 → ∀ item ∈ first :: rest, item.timelocks.isSome = true) := by
      obtain ⟨other, inside⟩ := List.exists_mem_of_ne_nil rest (more many)
      rw [List.forall_mem_cons]
      constructor
      · intro all _
        exact ⟨(all other inside).1, fun item member => (all item member).2⟩
      · intro all item member
        exact ⟨(all many).1, (all many).2 item member⟩
    rw [threshMany_eq_map]
    have found : Judgment (AllWrapped rest)
        (required ≠ 1 → ∀ item ∈ first :: rest, item.timelocks.isSome = true)
        (fun timelocks => timelocks.isSome = true) (mergeItems first.timelocks rest) :=
      judgment_mergeItems.congr .rfl known fun _ all merged holds =>
        holds (all many first (List.mem_cons_self ..))
    apply found.map
    intro timelocks found
    cases timelocks with
    | none => cases found
    | some x => simp [many]

def withWitnesses (required : Nat) (items : List Node) (found : Option Timelocks × Bool) :
    Except TypeFault Node :=
  match Witnesses.thresh? required (items.map witnesses) with
  | none => .error .undetermined
  | some together =>
    .ok
      { type := threshType items.length
        timelocks := found.1
        noTimelockMix := found.2
        witnesses := together }

theorem threshOf_eq_bind (required : Nat) (first : Node) (items : List Node) :
    threshOf required first items =
      (threshTimelocks required first items).bind (withWitnesses required (first :: items)) := by
  unfold threshOf
  cases threshTimelocks required first items <;> rfl

theorem judgment_withWitnesses {items : List Node} (found : Option Timelocks × Bool) :
    Judgment True ((Witnesses.thresh? required (items.map witnesses)).isSome = true)
      (fun node => node.type = threshType items.length ∧
        node.witnesses = .ofThresh required (items.map witnesses) ∧ node.timelocks = found.1)
      (withWitnesses required items found) := by
  unfold withWitnesses
  cases together : Witnesses.thresh? required (items.map witnesses) with
  | none => exact .undetermined trivial nofun
  | some w => exact .ok trivial rfl ⟨rfl, Witnesses.eq_ofThresh together, rfl⟩

theorem judgment_threshOf (more : required ≠ 1 → rest ≠ []) :
    Judgment (AllWrapped rest)
      ((required ≠ 1 → ∀ item ∈ first :: rest, item.timelocks.isSome = true) ∧
        (Witnesses.thresh? required ((first :: rest).map witnesses)).isSome = true)
      (fun node => node.type = threshType (first :: rest).length ∧
        node.witnesses = .ofThresh required ((first :: rest).map witnesses) ∧
        node.timelocks.isNone = (required == 1))
      (threshOf required first rest) := by
  rw [threshOf_eq_bind, ← and_true (AllWrapped rest)]
  apply (judgment_threshTimelocks more).bind
  intro found hidden
  refine (judgment_withWitnesses found).congr .rfl .rfl fun _ _ node ⟨type, together, timelocks⟩ => ?_
  exact ⟨type, together, by rw [timelocks, hidden]⟩

end Node

namespace Miniscript

section Threshold

variable {items : List Miniscript} {xs : List Node}

theorem typesBy_of_describes (each : List.Forall₂ (fun item a => a.Describes item) items xs) :
    typesBy .byCount items = some (xs.map Node.type) :=
  typesBy_eq_some_iff.mpr (List.forall₂_map_right_iff.mpr (each.imp fun _ _ => (·.type)))

theorem judgment_thresh (required : Nat)
    (each : List.Forall₂ (fun item a => a.Describes item) items xs) :
    Judgment ((thresh required items).Typed .byCount) (thresh required items).IsDetermined
      (Node.Describes · (thresh required items)) (Node.thresh required xs) := by
  have rule : (thresh required items).typeBy .byCount =
      if ScriptType.areItems required (xs.map Node.type) then some (Node.threshType xs.length)
      else none := by
    rw [typeBy, typesBy_of_describes each, Option.bind_some, ThreshRule.byCount, List.length_map]
  have together : xs.map Node.witnesses = items.map witnesses :=
    (each.imp fun _ _ => (·.witnesses)).map_eq
  have hidden : xs.map (·.timelocks.isNone) = items.map hidesTimelocks :=
    (each.imp fun _ _ => (·.timelocks)).map_eq
  have known : (∀ a ∈ xs, a.timelocks.isSome = true) ↔
      ∀ item ∈ items, item.hidesTimelocks = false := by
    have same : (∀ shown ∈ xs.map (·.timelocks.isNone), shown = false) ↔
        ∀ shown ∈ items.map hidesTimelocks, shown = false := by
      rw [hidden]
    simpa only [List.forall_mem_map, Option.isNone_eq_false_iff] using same
  cases xs with
  | nil => exact .untyped (by simp [Typed, rule, ScriptType.areItems]) fun _ => rfl
  | cons first rest =>
    have accepted : (thresh required items).Typed .byCount ↔
        (decide (1 ≤ required) && decide (required ≤ (first :: rest).length) &&
          first.type.isDissatisfiableUnit .base) = true ∧ Node.AllWrapped rest := by
      simp [Typed, rule, ScriptType.areItems, Node.AllWrapped]
    simp only [Node.thresh]
    split
    · next fits =>
      have more : required ≠ 1 → rest ≠ [] := by
        rintro many rfl
        simp at fits
        omega
      refine (Node.judgment_threshOf more).congr (by rw [accepted, and_iff_right fits]) ?_ ?_
      · rw [IsDetermined, known, together]
      · rintro ⟨t, found⟩ _ node ⟨type, own, timelocks⟩
        rw [rule, Option.ite_none_right_eq_some] at found
        refine ⟨?_, ?_, timelocks⟩
        · rw [rule, if_pos found.1, type]
        · rw [own, together, witnesses, witnessesOfAll_eq_map]
    · next broken => exact .untyped (fun typed => broken (accepted.mp typed).1) fun _ => rfl

end Threshold

theorem both_eq_bind (first second : Except TypeFault Node)
    (f : Node → Node → Except TypeFault Node) :
    (match first, second with
      | .error fault, _ => Except.error fault
      | .ok _, .error fault => Except.error fault
      | .ok a, .ok b => f a b) = first.bind fun a => second.bind fun b => f a b := by
  cases first <;> cases second <;> rfl

theorem node_orD (x y : Miniscript) :
    (orD x y).node = x.node.bind fun a => y.node.bind fun b => Node.orD a b :=
  both_eq_bind x.node y.node Node.orD

section Parts

variable {m x y : Miniscript}

theorem judgment_leaf {result : Except TypeFault Node} (single : m.subscripts = [m])
    (own : m.IsDetermined)
    (judgment : Judgment (m.Typed .byCount) True (Node.Describes · m) result) :
    Judgment (m.Typed .byCount) m.Determined (Node.Describes · m) result :=
  judgment.congr .rfl (by simp [determined_leaf single own]) fun _ _ _ => id

theorem judgment_both {first second : Except TypeFault Node} {f : Node → Node → Except TypeFault Node}
    (left : Judgment (x.Typed .byCount) x.Determined (Node.Describes · x) first)
    (right : Judgment (y.Typed .byCount) y.Determined (Node.Describes · y) second)
    (typed : m.Typed .byCount → x.Everywhere (Typed .byCount) ∧ y.Everywhere (Typed .byCount))
    (determined : m.Determined ↔ x.Determined ∧ y.Determined)
    (step : ∀ {a b}, a.Describes x → b.Describes y →
      Judgment (m.Typed .byCount) True (Node.Describes · m) (f a b)) :
    Judgment (m.Typed .byCount) m.Determined (Node.Describes · m)
      (match first, second with
        | .error fault, _ => Except.error fault
        | .ok _, .error fault => Except.error fault
        | .ok a, .ok b => f a b) := by
  rw [both_eq_bind]
  have parts := left.bind fun a here => right.bind fun b there => step here there
  refine parts.congr ?_ ?_ fun _ _ _ => id
  · exact ⟨fun all => all.2.2, fun all => ⟨(typed all).1.self, (typed all).2.self, all⟩⟩
  · rw [determined, and_true]

end Parts

mutual

theorem judgment_node (m : Miniscript) :
    Judgment (m.Typed .byCount) m.Determined (Node.Describes · m) m.node := by
  match m with
  | .zero | .key _ => exact .ok ⟨_, rfl⟩ (determined_leaf rfl trivial) ⟨rfl, rfl, rfl⟩
  | .after value | .older value =>
    exact judgment_leaf rfl trivial (judgment_require (by rw [typeBy]; rfl) Iff.rfl rfl rfl)
  | .hash algorithm digest =>
    exact judgment_leaf rfl trivial (judgment_require (by rw [typeBy]; rfl) beq_iff_eq rfl rfl)
  | .andV left right =>
    exact judgment_both (judgment_node left) (judgment_node right)
      (fun typed => (everywhere_andV.mp (everywhere_typed typed)).2) determined_andV judgment_andV
  | .orD left right =>
    exact judgment_both (judgment_node left) (judgment_node right)
      (fun typed => (everywhere_orD.mp (everywhere_typed typed)).2) determined_orD judgment_orD
  | .orI left right =>
    exact judgment_both (judgment_node left) (judgment_node right)
      (fun typed => (everywhere_orI.mp (everywhere_typed typed)).2) determined_orI judgment_orI
  | .thresh required items =>
    rw [node_thresh]
    have parts := (judgment_nodes items).bind fun xs each => judgment_thresh required each
    refine parts.congr ?_ ?_ fun _ _ _ => id
    · refine ⟨And.right, fun typed => ⟨fun item member => ?_, typed⟩⟩
      exact ((everywhere_thresh.mp (everywhere_typed typed)).2 item member).self
    · rw [determined_thresh, and_comm]
  | .wrap wrapper argument =>
    rw [node_wrap]
    have parts := (judgment_node argument).bind fun a inner => judgment_wrap wrapper inner
    refine parts.congr ?_ ?_ fun _ _ _ => id
    · exact ⟨And.right, fun typed => ⟨(everywhere_wrap.mp (everywhere_typed typed)).2.self, typed⟩⟩
    · rw [determined_wrap, and_true]

theorem judgment_nodes (items : List Miniscript) :
    Judgment (∀ item ∈ items, item.Typed .byCount) (∀ item ∈ items, item.Determined)
      (fun xs => List.Forall₂ (fun item a => a.Describes item) items xs) (nodes items) := by
  match items with
  | [] => exact .ok nofun nofun .nil
  | item :: items =>
    rw [nodes_cons, List.forall_mem_cons, List.forall_mem_cons]
    exact (judgment_node item).bind fun a here => (judgment_nodes items).map fun xs => .cons here

end

theorem describes_of_node {m : Miniscript} {node : Node} (typed : m.node = .ok node) :
    node.Describes m := by
  have judgment := judgment_node m
  rw [typed] at judgment
  cases judgment with
  | ok _ _ describes => exact describes

theorem exists_node {m : Miniscript} (typed : m.Typed .byCount) (determined : m.Determined) :
    ∃ node, m.node = .ok node :=
  (judgment_node m).exists_ok typed determined

theorem node_of_undetermined {m : Miniscript} (typed : m.Typed .byCount)
    (unknown : ¬ m.Determined) : m.node = .error .undetermined := by
  have judgment := judgment_node m
  cases found : m.node with
  | ok node =>
    rw [found] at judgment
    cases judgment with
    | ok _ known _ => exact absurd known unknown
  | error fault =>
    rw [found] at judgment
    cases judgment with
    | undetermined => rfl
    | untyped noType _ => exact absurd typed noType

theorem determined_iff {m : Miniscript} (typed : m.Typed .byCount) :
    m.Determined ↔ ∃ node, m.node = .ok node := by
  refine ⟨exists_node typed, fun ⟨node, built⟩ => ?_⟩
  by_contra unknown
  rw [node_of_undetermined typed unknown] at built
  cases built

end Miniscript

end SpendPolicy
