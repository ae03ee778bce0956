import SpendPolicy.Proofs.Lowering.Meaning
import SpendPolicy.Proofs.Miniscript.Nodes
import SpendPolicy.Proofs.Policy.WellFormed

set_option autoImplicit false

namespace SpendPolicy

open Lowering Miniscript

def Miniscript.outline : Typing := fun m =>
  match m.typeBy .byCount with
  | some type => .ok ⟨type, none, true, m.witnesses⟩
  | none => .error .requirement

section Search

variable {α : Type} {script : α → Miniscript} {fits : Miniscript → Node → Bool}

def isTyped (script : α → Miniscript) (candidate : α) : Bool :=
  ((script candidate).typeBy .byCount).isSome

def isFitting (script : α → Miniscript) (fits : Miniscript → Node → Bool) (candidate : α) : Bool :=
  match outline (script candidate) with
  | .ok node => fits (script candidate) node
  | .error _ => false

theorem chooseFrom_outline (fallback : Option α) (candidates : List α) :
    chooseFrom outline script fits fallback candidates =
      .ok ((candidates.find? (isFitting script fits)).or
        (fallback.or (candidates.find? (isTyped script)))) := by
  induction candidates generalizing fallback with
  | nil => simp [chooseFrom]
  | cons candidate rest ih =>
    cases typed : (script candidate).typeBy .byCount with
    | none =>
      have refused : outline (script candidate) = .error .requirement := by simp [outline, typed]
      simp [chooseFrom, refused, ih, isFitting, isTyped, typed]
    | some type =>
      have node : outline (script candidate) = .ok ⟨type, none, true, (script candidate).witnesses⟩ := by
        simp [outline, typed]
      by_cases fit : fits (script candidate) ⟨type, none, true, (script candidate).witnesses⟩ = true
      · simp [chooseFrom, node, fit, isFitting]
      · simp [chooseFrom, node, fit, ih, isFitting, isTyped, typed]

theorem isFitting_iff {candidate : α} : isFitting script fits candidate = true ↔
    ∃ node, outline (script candidate) = .ok node ∧ fits (script candidate) node = true := by
  unfold isFitting
  cases outline (script candidate) <;> simp

end Search

theorem outline_eq_ok_iff {m : Miniscript} {node : Node} :
    m.outline = .ok node ↔
      ∃ type, m.typeBy .byCount = some type ∧ node = ⟨type, none, true, m.witnesses⟩ := by
  unfold outline
  cases m.typeBy .byCount <;> simp [eq_comm]

namespace Miniscript

def IsBase (m : Miniscript) : Prop :=
  ∃ type, m.typeBy .byCount = some type ∧ type.base = .base

def Suits (expected : BaseType) (m : Miniscript) : Prop :=
  ∃ type, m.typeBy .byCount = some type ∧ type.isDissatisfiableUnit expected = true

end Miniscript

section Pick

variable {candidates : List Miniscript}

theorem exists_pick (fits : Miniscript → Node → Bool)
    (some : ∃ candidate ∈ candidates, candidate.Typed .byCount) :
    ∃ m ∈ candidates, pick outline fits candidates = .ok m ∧ m.Typed .byCount := by
  simp only [pick, choose, chooseFrom_outline, Option.none_or]
  cases fitting : candidates.find? (isFitting id fits) with
  | some m =>
    obtain ⟨node, typed, _⟩ := isFitting_iff.mp (List.find?_some fitting)
    obtain ⟨type, found, _⟩ := outline_eq_ok_iff.mp typed
    exact ⟨m, List.mem_of_find?_eq_some fitting, rfl, type, found⟩
  | none =>
    have first : (candidates.find? (isTyped id)).isSome = true := by
      obtain ⟨candidate, member, type, found⟩ := some
      exact List.find?_isSome.mpr ⟨candidate, member, by simp [isTyped, found]⟩
    obtain ⟨m, found⟩ := Option.isSome_iff_exists.mp first
    have typed : isTyped id m = true := List.find?_some found
    rw [found]
    exact ⟨m, List.mem_of_find?_eq_some found, rfl, Option.isSome_iff_exists.mp typed⟩

theorem exists_pick_suiting {expected : BaseType}
    (some : ∃ candidate ∈ candidates, candidate.Suits expected) :
    ∃ m ∈ candidates, pick outline (isDissatisfiableUnit expected) candidates = .ok m ∧
      m.Suits expected := by
  have fits : (candidates.find? (isFitting id (isDissatisfiableUnit expected))).isSome = true := by
    obtain ⟨candidate, member, type, found, suits⟩ := some
    exact List.find?_isSome.mpr
      ⟨candidate, member, by simp [isFitting, outline, found, isDissatisfiableUnit, suits]⟩
  obtain ⟨m, found⟩ := Option.isSome_iff_exists.mp fits
  obtain ⟨node, typed, suits⟩ := isFitting_iff.mp (List.find?_some found)
  obtain ⟨type, shown, rfl⟩ := outline_eq_ok_iff.mp typed
  refine ⟨m, List.mem_of_find?_eq_some found, ?_, type, shown, suits⟩
  simp only [pick, choose, chooseFrom_outline, found, Option.some_or]

section Candidates

variable {x y : Miniscript}

theorem isBase_of_orD {type : ScriptType} (typed : (orD x y).typeBy .byCount = some type) :
    type.base = .base := by
  simp only [typeBy, Option.bind_eq_some_iff, ScriptType.orD?, Option.ite_none_right_eq_some,
    Option.some.injEq] at typed
  obtain ⟨a, _, b, _, _, rfl⟩ := typed
  rfl

theorem isBase_orI (first : x.IsBase) (second : y.IsBase) : (orI x y).IsBase := by
  obtain ⟨a, leftType, leftBase⟩ := first
  obtain ⟨b, rightType, rightBase⟩ := second
  simp [IsBase, typeBy, leftType, rightType, ScriptType.orI?, leftBase, rightBase]

theorem exists_pick_or (first : x.IsBase) (second : y.IsBase) :
    ∃ m ∈ orCandidates x y, pick outline isNonmalleable (orCandidates x y) = .ok m ∧ m.IsBase := by
  obtain ⟨both, built, base⟩ := isBase_orI first second
  have inside : orI x y ∈ orCandidates x y := by simp [orCandidates]
  obtain ⟨m, member, picked, type, typed⟩ := exists_pick isNonmalleable ⟨orI x y, inside, _, built⟩
  refine ⟨m, member, picked, type, typed, ?_⟩
  rcases mem_orCandidates.mp member with rfl | rfl | rfl
  · exact isBase_of_orD typed
  · exact isBase_of_orD typed
  · rw [built, Option.some.injEq] at typed
    rw [← typed, base]

theorem suits_optional (base : x.IsBase) : (Lowering.optional x).Suits .base := by
  obtain ⟨a, typed, base⟩ := base
  simp [Suits, Lowering.optional, typeBy, typed, ScriptType.wrap?, ScriptType.orI?, ScriptType.zero,
    base, ScriptType.isDissatisfiableUnit]

theorem exists_pick_first (base : x.IsBase) :
    ∃ m ∈ firstCandidates x,
      pick outline (isDissatisfiableUnit .base) (firstCandidates x) = .ok m ∧ m.Suits .base :=
  exists_pick_suiting ⟨Lowering.optional x, by simp [firstCandidates], suits_optional base⟩

theorem exists_pick_item (base : x.IsBase) :
    ∃ m ∈ itemCandidates x,
      pick outline (isDissatisfiableUnit .wrapped) (itemCandidates x) = .ok m ∧ m.Suits .wrapped := by
  have wrapped : (wrap .a (Lowering.optional x)).Suits .wrapped := by
    obtain ⟨type, typed, suits⟩ := suits_optional base
    simp only [ScriptType.isDissatisfiableUnit, Bool.and_eq_true, beq_iff_eq] at suits
    simp [Suits, typeBy, typed, ScriptType.wrap?, ScriptType.isDissatisfiableUnit, suits]
  exact exists_pick_suiting ⟨wrap .a (Lowering.optional x), by simp [itemCandidates], wrapped⟩

end Candidates

end Pick

structure Follows {α : Type} (determined : Prop) (a : α) (byTypes byNodes : Except LoweringFault α) :
    Prop where
  types : byTypes = .ok a
  nodes : byNodes = .ok a ∨ ¬ determined ∧ byNodes = .error (.untyped .undetermined)

namespace Follows

variable {α β : Type} {determined determined' : Prop} {a : α} {b : β}
  {byTypes byNodes : Except LoweringFault α}

theorem bind (follows : Follows determined a byTypes byNodes) {f g : α → Except LoweringFault β}
    (next : Follows determined' b (f a) (g a)) (part : determined' → determined) :
    Follows determined' b (byTypes.bind f) (byNodes.bind g) := by
  constructor
  · rw [follows.types]
    exact next.types
  · rcases follows.nodes with same | ⟨unknown, stops⟩
    · rw [same]
      exact next.nodes
    · rw [stops]
      exact .inr ⟨unknown ∘ part, rfl⟩

theorem map (follows : Follows determined a byTypes byNodes) (f : α → β)
    (part : determined' → determined) :
    Follows determined' (f a) (byTypes.map f) (byNodes.map f) := by
  constructor
  · rw [follows.types]
    rfl
  · rcases follows.nodes with same | ⟨unknown, stops⟩
    · rw [same]
      exact .inl rfl
    · rw [stops]
      exact .inr ⟨unknown ∘ part, rfl⟩

theorem weaken (follows : Follows determined a byTypes byNodes) (part : determined' → determined) :
    Follows determined' a byTypes byNodes :=
  ⟨follows.types, follows.nodes.imp id (And.imp_left (mt part))⟩

theorem refl (determined : Prop) (a : α) : Follows determined a (.ok a) (.ok a) :=
  ⟨rfl, .inl rfl⟩

end Follows

section Picks

variable {fits : Miniscript → Node → Bool} {first m : Miniscript} {rest : List Miniscript}

def TypeOnly (fits : Miniscript → Node → Bool) : Prop :=
  ∀ m (x y : Node), x.type = y.type → fits m x = fits m y

theorem typeOnly_isNonmalleable : TypeOnly isNonmalleable :=
  fun _ _ _ _ => rfl

theorem typeOnly_isDissatisfiableUnit (expected : BaseType) :
    TypeOnly (isDissatisfiableUnit expected) := by
  intro m x y same
  simp only [isDissatisfiableUnit, same]

theorem map_node_eq_outline (only : TypeOnly fits) (determined : m.Determined) :
    m.node.map (fits m) = m.outline.map (fits m) := by
  have judgment := judgment_node m
  revert judgment
  generalize m.node = result
  intro judgment
  cases judgment with
  | @ok node type known describes =>
    have same : m.outline = .ok ⟨node.type, none, true, m.witnesses⟩ :=
      outline_eq_ok_iff.mpr ⟨_, describes.type, rfl⟩
    rw [same]
    exact congrArg Except.ok (only m node _ rfl)
  | undetermined type unknown => exact absurd determined unknown
  | untyped noType broken =>
    have missing : m.typeBy .byCount = none :=
      Option.eq_none_iff_forall_ne_some.mpr (not_exists.mp noType)
    simp [broken determined, outline, missing]

theorem follows_pick (only : TypeOnly fits) {determined : Prop}
    (same : ∀ candidate ∈ first :: rest, candidate.Determined ↔ determined)
    (stops : ¬ determined → first.node = .error .undetermined)
    (picked : pick outline fits (first :: rest) = .ok m) :
    Follows determined m (pick outline fits (first :: rest)) (pick node fits (first :: rest)) := by
  refine ⟨picked, ?_⟩
  by_cases known : determined
  · have agree := fun candidate member =>
      map_node_eq_outline only ((same candidate member).mpr known)
    exact .inl ((pick_congr agree).trans picked)
  · refine .inr ⟨known, ?_⟩
    simp [pick, choose, chooseFrom, stops known]

section Parts

variable {x y : Miniscript}

theorem exists_follows_or (first : x.IsBase) (second : y.IsBase) :
    ∃ m, m.IsBase ∧ (m.Determined ↔ x.Determined ∧ y.Determined) ∧
      Follows (x.Determined ∧ y.Determined) m (pick outline isNonmalleable (orCandidates x y))
        (pick node isNonmalleable (orCandidates x y)) := by
  obtain ⟨m, member, picked, base⟩ := exists_pick_or first second
  have same : ∀ candidate ∈ orCandidates x y,
      candidate.Determined ↔ x.Determined ∧ y.Determined := by
    simp [orCandidates, and_comm]
  refine ⟨m, base, same m member, follows_pick typeOnly_isNonmalleable same ?_ picked⟩
  intro unknown
  obtain ⟨_, leftType, _⟩ := first
  obtain ⟨_, rightType, _⟩ := second
  rw [node_orD]
  by_cases left : x.Determined
  · obtain ⟨a, built⟩ := exists_node ⟨_, leftType⟩ left
    rw [built, node_of_undetermined ⟨_, rightType⟩ fun right => unknown ⟨left, right⟩]
    rfl
  · rw [node_of_undetermined ⟨_, leftType⟩ left]
    rfl

theorem exists_follows_first (base : x.IsBase) :
    ∃ m, m.Suits .base ∧ (m.Determined ↔ x.Determined) ∧
      Follows x.Determined m (pick outline (isDissatisfiableUnit .base) (firstCandidates x))
        (pick node (isDissatisfiableUnit .base) (firstCandidates x)) := by
  obtain ⟨m, member, picked, suits⟩ := exists_pick_first base
  have same : ∀ candidate ∈ firstCandidates x, candidate.Determined ↔ x.Determined := by
    simp [firstCandidates, Lowering.optional]
  obtain ⟨_, typed, _⟩ := base
  exact ⟨m, suits, same m member, follows_pick (typeOnly_isDissatisfiableUnit .base) same
    (node_of_undetermined ⟨_, typed⟩) picked⟩

theorem exists_follows_item (base : x.IsBase) :
    ∃ m, m.Suits .wrapped ∧ (m.Determined ↔ x.Determined) ∧
      Follows x.Determined m (pick outline (isDissatisfiableUnit .wrapped) (itemCandidates x))
        (pick node (isDissatisfiableUnit .wrapped) (itemCandidates x)) := by
  obtain ⟨m, member, picked, suits⟩ := exists_pick_item base
  have same : ∀ candidate ∈ itemCandidates x, candidate.Determined ↔ x.Determined := by
    simp [itemCandidates, Lowering.optional]
  refine ⟨m, suits, same m member, follows_pick (typeOnly_isDissatisfiableUnit .wrapped) same ?_ picked⟩
  intro unknown
  obtain ⟨_, typed, _⟩ := base
  rw [node_wrap, node_of_undetermined ⟨_, typed⟩ unknown]
  rfl

end Parts

end Picks

section Threshold

variable {xs : List Miniscript}

theorem exists_types {items : List Miniscript} (suit : ∀ item ∈ items, item.Suits .wrapped) :
    ∃ types, typesBy .byCount items = some types ∧ types.length = items.length ∧
      types.all (ScriptType.isDissatisfiableUnit .wrapped) = true := by
  induction items with
  | nil => exact ⟨[], rfl, rfl, rfl⟩
  | cons item items ih =>
    obtain ⟨here, later⟩ := List.forall_mem_cons.mp suit
    obtain ⟨type, typed, fits⟩ := here
    obtain ⟨types, each, count, all⟩ := ih later
    exact ⟨type :: types, by simp [typesBy, typed, each], by simp [count], by simp [fits, all]⟩

theorem isBase_thresh {required : Nat} {first : Miniscript} {items : List Miniscript}
    (positive : 1 ≤ required) (bounded : required ≤ items.length + 1) (head : first.Suits .base)
    (tail : ∀ item ∈ items, item.Suits .wrapped) : (thresh required (first :: items)).IsBase := by
  obtain ⟨type, typed, fits⟩ := head
  obtain ⟨types, each, count, all⟩ := exists_types tail
  have accepted : ScriptType.areItems required (type :: types) = true := by
    simp only [ScriptType.areItems, List.length_cons, count, fits, all, Bool.and_true,
      Bool.and_eq_true, decide_eq_true_eq]
    exact ⟨positive, bounded⟩
  refine ⟨ThreshRule.byCount (type :: types), ?_, rfl⟩
  simp [typeBy, typesBy, typed, each, accepted]

theorem exists_follows_items (bases : ∀ x ∈ xs, x.IsBase) :
    ∃ items, (∀ item ∈ items, item.Suits .wrapped) ∧ items.length = xs.length ∧
      ((∀ item ∈ items, item.Determined) ↔ ∀ x ∈ xs, x.Determined) ∧
      Follows (∀ x ∈ xs, x.Determined) items (pickItems outline xs) (pickItems node xs) := by
  induction xs with
  | nil => exact ⟨[], by simp, rfl, by simp, .refl _ []⟩
  | cons x xs ih =>
    obtain ⟨base, others⟩ := List.forall_mem_cons.mp bases
    obtain ⟨item, suits, same, here⟩ := exists_follows_item base
    obtain ⟨items, suit, count, alike, later⟩ := ih others
    refine ⟨item :: items, List.forall_mem_cons.mpr ⟨suits, suit⟩, by simp [count], ?_, ?_⟩
    · rw [List.forall_mem_cons, List.forall_mem_cons, same, alike]
    · rw [pickItems_cons, pickItems_cons]
      exact here.bind (later.map (item :: ·) fun all => (List.forall_mem_cons.mp all).2)
        fun all => (List.forall_mem_cons.mp all).1

theorem exists_follows_thresh {required : Nat} (positive : 1 ≤ required)
    (bounded : required ≤ xs.length) (bases : ∀ x ∈ xs, x.IsBase) :
    ∃ m, m.IsBase ∧ (m.Determined → ∀ x ∈ xs, x.Determined) ∧
      Follows (∀ x ∈ xs, x.Determined) m (Lowering.thresh outline required xs)
        (Lowering.thresh node required xs) := by
  cases xs with
  | nil =>
    rw [List.length_nil] at bounded
    omega
  | cons x xs =>
    obtain ⟨base, others⟩ := List.forall_mem_cons.mp bases
    obtain ⟨first, suits, same, here⟩ := exists_follows_first base
    obtain ⟨items, suit, count, alike, later⟩ := exists_follows_items others
    refine ⟨.thresh required (first :: items), ?_, ?_, ?_⟩
    · exact isBase_thresh positive (by rw [count]; exact bounded) suits suit
    · intro determined
      obtain ⟨head, tail⟩ := List.forall_mem_cons.mp (determined_thresh.mp determined).2
      exact List.forall_mem_cons.mpr ⟨same.mp head, alike.mp tail⟩
    · rw [thresh_cons, thresh_cons]
      exact here.bind
        (later.map (fun items => Miniscript.thresh required (first :: items))
          fun all => (List.forall_mem_cons.mp all).2)
        fun all => (List.forall_mem_cons.mp all).1

end Threshold

namespace Policy

structure Lowers (policy : Policy) (m : Miniscript) : Prop where
  base : m.IsBase
  follows : Follows m.Determined m (policy.lowerBy outline) (policy.lowerBy node)

theorem lowers_leaf {policy : Policy} {m : Miniscript} {type : ScriptType}
    (lowered : ∀ typing, policy.lowerBy typing = .ok m) (typed : m.typeBy .byCount = some type)
    (base : type.base = .base) : policy.Lowers m :=
  ⟨⟨type, typed, base⟩, lowered outline, .inl (lowered node)⟩

theorem isBase_and {x y : Miniscript} (first : x.IsBase) (second : y.IsBase) :
    (andV (verified x) y).IsBase := by
  obtain ⟨a, leftType, leftBase⟩ := first
  obtain ⟨b, rightType, rightBase⟩ := second
  simp [IsBase, verified, typeBy, leftType, rightType, ScriptType.wrap?, ScriptType.andV?, leftBase,
    rightBase]

mutual

theorem exists_lowers {policy : Policy} (wellFormed : policy.WellFormed) :
    ∃ m, policy.Lowers m := by
  match policy with
  | .key name => exact ⟨.key name, lowers_leaf (fun _ => rfl) rfl rfl⟩
  | .after value => exact ⟨.after value, lowers_leaf (fun _ => rfl) (if_pos wellFormed) rfl⟩
  | .older value => exact ⟨.older value, lowers_leaf (fun _ => rfl) (if_pos wellFormed) rfl⟩
  | .hash algorithm digest =>
    exact ⟨.hash algorithm digest, lowers_leaf (fun _ => rfl) (if_pos wellFormed) rfl⟩
  | .and left right =>
    obtain ⟨x, first⟩ := exists_lowers wellFormed.1
    obtain ⟨y, second⟩ := exists_lowers wellFormed.2
    refine ⟨.andV (verified x) y, isBase_and first.base second.base, ?_⟩
    rw [lowerBy_and, lowerBy_and]
    have parts : (andV (verified x) y).Determined ↔ x.Determined ∧ y.Determined := by
      simp [verified]
    exact first.follows.bind (second.follows.map (andV (verified x)) fun all => (parts.mp all).2)
      fun all => (parts.mp all).1
  | .or left right =>
    obtain ⟨x, first⟩ := exists_lowers wellFormed.1
    obtain ⟨y, second⟩ := exists_lowers wellFormed.2
    obtain ⟨m, base, same, either⟩ := exists_follows_or first.base second.base
    refine ⟨m, base, ?_⟩
    rw [lowerBy_or, lowerBy_or, same]
    exact first.follows.bind (second.follows.bind either And.right) And.left
  | .thresh required items =>
    obtain ⟨positive, bounded, _, each⟩ := wellFormed
    obtain ⟨xs, bases, count, all⟩ := exists_lowersAll each
    rw [← count] at bounded
    obtain ⟨m, base, parts, whole⟩ := exists_follows_thresh positive bounded bases
    refine ⟨m, base, ?_⟩
    rw [lowerBy_thresh, lowerBy_thresh]
    exact all.bind (whole.weaken parts) parts
  | .unknown => exact wellFormed.elim

theorem exists_lowersAll {items : List Policy} (each : AllWellFormed items) :
    ∃ xs, (∀ x ∈ xs, x.IsBase) ∧ xs.length = items.length ∧
      Follows (∀ x ∈ xs, x.Determined) xs (lowerAllBy outline items) (lowerAllBy node items) := by
  match items with
  | [] => exact ⟨[], by simp, rfl, .refl _ []⟩
  | item :: items =>
    obtain ⟨x, here⟩ := exists_lowers each.1
    obtain ⟨xs, bases, count, later⟩ := exists_lowersAll each.2
    refine ⟨x :: xs, List.forall_mem_cons.mpr ⟨here.base, bases⟩, by simp [count], ?_⟩
    rw [lowerAllBy_cons, lowerAllBy_cons]
    exact here.follows.bind (later.map (x :: ·) fun all => (List.forall_mem_cons.mp all).2)
      fun all => (List.forall_mem_cons.mp all).1

end

end Policy

end SpendPolicy
