import Mathlib.Data.List.Forall2
import SpendPolicy.Miniscript.Typing
import SpendPolicy.Proofs.Miniscript.Meaning
import SpendPolicy.Proofs.Miniscript.Subscripts

set_option autoImplicit false

namespace SpendPolicy

namespace ScriptType

def zero : ScriptType :=
  ⟨.base, true, false, false, true, true⟩

def oneArgument : ScriptType :=
  ⟨.base, false, true, true, true, true⟩

def timelock : ScriptType :=
  ⟨.base, true, false, false, false, false⟩

def andV? (x y : ScriptType) : Option ScriptType :=
  if x.base = .verify ∧ y.base ≠ .wrapped then
    some
      { base := y.base
        z := x.z && y.z
        o := (x.z && y.o) || (x.o && y.z)
        n := x.n || (x.z && y.n)
        u := y.u
        d := false }
  else none

def orD? (x y : ScriptType) : Option ScriptType :=
  if x.isDissatisfiableUnit .base = true ∧ y.base = .base then
    some ⟨.base, x.z && y.z, x.o && y.z, false, y.u, y.d⟩
  else none

def orI? (x y : ScriptType) : Option ScriptType :=
  if x.base = y.base ∧ x.base ≠ .wrapped then
    some ⟨x.base, false, x.z && y.z, false, x.u && y.u, x.d || y.d⟩
  else none

def wrap? (wrapper : Wrapper) (x : ScriptType) : Option ScriptType :=
  match wrapper with
  | .v => if x.base = .base then some { x with base := .verify, u := false, d := false } else none
  | .s =>
    if x.base = .base ∧ x.o = true then
      some { x with base := .wrapped, z := false, o := false, n := false }
    else none
  | .a =>
    if x.base = .base then some { x with base := .wrapped, z := false, o := false, n := false }
    else none
  | .n => if x.base = .base then some { x with u := true } else none
  | .l => orI? zero x
  | .u => orI? x zero

def areItems (required : Nat) : List ScriptType → Bool
  | [] => false
  | first :: rest =>
    decide (1 ≤ required) && decide (required ≤ (first :: rest).length)
      && first.isDissatisfiableUnit .base && rest.all (isDissatisfiableUnit .wrapped)

theorem d_of_areItems {required : Nat} {types : List ScriptType} (fit : areItems required types = true) :
    ∀ t ∈ types, t.d = true := by
  cases types with
  | nil => simp
  | cons first rest =>
    simp only [areItems, isDissatisfiableUnit, Bool.and_eq_true, List.all_eq_true] at fit
    obtain ⟨⟨_, ⟨_, d⟩, _⟩, others⟩ := fit
    exact List.forall_mem_cons.mpr ⟨d, fun t member => (others t member).1.2⟩

end ScriptType

abbrev ThreshRule := List ScriptType → ScriptType

namespace ThreshRule

def byCount : ThreshRule := fun items => Node.threshType items.length

/-- None of the items takes an argument, or one takes one and the others none. -/
def byItems : ThreshRule := fun items =>
  { base := .base
    z := items.all ScriptType.z
    o := items.countP ScriptType.o == 1 && items.all fun item => item.z || item.o
    n := false
    u := true
    d := true }

end ThreshRule

namespace Miniscript

mutual

def typeBy (rule : ThreshRule) : Miniscript → Option ScriptType
  | .zero => some .zero
  | .key _ => some .oneArgument
  | .after value | .older value => if Locktime.isInRange value then some .timelock else none
  | .hash algorithm digest =>
    if digest.length = algorithm.digestSize then some .oneArgument else none
  | .andV left right =>
    (left.typeBy rule).bind fun x => (right.typeBy rule).bind fun y => x.andV? y
  | .orD left right =>
    (left.typeBy rule).bind fun x => (right.typeBy rule).bind fun y => x.orD? y
  | .orI left right =>
    (left.typeBy rule).bind fun x => (right.typeBy rule).bind fun y => x.orI? y
  | .thresh required items =>
    (typesBy rule items).bind fun types =>
      if ScriptType.areItems required types then some (rule types) else none
  | .wrap wrapper argument => (argument.typeBy rule).bind fun x => x.wrap? wrapper

def typesBy (rule : ThreshRule) : List Miniscript → Option (List ScriptType)
  | [] => some []
  | item :: items =>
    (item.typeBy rule).bind fun x => (typesBy rule items).map fun types => x :: types

end

theorem typesBy_eq_some_iff {rule : ThreshRule} {items : List Miniscript}
    {types : List ScriptType} :
    typesBy rule items = some types ↔
      List.Forall₂ (fun item t => item.typeBy rule = some t) items types := by
  induction items generalizing types with
  | nil => simp [typesBy, eq_comm]
  | cons item items ih =>
    simp only [typesBy, Option.bind_eq_some_iff, Option.map_eq_some_iff, ih,
      List.forall₂_cons_left_iff]
    grind

end Miniscript

namespace ScriptType

structure Alike (x y : ScriptType) : Prop where
  base : y.base = x.base
  u : y.u = x.u
  d : y.d = x.d

structure Within (x y : ScriptType) : Prop where
  z : x.z = true → y.z = true
  o : x.o = true → y.o = true

def Agrees (rule : Option ScriptType) (bounded : Prop) (t : ScriptType) : Prop :=
  ∃ r, rule = some r ∧ Alike t r ∧ (bounded → Within t r)

theorem Agrees.imp {rule : Option ScriptType} {bounded other : Prop} {t : ScriptType}
    (agrees : Agrees rule bounded t) (less : other → bounded) : Agrees rule other t := by
  obtain ⟨r, again, alike, within⟩ := agrees
  exact ⟨r, again, alike, fun holds => within (less holds)⟩

theorem Alike.refl (x : ScriptType) : Alike x x :=
  ⟨rfl, rfl, rfl⟩

theorem Within.refl (x : ScriptType) : Within x x :=
  ⟨id, id⟩

theorem Alike.isDissatisfiableUnit {x y : ScriptType} (alike : Alike x y) (expected : BaseType) :
    y.isDissatisfiableUnit expected = x.isDissatisfiableUnit expected := by
  simp only [ScriptType.isDissatisfiableUnit, alike.base, alike.u, alike.d]

section Rules

variable {x y x' y' t : ScriptType}

theorem both_z (wx : Within x x') (wy : Within y y') (holds : (x.z && y.z) = true) :
    (x'.z && y'.z) = true := by
  rw [Bool.and_eq_true] at holds ⊢
  exact holds.imp wx.z wy.z

theorem agrees_andV (ax : Alike x x') (ay : Alike y y') (typed : andV? x y = some t) :
    Agrees (andV? x' y') (Within x x' ∧ Within y y') t := by
  unfold andV? at typed
  split at typed
  · next fits =>
    cases typed
    refine ⟨_, if_pos (by rwa [ax.base, ay.base]), ⟨ay.base, ay.u, rfl⟩, fun ⟨wx, wy⟩ => ?_⟩
    constructor
    · exact both_z wx wy
    · simp only [Bool.or_eq_true, Bool.and_eq_true]
      exact Or.imp (And.imp wx.z wy.o) (And.imp wx.o wy.z)
  · cases typed

theorem agrees_orD (ax : Alike x x') (ay : Alike y y') (typed : orD? x y = some t) :
    Agrees (orD? x' y') (Within x x' ∧ Within y y') t := by
  unfold orD? at typed
  split at typed
  · next fits =>
    cases typed
    refine ⟨_, if_pos (by rwa [ax.isDissatisfiableUnit, ay.base]), ⟨rfl, ay.u, ay.d⟩,
      fun ⟨wx, wy⟩ => ?_⟩
    constructor
    · exact both_z wx wy
    · simp only [Bool.and_eq_true]
      exact And.imp wx.o wy.z
  · cases typed

theorem agrees_orI (ax : Alike x x') (ay : Alike y y') (typed : orI? x y = some t) :
    Agrees (orI? x' y') (Within x x' ∧ Within y y') t := by
  unfold orI? at typed
  split at typed
  · next fits =>
    cases typed
    refine ⟨_, if_pos (by rwa [ax.base, ay.base]), ⟨ax.base, ?_, ?_⟩, fun ⟨wx, wy⟩ => ?_⟩
    · simp only [ax.u, ay.u]
    · simp only [ax.d, ay.d]
    · constructor
      · intro never
        cases never
      · exact both_z wx wy
  · cases typed

theorem agrees_wrap {wrapper : Wrapper} (ax : Alike x x')
    (single : wrapper = .s → x.o = true → x'.o = true) (typed : wrap? wrapper x = some t) :
    Agrees (wrap? wrapper x') (Within x x') t := by
  cases wrapper with
  | v =>
    simp only [wrap?, Option.ite_none_right_eq_some] at typed
    obtain ⟨base, ⟨⟩⟩ := typed
    exact ⟨_, if_pos (by rwa [ax.base]), ⟨rfl, rfl, rfl⟩, fun wx => ⟨wx.z, wx.o⟩⟩
  | s =>
    simp only [wrap?, Option.ite_none_right_eq_some] at typed
    obtain ⟨⟨base, one⟩, ⟨⟩⟩ := typed
    exact ⟨_, if_pos ⟨by rwa [ax.base], single rfl one⟩, ⟨rfl, ax.u, ax.d⟩, fun _ => ⟨id, id⟩⟩
  | a =>
    simp only [wrap?, Option.ite_none_right_eq_some] at typed
    obtain ⟨base, ⟨⟩⟩ := typed
    exact ⟨_, if_pos (by rwa [ax.base]), ⟨rfl, ax.u, ax.d⟩, fun _ => ⟨id, id⟩⟩
  | n =>
    simp only [wrap?, Option.ite_none_right_eq_some] at typed
    obtain ⟨base, ⟨⟩⟩ := typed
    exact ⟨_, if_pos (by rwa [ax.base]), ⟨ax.base, rfl, ax.d⟩, fun wx => ⟨wx.z, wx.o⟩⟩
  | l =>
    obtain ⟨r, again, alike, within⟩ := agrees_orI (.refl zero) ax typed
    exact ⟨r, again, alike, fun wx => within ⟨.refl zero, wx⟩⟩
  | u =>
    obtain ⟨r, again, alike, within⟩ := agrees_orI ax (.refl zero) typed
    exact ⟨r, again, alike, fun wx => within ⟨wx, .refl zero⟩⟩

theorem areItems_congr {required : Nat} {types others : List ScriptType}
    (each : List.Forall₂ Alike types others) :
    areItems required others = areItems required types := by
  have wrapped {rest later : List ScriptType} (each : List.Forall₂ Alike rest later) :
      later.all (isDissatisfiableUnit .wrapped) = rest.all (isDissatisfiableUnit .wrapped) := by
    induction each with
    | nil => rfl
    | cons here _ ih => simp only [List.all_cons, here.isDissatisfiableUnit, ih]
  cases each with
  | nil => rfl
  | cons here later =>
    simp only [areItems, List.length_cons, later.length_eq, here.isDissatisfiableUnit, wrapped later]

theorem agrees_both {rule : ScriptType → ScriptType → Option ScriptType} {x y t : ScriptType}
    {first second : Option ScriptType} {left right : Prop}
    (step : ∀ {x' y'}, Alike x x' → Alike y y' → Agrees (rule x' y') (Within x x' ∧ Within y y') t)
    (one : Agrees first left x) (two : Agrees second right y) :
    Agrees (first.bind fun x => second.bind fun y => rule x y) (left ∧ right) t := by
  obtain ⟨x', rfl, alikeX, withinX⟩ := one
  obtain ⟨y', rfl, alikeY, withinY⟩ := two
  obtain ⟨r, again, alike, within⟩ := step alikeX alikeY
  exact ⟨r, again, alike, fun both => within ⟨withinX both.1, withinY both.2⟩⟩

end Rules

end ScriptType

namespace Miniscript

open ScriptType

/-- What stands behind an `s:` wrapper takes exactly one argument. -/
def TakesOne : Miniscript → Prop
  | .wrap .s x => ∃ t, x.typeBy .byItems = some t ∧ t.o = true
  | _ => True

def Manifold (m : Miniscript) : Prop :=
  ∀ threshold ∈ m.thresholds, threshold.2 ≠ 1

section Manifold

variable {m x y : Miniscript}

theorem manifold_of_append (both : m.thresholds = x.thresholds ++ y.thresholds) :
    m.Manifold ↔ x.Manifold ∧ y.Manifold := by
  rw [Manifold, both]
  exact List.forall_mem_append

theorem manifold_thresh {required : Nat} {items : List Miniscript} :
    (thresh required items).Manifold ↔ items.length ≠ 1 ∧ ∀ item ∈ items, item.Manifold := by
  simp only [Manifold, thresholds, List.forall_mem_cons, thresholdsOfAll_eq_flatMap,
    List.mem_flatMap, forall_exists_index, and_imp]
  exact and_congr_right fun _ =>
    ⟨fun all item member threshold inside => all threshold item member inside,
      fun all threshold item member inside => all item member threshold inside⟩

end Manifold

-- Where every `s:` stands before one argument, both rules give a type; where no threshold has a single
-- item, the rule by the items gives `z` and `o` at least where the count does.
mutual

theorem agrees_typeBy {m : Miniscript} {t : ScriptType} (typed : m.typeBy .byCount = some t)
    (one : m.Everywhere TakesOne ∨ m.Manifold) : Agrees (m.typeBy .byItems) m.Manifold t := by
  match m with
  | .zero | .key _ | .after _ | .older _ | .hash _ _ =>
    exact ⟨t, typed, .refl t, fun _ => .refl t⟩
  | .andV left right =>
    simp only [typeBy, Option.bind_eq_some_iff] at typed
    obtain ⟨x, leftTyped, y, rightTyped, both⟩ := typed
    have parts := one.imp everywhere_andV.mp (manifold_of_append rfl).mp
    have first := agrees_typeBy leftTyped (parts.imp (·.2.1) (·.1))
    have second := agrees_typeBy rightTyped (parts.imp (·.2.2) (·.2))
    have agrees := agrees_both (fun ax ay => agrees_andV ax ay both) first second
    exact agrees.imp (manifold_of_append rfl).mp
  | .orD left right =>
    simp only [typeBy, Option.bind_eq_some_iff] at typed
    obtain ⟨x, leftTyped, y, rightTyped, both⟩ := typed
    have parts := one.imp everywhere_orD.mp (manifold_of_append rfl).mp
    have first := agrees_typeBy leftTyped (parts.imp (·.2.1) (·.1))
    have second := agrees_typeBy rightTyped (parts.imp (·.2.2) (·.2))
    have agrees := agrees_both (fun ax ay => agrees_orD ax ay both) first second
    exact agrees.imp (manifold_of_append rfl).mp
  | .orI left right =>
    simp only [typeBy, Option.bind_eq_some_iff] at typed
    obtain ⟨x, leftTyped, y, rightTyped, both⟩ := typed
    have parts := one.imp everywhere_orI.mp (manifold_of_append rfl).mp
    have first := agrees_typeBy leftTyped (parts.imp (·.2.1) (·.1))
    have second := agrees_typeBy rightTyped (parts.imp (·.2.2) (·.2))
    have agrees := agrees_both (fun ax ay => agrees_orI ax ay both) first second
    exact agrees.imp (manifold_of_append rfl).mp
  | .thresh required items =>
    simp only [typeBy, Option.bind_eq_some_iff, Option.ite_none_right_eq_some,
      Option.some.injEq] at typed
    obtain ⟨types, each, fits, rfl⟩ := typed
    have parts := one.imp everywhere_thresh.mp manifold_thresh.mp
    obtain ⟨others, again, alike⟩ := agrees_typesBy each (parts.imp (·.2) (·.2))
    refine ⟨ThreshRule.byItems others, ?_, ⟨rfl, rfl, rfl⟩, fun manifold => ?_⟩
    · rw [typeBy, again, Option.bind_some, areItems_congr alike, if_pos fits]
    · -- A threshold takes no argument only if it has a single item, by the count.
      have single : types.length ≠ 1 := by
        rw [← (typesBy_eq_some_iff.mp each).length_eq]
        exact (manifold_thresh.mp manifold).1
      exact ⟨fun zero => absurd (by simpa [ThreshRule.byCount, Node.threshType] using zero) single, nofun⟩
  | .wrap wrapper argument =>
    simp only [typeBy, Option.bind_eq_some_iff] at typed
    obtain ⟨x, inner, wrapped⟩ := typed
    obtain ⟨x', again, alike, within⟩ := agrees_typeBy inner (one.imp (everywhere_wrap.mp · |>.2) id)
    have single : wrapper = .s → x.o = true → x'.o = true := by
      rintro rfl taken
      rcases one with everywhere | manifold
      · obtain ⟨t, found, takes⟩ := (everywhere_wrap.mp everywhere).1
        rw [again, Option.some.injEq] at found
        rwa [found]
      · exact (within manifold).o taken
    rw [typeBy, again]
    exact (agrees_wrap alike single wrapped).imp within

theorem agrees_typesBy {items : List Miniscript} {types : List ScriptType}
    (typed : typesBy .byCount items = some types)
    (one : (∀ item ∈ items, item.Everywhere TakesOne) ∨ ∀ item ∈ items, item.Manifold) :
    ∃ others, typesBy .byItems items = some others ∧ List.Forall₂ Alike types others := by
  match items with
  | [] =>
    cases typed
    exact ⟨[], rfl, .nil⟩
  | item :: items =>
    simp only [typesBy, Option.bind_eq_some_iff, Option.map_eq_some_iff] at typed
    obtain ⟨t, head, rest, tail, rfl⟩ := typed
    have parts := one.imp List.forall_mem_cons.mp List.forall_mem_cons.mp
    obtain ⟨r, again, alike, _⟩ := agrees_typeBy head (parts.imp (·.1) (·.1))
    obtain ⟨others, later, each⟩ := agrees_typesBy tail (parts.imp (·.2) (·.2))
    exact ⟨r :: others, by rw [typesBy, again, later]; rfl, .cons alike each⟩

end

def Typed (rule : ThreshRule) (m : Miniscript) : Prop :=
  ∃ t, m.typeBy rule = some t

mutual

theorem everywhere_typed {rule : ThreshRule} {m : Miniscript} (typed : m.Typed rule) :
    m.Everywhere (Typed rule) := by
  obtain ⟨t, found⟩ := id typed
  match m with
  | .zero | .key _ | .after _ | .older _ | .hash _ _ =>
    intro sub inside
    rw [List.mem_singleton.mp inside]
    exact typed
  | .andV left right =>
    simp only [typeBy, Option.bind_eq_some_iff] at found
    obtain ⟨x, first, y, second, _⟩ := found
    exact everywhere_andV.mpr ⟨typed, everywhere_typed ⟨x, first⟩, everywhere_typed ⟨y, second⟩⟩
  | .orD left right =>
    simp only [typeBy, Option.bind_eq_some_iff] at found
    obtain ⟨x, first, y, second, _⟩ := found
    exact everywhere_orD.mpr ⟨typed, everywhere_typed ⟨x, first⟩, everywhere_typed ⟨y, second⟩⟩
  | .orI left right =>
    simp only [typeBy, Option.bind_eq_some_iff] at found
    obtain ⟨x, first, y, second, _⟩ := found
    exact everywhere_orI.mpr ⟨typed, everywhere_typed ⟨x, first⟩, everywhere_typed ⟨y, second⟩⟩
  | .thresh required items =>
    simp only [typeBy, Option.bind_eq_some_iff] at found
    obtain ⟨types, each, _⟩ := found
    exact everywhere_thresh.mpr ⟨typed, allEverywhere_typed each⟩
  | .wrap wrapper argument =>
    simp only [typeBy, Option.bind_eq_some_iff] at found
    obtain ⟨x, inner, _⟩ := found
    exact everywhere_wrap.mpr ⟨typed, everywhere_typed ⟨x, inner⟩⟩

theorem allEverywhere_typed {rule : ThreshRule} {items : List Miniscript} {types : List ScriptType}
    (typed : typesBy rule items = some types) : ∀ item ∈ items, item.Everywhere (Typed rule) := by
  match items with
  | [] => simp
  | item :: items =>
    simp only [typesBy, Option.bind_eq_some_iff, Option.map_eq_some_iff] at typed
    obtain ⟨t, head, rest, tail, _⟩ := typed
    exact List.forall_mem_cons.mpr ⟨everywhere_typed ⟨t, head⟩, allEverywhere_typed tail⟩

end

theorem takesOne_of_typed {m : Miniscript} (typed : m.Typed .byItems) : m.TakesOne := by
  match m with
  | .wrap .s x =>
    simp only [Typed, typeBy, Option.bind_eq_some_iff, wrap?, Option.ite_none_right_eq_some] at typed
    obtain ⟨_, t, found, ⟨_, takes⟩, _⟩ := typed
    exact ⟨t, found, takes⟩
  | .wrap .v _ | .wrap .a _ | .wrap .n _ | .wrap .l _ | .wrap .u _ | .zero | .key _ | .after _
  | .older _ | .hash _ _ | .andV _ _ | .orD _ _ | .orI _ _ | .thresh _ _ => trivial

theorem typed_byItems_iff {m : Miniscript} (typed : m.Typed .byCount) :
    m.Typed .byItems ↔ m.Everywhere TakesOne := by
  constructor
  · intro again
    exact (everywhere_typed again).imp fun _ => takesOne_of_typed
  · intro everywhere
    obtain ⟨t, found⟩ := typed
    obtain ⟨r, again, _⟩ := agrees_typeBy found (.inl everywhere)
    exact ⟨r, again⟩

theorem typed_byItems_of_manifold {m : Miniscript} (typed : m.Typed .byCount) (manifold : m.Manifold) :
    m.Typed .byItems := by
  obtain ⟨t, found⟩ := typed
  obtain ⟨r, again, _⟩ := agrees_typeBy found (.inr manifold)
  exact ⟨r, again⟩

end Miniscript

end SpendPolicy
