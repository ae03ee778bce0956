import SpendPolicy.Proofs.Miniscript.Malleability
import SpendPolicy.Proofs.Miniscript.Types

set_option autoImplicit false

namespace SpendPolicy.Miniscript

open Environment (keyless)

mutual

/-- Whether a script can be dissatisfied with all preimages and timelocks at hand and no signature. -/
def dissatisfiable : Miniscript → Bool
  | .zero | .key _ | .hash _ _ => true
  | .after _ | .older _ => false
  | .andV left right => left.satisfied keyless && right.dissatisfiable
  | .orD left right => left.dissatisfiable && right.dissatisfiable
  | .orI left right => left.dissatisfiable || right.dissatisfiable
  | .thresh _ items => allDissatisfiable items
  | .wrap wrapper argument =>
    match wrapper with
    | .v => false
    | .s | .a | .n => argument.dissatisfiable
    | .l | .u => true

def allDissatisfiable : List Miniscript → Bool
  | [] => true
  | item :: items => item.dissatisfiable && allDissatisfiable items

end

mutual

theorem dissatisfiable_of_d {m : Miniscript} {t : ScriptType} (typed : m.typeBy .byCount = some t)
    (d : t.d = true) : m.dissatisfiable = true := by
  match m with
  | .zero | .key _ | .hash _ _ => rfl
  | .after _ | .older _ =>
    simp only [typeBy, Option.ite_none_right_eq_some] at typed
    cases typed.2
    cases d
  | .andV left right =>
    simp only [typeBy, Option.bind_eq_some_iff, ScriptType.andV?, Option.ite_none_right_eq_some] at typed
    obtain ⟨_, _, _, _, _, found⟩ := typed
    cases found
    cases d
  | .orD left right =>
    simp only [typeBy, Option.bind_eq_some_iff, ScriptType.orD?, ScriptType.isDissatisfiableUnit,
      Option.ite_none_right_eq_some, Bool.and_eq_true] at typed
    obtain ⟨x, first, y, second, ⟨⟨⟨_, leftD⟩, _⟩, _⟩, found⟩ := typed
    cases found
    exact Bool.and_eq_true_iff.mpr ⟨dissatisfiable_of_d first leftD, dissatisfiable_of_d second d⟩
  | .orI left right =>
    simp only [typeBy, Option.bind_eq_some_iff, ScriptType.orI?, Option.ite_none_right_eq_some] at typed
    obtain ⟨x, first, y, second, _, found⟩ := typed
    cases found
    exact Bool.or_eq_true_iff.mpr ((Bool.or_eq_true_iff.mp d).imp (dissatisfiable_of_d first)
      (dissatisfiable_of_d second))
  | .thresh required items =>
    simp only [typeBy, Option.bind_eq_some_iff, Option.ite_none_right_eq_some] at typed
    obtain ⟨types, each, fit, _⟩ := typed
    exact allDissatisfiable_of_d each (ScriptType.d_of_areItems fit)
  | .wrap wrapper argument =>
    simp only [typeBy, Option.bind_eq_some_iff] at typed
    obtain ⟨x, inner, wrapped⟩ := typed
    have beneath : x.d = true → argument.dissatisfiable = true := dissatisfiable_of_d inner
    cases wrapper with
    | v =>
      simp only [ScriptType.wrap?, Option.ite_none_right_eq_some] at wrapped
      cases wrapped.2
      cases d
    | s | a | n =>
      simp only [ScriptType.wrap?, Option.ite_none_right_eq_some] at wrapped
      cases wrapped.2
      exact beneath d
    | l | u => rfl

theorem allDissatisfiable_of_d {items : List Miniscript} {types : List ScriptType}
    (typed : typesBy .byCount items = some types) (d : ∀ t ∈ types, t.d = true) :
    allDissatisfiable items = true := by
  match items with
  | [] => rfl
  | item :: items =>
    simp only [typesBy, Option.bind_eq_some_iff, Option.map_eq_some_iff] at typed
    obtain ⟨t, head, rest, tail, rfl⟩ := typed
    obtain ⟨first, others⟩ := List.forall_mem_cons.mp d
    exact Bool.and_eq_true_iff.mpr ⟨dissatisfiable_of_d head first, allDissatisfiable_of_d tail others⟩

end

theorem reference_forced_eq {m : Miniscript} (typed : m.Typed .byCount) :
    m.reference.forced = !m.dissatisfiable := by
  obtain ⟨t, found⟩ := id typed
  match m with
  | .zero | .key _ | .hash _ _ | .after _ | .older _ => rfl
  | .andV left right =>
    obtain ⟨_, _, second⟩ := everywhere_andV.mp (everywhere_typed typed)
    have needs := reference_needsSignature_eq left
    have forced := reference_forced_eq second.self
    change (left.reference.needsSignature || right.reference.forced) = _
    rw [needs, forced, ← Bool.not_and]
    rfl
  | .orD left right =>
    obtain ⟨_, _, second⟩ := everywhere_orD.mp (everywhere_typed typed)
    simp only [typeBy, Option.bind_eq_some_iff, ScriptType.orD?, ScriptType.isDissatisfiableUnit,
      Option.ite_none_right_eq_some, Bool.and_eq_true] at found
    obtain ⟨x, first, _, _, ⟨⟨⟨_, d⟩, _⟩, _⟩, _⟩ := found
    have forced := reference_forced_eq second.self
    change right.reference.forced = !(left.dissatisfiable && right.dissatisfiable)
    rw [forced, dissatisfiable_of_d first d, Bool.true_and]
  | .orI left right =>
    obtain ⟨_, first, second⟩ := everywhere_orI.mp (everywhere_typed typed)
    change (left.reference.forced && right.reference.forced) =
      !(left.dissatisfiable || right.dissatisfiable)
    rw [reference_forced_eq first.self, reference_forced_eq second.self, Bool.not_or]
  | .thresh required items =>
    simp only [typeBy, Option.bind_eq_some_iff, Option.ite_none_right_eq_some] at found
    obtain ⟨types, each, fit, _⟩ := found
    change false = !allDissatisfiable items
    rw [allDissatisfiable_of_d each (ScriptType.d_of_areItems fit), Bool.not_true]
  | .wrap wrapper argument =>
    obtain ⟨_, inner⟩ := everywhere_wrap.mp (everywhere_typed typed)
    have beneath : argument.reference.forced = !argument.dissatisfiable := reference_forced_eq inner.self
    cases wrapper with
    | v | l => rfl
    | s | a | n => exact beneath
    | u => exact Bool.and_false _

/-- What keeps the shortcut of the analysis for `and_v` harmless: if the second part needs a signature, it needs
one to be dissatisfied too, unless the first part needs one anyway. -/
def IsBinding : Miniscript → Prop
  | .andV x y =>
    y.spending.needsSignature = true → x.satisfied keyless = true → y.dissatisfiable = false
  | _ => True

def HasSoundForce (m : Miniscript) : Prop :=
  m.spending.forced = true → m.dissatisfiable = false

theorem HasSoundForce.isBinding {m : Miniscript} (sound : m.HasSoundForce) : m.IsBinding := by
  match m with
  | .andV x y =>
    intro needs spendable
    have forced : (andV x y).spending.forced = true := Bool.or_eq_true_iff.mpr (.inr needs)
    have neither : (x.satisfied keyless && y.dissatisfiable) = false := sound forced
    rwa [spendable, Bool.true_and] at neither
  | .zero | .key _ | .hash _ _ | .after _ | .older _ => trivial
  | .orD _ _ | .orI _ _ | .thresh _ _ | .wrap _ _ => trivial

theorem hasSoundForce {m : Miniscript} (binding : m.Everywhere IsBinding) : m.HasSoundForce := by
  intro forced
  match m with
  | .zero | .key _ | .hash _ _ | .thresh _ _ => cases forced
  | .after _ | .older _ => rfl
  | .andV x y =>
    obtain ⟨own, _, _⟩ := everywhere_andV.mp binding
    change (x.satisfied keyless && y.dissatisfiable) = false
    rcases Bool.or_eq_true_iff.mp forced with first | second
    · rw [not_satisfied_of_needsSignature first, Bool.false_and]
    · cases spendable : x.satisfied keyless with
      | false => rfl
      | true => exact own second spendable
  | .orD x y =>
    obtain ⟨_, left, _⟩ := everywhere_orD.mp binding
    change (x.dissatisfiable && y.dissatisfiable) = false
    rw [hasSoundForce left (Bool.and_eq_true_iff.mp forced).1, Bool.false_and]
  | .orI x y =>
    obtain ⟨_, left, right⟩ := everywhere_orI.mp binding
    obtain ⟨first, second⟩ := Bool.and_eq_true_iff.mp forced
    exact Bool.or_eq_false_iff.mpr ⟨hasSoundForce left first, hasSoundForce right second⟩
  | .wrap wrapper x =>
    obtain ⟨_, inner⟩ := everywhere_wrap.mp binding
    have beneath : x.HasSoundForce := hasSoundForce inner
    cases wrapper with
    | v => rfl
    | s | a | n => exact beneath forced
    | l => cases forced
    | u => cases (Bool.and_eq_true_iff.mp forced).2

theorem everywhere_hasSoundForce_iff {m : Miniscript} :
    m.Everywhere HasSoundForce ↔ m.Everywhere IsBinding :=
  ⟨fun sound => sound.imp fun _ => HasSoundForce.isBinding,
    fun binding _ inside => hasSoundForce (binding.within inside)⟩

end SpendPolicy.Miniscript
