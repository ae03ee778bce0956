import SpendPolicy.Proofs.Composition.Arity
import SpendPolicy.Proofs.Policy.Forms

set_option autoImplicit false

namespace SpendPolicy

inductive CompositionKind.Combines : CompositionKind → Option Int → List Policy → Policy → Prop
  | and (threshold : Option Int) (left right : Policy) :
      Combines .and threshold [left, right] (.and left right)
  | or (threshold : Option Int) (left right : Policy) :
      Combines .or threshold [left, right] (.or left right)
  | threshold (required : Nat) (items : List Policy) :
      Combines .threshold (some required) items (.thresh required items)

namespace Composition

variable {kind : CompositionKind} {threshold : Option Int} {texts : List Text} {items : List Policy}
  {s expression : Text} {policy : Policy}

theorem read_combine (combines : kind.Combines threshold items policy)
    (reads : List.Forall₂ (fun s item => Policy.read s = .ok item) texts items)
    (admits : kind.Admits threshold texts.length) (countable : Numeral.Legible texts.length) :
    Policy.read (combine kind threshold texts) = .ok policy := by
  cases combines with
  | and =>
    obtain _ | ⟨first, _ | ⟨second, _ | _⟩⟩ := reads
    exact Policy.read_pair .and first second
  | or =>
    obtain _ | ⟨first, _ | ⟨second, _ | _⟩⟩ := reads
    exact Policy.read_pair .or first second
  | threshold required items =>
    obtain ⟨_, _, ⟨⟩, low, high⟩ := admits
    have same := reads.length_eq
    have legible : Numeral.Legible required := countable.mono (by omega)
    exact Policy.read_thresh (by omega) (by omega) legible reads

mutual

inductive Assembled : Text → Policy → Prop
  | given {s : Text} {policy : Policy} (reads : Policy.read s = .ok policy) : Assembled s policy
  | composed {kind : CompositionKind} {threshold : Option Int} {texts : List Text}
      {items : List Policy} {s : Text} {policy : Policy} (each : AssembledEach texts items)
      (countable : Numeral.Legible texts.length)
      (composed : compose kind (texts.map some) threshold = .ok s)
      (combines : kind.Combines threshold items policy) : Assembled s policy

inductive AssembledEach : List Text → List Policy → Prop
  | nil : AssembledEach [] []
  | cons {s : Text} {policy : Policy} {texts : List Text} {items : List Policy}
      (first : Assembled s policy) (others : AssembledEach texts items) :
      AssembledEach (s :: texts) (policy :: items)

end

theorem read_composed (composed : compose kind (texts.map some) threshold = .ok expression)
    (combines : kind.Combines threshold items policy)
    (reads : List.Forall₂ (fun s item => Policy.read s = .ok item) texts items)
    (countable : Numeral.Legible texts.length) : Policy.read expression = .ok policy := by
  obtain ⟨_, admits, rfl⟩ := compose_map_some_eq_ok_iff.mp composed
  exact read_combine combines reads admits countable

mutual

theorem Assembled.read_eq {s : Text} {policy : Policy} (assembled : Assembled s policy) :
    Policy.read s = .ok policy := by
  match assembled with
  | .given reads => exact reads
  | .composed each countable composed combines =>
    exact read_composed composed combines each.reads countable

theorem AssembledEach.reads {texts : List Text} {items : List Policy} (each : AssembledEach texts items) :
    List.Forall₂ (fun s item => Policy.read s = .ok item) texts items := by
  match each with
  | .nil => exact .nil
  | .cons first others => exact .cons first.read_eq others.reads

end

end Composition

end SpendPolicy
