import SpendPolicy.Proofs.Lowering.Scope
import SpendPolicy.Proofs.Miniscript.Dissatisfaction
import SpendPolicy.Proofs.Miniscript.Nodes

set_option autoImplicit false

namespace SpendPolicy

open Miniscript (HasSoundForce IsBinding)

theorem forced_sound_iff {policy : Policy} {m : Miniscript} {node : Node}
    (lowered : policy.lowerTyped = .ok (m, node)) :
    (∀ sub ∈ m.subscripts, sub.reference.forced = true ↔ sub.dissatisfiable = false) ∧
      ((∀ sub ∈ m.subscripts, sub.spending.forced = true → sub.dissatisfiable = false) ↔
        ∀ sub ∈ m.subscripts, sub.IsBinding) := by
  have built := (Policy.steps_of_lowerTyped lowered).2
  have typed : m.Typed .byCount := ⟨node.type, (Miniscript.describes_of_node built).type⟩
  refine ⟨fun sub inside => ?_, Miniscript.everywhere_hasSoundForce_iff⟩
  rw [Miniscript.reference_forced_eq (Miniscript.everywhere_typed typed sub inside), Bool.not_eq_true']

theorem forced_sound_iff_key_first :
    ∃ m node, Policy.lowerTyped (.and (.key ['a']) (.after 10)) = .ok (m, node) ∧
      ∀ sub ∈ m.subscripts, sub.spending.forced = true → sub.dissatisfiable = false := by
  have lowered : Policy.lowerTyped (.and (.key ['a']) (.after 10)) =
      .ok (.andV (.wrap .v (.key ['a'])) (.after 10),
        ⟨⟨.base, false, true, true, false, false⟩, some ⟨true, false, false, false⟩, true,
          ⟨true, false⟩⟩) :=
    (lowerTyped_eq_ok_iff (by decide)).mpr ⟨rfl, rfl⟩
  refine ⟨_, _, lowered, (forced_sound_iff lowered).2.mpr ?_⟩
  exact Miniscript.everywhere_andV.mpr ⟨nofun, by
    simp [Miniscript.Everywhere, Miniscript.subscripts, IsBinding]⟩

theorem forced_but_dissatisfiable :
    ∃ m node, Policy.lowerTyped (.and (.after 10) (.key ['a'])) = .ok (m, node) ∧
      m.spending.forced = true ∧ m.dissatisfiable = true :=
  ⟨.andV (.wrap .v (.after 10)) (.key ['a']),
    ⟨⟨.base, false, true, true, true, false⟩, some ⟨true, false, false, false⟩, true,
      ⟨true, false⟩⟩,
    (lowerTyped_eq_ok_iff (by decide)).mpr ⟨rfl, rfl⟩, rfl, rfl⟩

end SpendPolicy
