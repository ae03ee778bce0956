import SpendPolicy.Proofs.Miniscript.Renaming
import SpendPolicy.Proofs.Miniscript.RoundTrip
import SpendPolicy.Proofs.Substitution.Reinsertion

set_option autoImplicit false

namespace SpendPolicy.Miniscript

open Extraction

theorem isWrapped_rename {f : Text → Text} (m : Miniscript) :
    isWrapped (m.rename f).text = isWrapped m.text := by
  match m with
  | .zero | .after _ | .older _ | .hash _ _ => rfl
  | .key _ | .andV _ _ | .orD _ _ | .orI _ _ | .thresh _ _ =>
    exact (isWrapped_form (by decide) _).trans (isWrapped_form (by decide) _).symm
  | .wrap wrapper argument => exact (isWrapped_wrap _ _).trans (isWrapped_wrap _ _).symm

variable {s : Text}

theorem restores_wrap {f : Text → Text} {argument : Miniscript} (wrapper : Wrapper)
    (inner : Restores s (argument.rename f).text argument.text) :
    Restores s ((wrap wrapper argument).rename f).text (wrap wrapper argument).text := by
  have letter : 'k' ∉ [wrapper.letter] := by cases wrapper <;> decide
  change Restores s (attach [wrapper.letter] (argument.rename f).text)
    (attach [wrapper.letter] argument.text)
  rw [attach, attach, isWrapped_rename]
  split
  · exact (restores_plain letter).append inner
  · have colon : 'k' ∉ [wrapper.letter, ':'] := by cases wrapper <;> decide
    exact (restores_plain colon).append inner

theorem restores_pair {name left right left' right' : Text} (plain : 'k' ∉ name)
    (first : Restores s left left') (second : Restores s right right') :
    Restores s (Form.call name [left, right]) (Form.call name [left', right']) :=
  restores_call plain (.cons first (.cons second .nil))

theorem restores_leaf {name argument : Text} (named : 'k' ∉ name) (plain : 'k' ∉ argument) :
    Restores s (Form.call name [argument]) (Form.call name [argument]) :=
  restores_call named (.cons (restores_plain plain) .nil)

mutual

theorem restores_text {m : Miniscript} (names : ∀ name ∈ m.keys, name ∈ contents s) :
    Restores s (m.rename (placeholderOf (contents s))).text m.text := by
  match m with
  | .zero => exact @restores_plain s ['0'] (by decide)
  | .key name => exact restores_key (names name (List.mem_singleton_self name))
  | .after value | .older value =>
    exact restores_leaf (by decide) (Numeral.notMem_ofNat (by decide))
  | .hash algorithm digest =>
    have named : 'k' ∉ algorithm.name := by cases algorithm <;> decide
    exact restores_leaf named fun member => absurd (Hex.mem_digits_of_encode member) (by decide)
  | .andV left right | .orD left right | .orI left right =>
    obtain ⟨first, second⟩ := List.forall_mem_append.mp names
    exact restores_pair (by decide) (restores_text first) (restores_text second)
  | .thresh required items =>
    have number : Restores s (Numeral.ofNat required) (Numeral.ofNat required) :=
      restores_plain (Numeral.notMem_ofNat (by decide))
    exact restores_call (by decide) (.cons number (restores_texts names))
  | .wrap wrapper argument =>
    exact restores_wrap wrapper (@restores_text argument names)

theorem restores_texts {items : List Miniscript} (names : ∀ name ∈ keysOfAll items, name ∈ contents s) :
    List.Forall₂ (Restores s) (texts (renameAll (placeholderOf (contents s)) items)) (texts items) := by
  match items with
  | [] => exact .nil
  | item :: items =>
    obtain ⟨first, later⟩ := List.forall_mem_append.mp names
    exact .cons (restores_text first) (restores_texts later)

end

end SpendPolicy.Miniscript
