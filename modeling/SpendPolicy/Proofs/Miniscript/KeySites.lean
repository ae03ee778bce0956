import SpendPolicy.Miniscript.Scope
import SpendPolicy.Proofs.Miniscript.RoundTrip
import SpendPolicy.Proofs.Substitution.Pieces

set_option autoImplicit false

namespace SpendPolicy

open Extraction

def Breaks (s : Text) : Prop :=
  ∀ c ∈ s.head?, isWordCharacter c = false

theorem breaks_cons {mark : Char} (ends : isWordCharacter mark = false) (s : Text) :
    Breaks (mark :: s) := by
  rintro c ⟨⟩
  exact ends

theorem written_outside (c : Char) (ps : List Piece) : written (.outside c :: ps) = written ps :=
  rfl

theorem written_break {s : Text} (breaks : Breaks s) (inWord : Bool) :
    written (piecesAfter inWord s) = written (piecesAfter false s) := by
  cases s with
  | nil => rw [piecesAfter_nil, piecesAfter_nil]
  | cons c s =>
    have ends := breaks c rfl
    rw [piecesAfter_mark ends, piecesAfter_mark ends]

theorem written_mark {mark : Char} (ends : isWordCharacter mark = false) (s : Text) :
    written (piecesAfter false (mark :: s)) = written (piecesAfter false s) := by
  rw [piecesAfter_mark ends]
  rfl

theorem written_run {run rest : Text} (noK : 'k' ∉ run) (breaks : Breaks rest) (inWord : Bool) :
    written (piecesAfter inWord (run ++ rest)) = written (piecesAfter false rest) := by
  induction run generalizing inWord with
  | nil => exact written_break breaks inWord
  | cons c run ih =>
    have tail : 'k' ∉ run := fun member => noK (by simp [member])
    have second : (run ++ rest).head? ≠ some 'k' := by
      intro first
      cases run with
      | nil => exact absurd (breaks 'k' first) (by decide +kernel)
      | cons d run =>
        cases first
        exact tail (by simp)
    have none : leadingKey? (c :: (run ++ rest)) = none := by
      unfold leadingKey?
      split
      · next same =>
        obtain ⟨_, same⟩ := List.cons.inj same
        exact absurd (by rw [same]; rfl) second
      · rfl
    rw [List.cons_append, piecesAfter_outside (.inr none), written_outside, ih tail]

def Shows (s : Text) (names : List Text) : Prop :=
  ∀ rest, Breaks rest →
    written (piecesAfter false (s ++ rest)) = names ++ written (piecesAfter false rest)

theorem shows_plain {s : Text} (noK : 'k' ∉ s) : Shows s [] :=
  fun _ breaks => written_run noK breaks false

theorem shows_key {name : Text} (flat : Flat name) : Shows (Form.key name) [name] := by
  intro rest _
  rw [piecesAfter_key flat]
  rfl

theorem Shows.call {name : Text} {arguments : List Text} {names : List Text} (noK : 'k' ∉ name)
    (inner : Shows (Text.commaSeparated arguments) names) : Shows (Form.call name arguments) names := by
  intro rest _
  have opens : isWordCharacter '(' = false := by decide +kernel
  have closes : isWordCharacter ')' = false := by decide +kernel
  rw [Form.call_append, written_run noK (breaks_cons opens _), written_mark opens,
    inner _ (breaks_cons closes rest), written_mark closes]

theorem Shows.comma {s t : Text} {first second : List Text} (left : Shows s first)
    (right : Shows t second) : Shows (s ++ ',' :: t) (first ++ second) := by
  intro rest breaks
  have ends : isWordCharacter ',' = false := by decide +kernel
  rw [List.append_assoc, List.cons_append, left _ (breaks_cons ends _), written_mark ends,
    right rest breaks, List.append_assoc]

theorem written_wrapped {s : Text} (wrapped : Miniscript.isWrapped s = true) (inWord : Bool)
    (rest : Text) :
    written (piecesAfter inWord (s ++ rest)) = written (piecesAfter false (s ++ rest)) := by
  have colon : (s.dropWhile Miniscript.wrapperLetters.contains).head? = some ':' := by
    simp only [Miniscript.isWrapped, Bool.and_eq_true, beq_iff_eq] at wrapped
    exact wrapped.2
  obtain ⟨tail, split⟩ := List.head?_eq_some_iff.mp colon
  have whole : s = s.takeWhile Miniscript.wrapperLetters.contains ++ ':' :: tail := by
    rw [← split, List.takeWhile_append_dropWhile]
  have noK : 'k' ∉ s.takeWhile Miniscript.wrapperLetters.contains := by
    intro member
    exact absurd (List.all_eq_true.mp List.all_takeWhile _ member) (by decide)
  have ends : isWordCharacter ':' = false := by decide +kernel
  rw [whole, List.append_assoc, List.cons_append, written_run noK (breaks_cons ends _),
    written_run noK (breaks_cons ends _)]

namespace Miniscript

theorem Shows.wrap {argument : Miniscript} {names : List Text} (inner : Shows argument.text names)
    (wrapper : Wrapper) : Shows (wrap wrapper argument).text names := by
  intro rest breaks
  have noP : wrapper.letter ≠ 'p' ∧ wrapper.letter ≠ 'k' := by cases wrapper <;> decide
  rcases text_wrap wrapper argument with ⟨wrapped, attached⟩ | attached
  · have none : leadingKey? (wrapper.letter :: (argument.text ++ rest)) = none := by
      unfold leadingKey?
      split
      · next same => exact absurd (List.cons.inj same).1 noP.1
      · rfl
    rw [attached, List.cons_append, piecesAfter_outside (.inr none), written_outside,
      written_wrapped wrapped, inner rest breaks]
  · have ends : isWordCharacter ':' = false := by decide +kernel
    have noK : 'k' ∉ [wrapper.letter] := by simp [Ne.symm noP.2]
    have first := written_run noK (breaks_cons ends (argument.text ++ rest)) false
    rw [List.singleton_append] at first
    rw [attached, List.cons_append, List.cons_append, first, written_mark ends, inner rest breaks]

theorem shows_single {name argument : Text} (noName : 'k' ∉ name) (noArgument : 'k' ∉ argument) :
    Shows (Form.call name [argument]) [] := by
  apply Shows.call noName
  simpa [Text.commaSeparated] using shows_plain noArgument

theorem shows_pair {name left right : Text} {first second : List Text} (noK : 'k' ∉ name)
    (shows_left : Shows left first) (shows_right : Shows right second) :
    Shows (Form.call name [left, right]) (first ++ second) := by
  apply Shows.call noK
  simpa [Text.commaSeparated, List.intercalate] using shows_left.comma shows_right

mutual

theorem shows_text {m : Miniscript} (flat : ∀ name ∈ m.keys, Flat name) : Shows m.text m.keys := by
  -- Every construct shows the keys of its parts; a wrapper shows none of its own.
  match m with
  | .zero => exact shows_plain (by decide)
  | .key name => exact shows_key (flat name (by simp [keys]))
  | .after value | .older value =>
    exact shows_single (by decide) (Numeral.notMem_ofNat (by decide))
  | .hash algorithm digest =>
    have noName : 'k' ∉ algorithm.name := by cases algorithm <;> decide
    exact shows_single noName fun member => absurd (Hex.mem_digits_of_encode member) (by decide)
  | .andV left right | .orD left right | .orI left right =>
    have first := shows_text (m := left) fun name member => flat name (List.mem_append_left _ member)
    have second := shows_text (m := right) fun name member => flat name (List.mem_append_right _ member)
    exact shows_pair (by decide) first second
  | .thresh required items =>
    have number : Shows (Numeral.ofNat required) [] := shows_plain (Numeral.notMem_ofNat (by decide))
    have inner := shows_texts flat
    apply Shows.call (by decide)
    change Shows (Text.commaSeparated (Numeral.ofNat required :: texts items)) (keysOfAll items)
    cases items with
    | nil => simpa [texts, keysOfAll, Text.commaSeparated] using number
    | cons item items =>
      rw [Text.commaSeparated_cons (by simp)]
      exact number.comma inner
  | .wrap wrapper argument => exact Shows.wrap (shows_text (m := argument) flat) wrapper

theorem shows_texts {items : List Miniscript} (flat : ∀ name ∈ keysOfAll items, Flat name) :
    Shows (Text.commaSeparated (texts items)) (keysOfAll items) := by
  match items with
  | [] => exact shows_plain (by simp [texts, Text.commaSeparated])
  | [item] =>
    have only := shows_text (m := item) fun name member => flat name (by simp [keysOfAll, member])
    simpa [texts, keysOfAll, Text.commaSeparated] using only
  | item :: other :: items =>
    have first := shows_text (m := item) fun name member => flat name (List.mem_append_left _ member)
    have rest : Shows (Text.commaSeparated (texts (other :: items))) (keysOfAll (other :: items)) :=
      shows_texts fun name member => flat name (List.mem_append_right _ member)
    have filled : texts (other :: items) ≠ [] := by simp
    change Shows (Text.commaSeparated (item.text :: texts (other :: items))) _
    rw [Text.commaSeparated_cons filled]
    exact first.comma rest

end

theorem written_text {m : Miniscript} (flat : ∀ name ∈ m.keys, Flat name) :
    written (pieces m.text) = m.keys := by
  have shown := shows_text flat [] (by simp [Breaks])
  rwa [List.append_nil, piecesAfter_nil, show written [] = [] from rfl, List.append_nil] at shown

theorem isReadableName_iff {name : Text} : isReadableName name = true ↔ Flat name := by
  simp [isReadableName, Flat]

theorem nodeWithin_eq_node {scope : List Text} {m : Miniscript}
    (readable : ∀ name ∈ m.keys, name ∈ scope ∧ Flat name) : nodeWithin scope m = m.node := by
  have flat : ∀ name ∈ m.keys, Flat name := fun name member => (readable name member).2
  have inScope : m.unscopedKey? scope = none := by
    unfold unscopedKey?
    rw [show (pieces m.text).filterMap Piece.key? = m.keys from written_text flat,
      List.find?_eq_none]
    intro name member
    simp [(readable name member).1]
  have all : m.keys.all isReadableName = true :=
    List.all_eq_true.mpr fun name member => isReadableName_iff.mpr (flat name member)
  simp only [nodeWithin, inScope, all, if_true]

theorem node_of_nodeWithin {scope : List Text} {m : Miniscript} {node : Node}
    (typed : nodeWithin scope m = .ok node) : m.node = .ok node := by
  unfold nodeWithin at typed
  split at typed
  · cases typed
  · split at typed
    · exact typed
    · cases typed

end Miniscript

end SpendPolicy
