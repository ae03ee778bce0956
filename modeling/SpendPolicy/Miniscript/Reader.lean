import SpendPolicy.Miniscript.Basic
import SpendPolicy.Policy.Reader

set_option autoImplicit false

namespace SpendPolicy.Miniscript

open Policy (Rest)

def wrapperOfLetter? (c : Char) : Option Wrapper :=
  Wrapper.all.find? fun w => w.letter == c

def leafOf? (name argument : Text) : Option Miniscript :=
  match Policy.Name.ofText? name with
  | some (.leaf .key) => some (.key argument)
  | some (.leaf .after) => (Numeral.readUnsigned? argument).map .after
  | some (.leaf .older) => (Numeral.readUnsigned? argument).map .older
  | some (.leaf (.hash algorithm)) => (Hex.decode? argument).map (.hash algorithm)
  | _ => none

def pairOf? (name : Text) (items : List Miniscript) : Option Miniscript :=
  match items with
  | [left, right] =>
    if name = ['a', 'n', 'd', '_', 'v'] then some (.andV left right)
    else if name = ['o', 'r', '_', 'd'] then some (.orD left right)
    else if name = ['o', 'r', '_', 'i'] then some (.orI left right)
    else none
  | _ => none

theorem length_lt_of_rest {s rest tail : Text} {mark : Char} (shorter : rest.length < s.length)
    (h : rest = mark :: tail) : tail.length < s.length := by
  rw [h, List.length_cons] at shorter
  omega

mutual

def readOne? (s : Text) : Option (Miniscript × Rest s) :=
  match s with
  | [] => none
  | '0' :: rest => some (.zero, ⟨rest, by simp⟩)
  | c :: rest =>
    match rest, isWrapped (c :: rest) with
    | ':' :: tail, true => do
      let wrapper ← wrapperOfLetter? c
      let (argument, last) ← readOne? tail
      return (.wrap wrapper argument, ⟨last.1, by have := last.2; simp only [List.length_cons]; omega⟩)
    | rest, true => do
      let wrapper ← wrapperOfLetter? c
      let (argument, last) ← readOne? rest
      return (.wrap wrapper argument, ⟨last.1, by have := last.2; simp only [List.length_cons]; omega⟩)
    | rest, false =>
      match h : Text.cut? '(' (c :: rest) with
      | none => none
      | some (name, body) =>
        if name = ['t', 'h', 'r', 'e', 's', 'h'] then
          match h' : Text.cut? ',' body with
          | none => none
          | some (required, list) => do
            let k ← Numeral.readUnsigned? required
            let (items, last) ← readMany? list
            return (.thresh k items,
              ⟨last.1, Nat.lt_trans last.2
                (Nat.lt_trans (Text.length_of_cut? h') (Text.length_of_cut? h))⟩)
        else if (Policy.Name.ofText? name).isSome then
          match h' : Text.cut? ')' body with
          | none => none
          | some (argument, last) => do
            let leaf ← leafOf? name argument
            return (leaf, ⟨last, Nat.lt_trans (Text.length_of_cut? h') (Text.length_of_cut? h)⟩)
        else do
          let (items, last) ← readMany? body
          let pair ← pairOf? name items
          return (pair, ⟨last.1, Nat.lt_trans last.2 (Text.length_of_cut? h)⟩)
termination_by 2 * s.length
decreasing_by
  · simp only [List.length_cons]
    omega
  · simp only [List.length_cons]
    omega
  · have := Text.length_of_cut? h
    have := Text.length_of_cut? h'
    simp only [List.length_cons] at *
    omega
  · have := Text.length_of_cut? h
    simp only [List.length_cons] at *
    omega

def readMany? (s : Text) : Option (List Miniscript × Rest s) :=
  match readOne? s with
  | none => none
  | some (item, rest) =>
    match h : rest.1 with
    | ')' :: tail => some ([item], ⟨tail, length_lt_of_rest rest.2 h⟩)
    | ',' :: tail =>
      match readMany? tail with
      | none => none
      | some (items, last) => some (item :: items, last.within (length_lt_of_rest rest.2 h))
    | _ => none
termination_by 2 * s.length + 1
decreasing_by
  · omega
  · have := length_lt_of_rest rest.2 h
    omega

end

def read? (s : Text) : Option Miniscript :=
  match readOne? s with
  | some (m, rest) => if rest.1 = [] then some m else none
  | none => none

end SpendPolicy.Miniscript
