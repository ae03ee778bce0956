import SpendPolicy.Policy.Form
import SpendPolicy.Substitution.KeyMap
import SpendPolicy.Text.WordCharacter

set_option autoImplicit false

namespace SpendPolicy

/-- A character outside the keys, or the content of one `pk(...)`. -/
inductive Piece where
  | outside (c : Char)
  | key (content : Text)
deriving DecidableEq, Repr

namespace Piece

def text : Piece → Text
  | .outside c => [c]
  | .key content => Form.key content

def key? : Piece → Option Text
  | .outside _ => none
  | .key content => some content

end Piece

namespace Extraction

def closing? : Text → Option (Text × Text)
  | [] => none
  | c :: s =>
    if c = ')' then some ([], s)
    else if c = '(' then none
    else (closing? s).map fun (content, rest) => (c :: content, rest)

def leadingKey? : Text → Option (Text × Text)
  | 'p' :: 'k' :: '(' :: s => closing? s
  | _ => none

theorem length_of_closing? {s content rest : Text} (h : closing? s = some (content, rest)) :
    rest.length < s.length := by
  induction s generalizing content with
  | nil => simp [closing?] at h
  | cons c s ih =>
    unfold closing? at h
    split at h
    · simp only [Option.some.injEq, Prod.mk.injEq] at h
      simp [← h.2]
    · split at h
      · simp at h
      · obtain ⟨⟨inner, tail⟩, hs, heq⟩ := Option.map_eq_some_iff.1 h
        simp only [Prod.mk.injEq] at heq
        have := ih (heq.2 ▸ hs)
        simp only [List.length_cons]
        omega

theorem length_of_leadingKey? {s content rest : Text}
    (h : leadingKey? s = some (content, rest)) : rest.length < s.length := by
  unfold leadingKey? at h
  split at h
  · have := length_of_closing? h
    simp only [List.length_cons]
    omega
  · simp at h

def piecesAfter (inWord : Bool) (s : Text) : List Piece :=
  -- The pieces of a text. No key begins inside a word, so it matters what stands before.
  match s with
  | [] => []
  | c :: rest =>
    match _h : if inWord then none else leadingKey? (c :: rest) with
    | some (content, tail) => .key content :: piecesAfter false tail
    | none => .outside c :: piecesAfter (isWordCharacter c) rest
termination_by s.length
decreasing_by
  · cases inWord
    · exact length_of_leadingKey? _h
    · simp at _h
  · simp

def pieces (s : Text) : List Piece :=
  piecesAfter false s

def contents (s : Text) : List Text :=
  ((pieces s).filterMap Piece.key?).eraseDups

def placeholder (n : Nat) : Text :=
  ['k', 'e', 'y'] ++ Numeral.ofNat n

def placeholderOf (contents : List Text) (content : Text) : Text :=
  placeholder (contents.idxOf content + 1)

def withPlaceholder (contents : List Text) : Piece → Text
  | .outside c => [c]
  | .key content => Form.key (placeholderOf contents content)

end Extraction

structure Extraction where
  template : Text
  keyMap : KeyMap
deriving DecidableEq, Repr

def Extraction.ofText (s : Text) : Extraction :=
  let contents := contents s
  { template := (pieces s).flatMap (withPlaceholder contents)
    keyMap := ⟨contents.map fun content => (placeholderOf contents content, content)⟩ }

end SpendPolicy
