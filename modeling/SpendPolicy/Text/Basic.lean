import SpendPolicy.Text.CharClass

set_option autoImplicit false

namespace SpendPolicy

abbrev Text := List Char

def blanks : CharClass :=
  [(0x09, 0x0D), (0x1C, 0x20), (0x85, 0x85), (0xA0, 0xA0), (0x1680, 0x1680), (0x2000, 0x200A),
   (0x2028, 0x2029), (0x202F, 0x202F), (0x205F, 0x205F), (0x3000, 0x3000)]

def isBlank (c : Char) : Bool :=
  blanks.contains c

def isAscii (c : Char) : Bool :=
  decide (c.toNat < 128)

def isAsciiDigit (c : Char) : Bool :=
  decide ('0' ≤ c) && decide (c ≤ '9')

namespace Text

def asString (s : Text) : String :=
  String.ofList s

def trimLeft (s : Text) : Text :=
  s.dropWhile isBlank

def trimRight (s : Text) : Text :=
  (s.reverse.dropWhile isBlank).reverse

def trim (s : Text) : Text :=
  trimRight (trimLeft s)

def cut? (mark : Char) : Text → Option (Text × Text)
  | [] => none
  | c :: s =>
    if c = mark then some ([], s)
    else (cut? mark s).map fun (before, after) => (c :: before, after)

def parts (mark : Char) : Text → List Text
  | [] => [[]]
  | c :: s =>
    if c = mark then [] :: parts mark s
    else match parts mark s with
      | [] => [[c]]
      | part :: rest => (c :: part) :: rest

def commaSeparated (parts : List Text) : Text :=
  List.intercalate [','] parts

def lower (s : Text) : Text :=
  s.map Char.toLower

theorem length_trimLeft_le (s : Text) : (trimLeft s).length ≤ s.length :=
  (List.dropWhile_suffix isBlank).length_le

theorem length_of_cut? {mark : Char} {s before after : Text}
    (h : cut? mark s = some (before, after)) : after.length < s.length := by
  induction s generalizing before after with
  | nil => simp [cut?] at h
  | cons c s ih =>
    by_cases hc : c = mark
    · simp [cut?, hc] at h
      simp [← h.2]
    · simp only [cut?, hc, if_false, Option.map_eq_some_iff] at h
      obtain ⟨⟨b, a⟩, hcut, heq⟩ := h
      have := ih hcut
      simp only [Prod.mk.injEq] at heq
      simp only [List.length_cons, ← heq.2]
      omega

end Text

end SpendPolicy
