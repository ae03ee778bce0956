import SpendPolicy.Substitution.KeyMap

set_option autoImplicit false

namespace SpendPolicy.KeyMap

def replacement (m : KeyMap) (placeholder : Text) : Text :=
  (m.get? placeholder).getD []

def leading? (placeholders : List Text) (s : Text) : Option Text :=
  placeholders.find? fun p => p.isPrefixOf s

def reinsertFrom (m : KeyMap) (placeholders : List Text) (s : Text) : Text :=
  -- Replaces, given the placeholders longest first. The empty placeholder is found wherever no
  -- other is, before each character that stays and at the end.
  match s with
  | [] => m.replacement []
  | c :: rest =>
    match leading? placeholders (c :: rest) with
    | some (p :: tail) =>
      m.replacement (p :: tail) ++ reinsertFrom m placeholders (rest.drop tail.length)
    | some [] | none => m.replacement [] ++ c :: reinsertFrom m placeholders rest
termination_by s.length
decreasing_by
  · simp only [List.length_drop, List.length_cons]
    omega
  · simp

def reinsert (m : KeyMap) (s : Text) : Text :=
  m.reinsertFrom m.placeholdersByLength s

end SpendPolicy.KeyMap
