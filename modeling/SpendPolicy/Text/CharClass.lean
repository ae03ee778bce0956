set_option autoImplicit false

namespace SpendPolicy

/-- The ranges of a class, ascending, both ends included. -/
abbrev CharClass := List (Nat × Nat)

def CharClass.containsCode : CharClass → Nat → Bool
  | [], _ => false
  | (low, high) :: rest, code =>
    decide (low ≤ code) && (decide (code ≤ high) || CharClass.containsCode rest code)

def CharClass.contains (ranges : CharClass) (c : Char) : Bool :=
  ranges.containsCode c.toNat

end SpendPolicy
