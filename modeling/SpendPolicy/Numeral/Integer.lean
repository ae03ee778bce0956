import SpendPolicy.Text.Basic
import SpendPolicy.Text.DecimalDigit
import SpendPolicy.Numeral.Positional

set_option autoImplicit false

namespace SpendPolicy.Numeral

def maxDigits : Nat := 4300

def ofNat (n : Nat) : Text :=
  Nat.toDigits 10 n

def ofInt : Int → Text
  | .ofNat n => ofNat n
  | .negSucc n => '-' :: ofNat (n + 1)

def readDigits? : Text → Option (List Nat)
  | [] => none
  | [c] => (digitValue? c).map fun d => [d]
  | c :: '_' :: s => do return (← digitValue? c) :: (← readDigits? s)
  | c :: next :: s => do return (← digitValue? c) :: (← readDigits? (next :: s))

def readUnsigned? (s : Text) : Option Nat :=
  match readDigits? s with
  | none => none
  | some ds => if ds.length ≤ maxDigits then some (Positional.value 10 ds) else none

def read? (s : Text) : Option Int :=
  match s.trim with
  | '-' :: r => (readUnsigned? r).map fun n => -(n : Int)
  | '+' :: r => (readUnsigned? r).map fun n => (n : Int)
  | r => (readUnsigned? r).map fun n => (n : Int)

end SpendPolicy.Numeral
