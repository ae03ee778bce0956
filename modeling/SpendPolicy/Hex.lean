import SpendPolicy.Text.Basic

set_option autoImplicit false

namespace SpendPolicy

abbrev Bytes := List UInt8

namespace Hex

def digits : List Char :=
  ['0', '1', '2', '3', '4', '5', '6', '7', '8', '9', 'a', 'b', 'c', 'd', 'e', 'f']

def digitValue? (c : Char) : Option Nat :=
  digits.idxOf? c.toLower

def isDigit (c : Char) : Bool :=
  (digitValue? c).isSome

def isHex (s : Text) : Bool :=
  !s.isEmpty && s.all isDigit

def encodeByte (b : UInt8) : Text :=
  [digits.getD (b.toNat / 16) '0', digits.getD (b.toNat % 16) '0']

def encode (bytes : Bytes) : Text :=
  bytes.flatMap encodeByte

def isSpacing (c : Char) : Bool :=
  c = ' ' || ('\t' ≤ c && c ≤ '\r')

def decode? : Text → Option Bytes
  | [] => some []
  | [c] => if isSpacing c then some [] else none
  | high :: low :: s =>
    if isSpacing high then decode? (low :: s)
    else
      match digitValue? high, digitValue? low, decode? s with
      | some h, some l, some bytes => some (UInt8.ofNat (h * 16 + l) :: bytes)
      | _, _, _ => none

end Hex

end SpendPolicy
