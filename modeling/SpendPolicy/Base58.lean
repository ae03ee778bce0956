import SpendPolicy.Sha256
import SpendPolicy.Numeral.Positional
import SpendPolicy.Text.Quoted

set_option autoImplicit false

namespace SpendPolicy.Base58

def alphabet : List Char :=
  ['1', '2', '3', '4', '5', '6', '7', '8', '9',
   'A', 'B', 'C', 'D', 'E', 'F', 'G', 'H', 'J', 'K', 'L', 'M', 'N', 'P', 'Q', 'R', 'S', 'T', 'U',
   'V', 'W', 'X', 'Y', 'Z',
   'a', 'b', 'c', 'd', 'e', 'f', 'g', 'h', 'i', 'j', 'k', 'm', 'n', 'o', 'p', 'q', 'r', 's', 't',
   'u', 'v', 'w', 'x', 'y', 'z']

inductive DecodeError where
  | invalidCharacter (c : Char)
  | tooShort
  | checksumMismatch
deriving DecidableEq, Repr

def DecodeError.message : DecodeError → String
  | .invalidCharacter c =>
    s!"Character {Text.asString (Quoted.encode [c])} is not a valid base58 character"
  | .tooShort => "base58 string is too short to have a checksum"
  | .checksumMismatch => "Checksum failed"

def encode (bytes : Bytes) : Text :=
  let n := Positional.value 256 (bytes.map UInt8.toNat)
  List.replicate (bytes.takeWhile (· == 0)).length '1'
    ++ (Positional.digits 58 n).map fun d => alphabet.getD d '1'

def digitValue (c : Char) : Except DecodeError Nat :=
  match alphabet.idxOf? c with
  | some d => .ok d
  | none => .error (.invalidCharacter c)

def digitValues : Text → Except DecodeError (List Nat)
  | [] => .ok []
  | c :: s => do return (← digitValue c) :: (← digitValues s)

def decode (s : Text) : Except DecodeError Bytes := do
  let digits ← digitValues s
  -- The number does not show leading zeros, so they are counted in the text.
  return List.replicate (s.takeWhile (· == '1')).length 0
    ++ (Positional.digits 256 (Positional.value 58 digits)).map UInt8.ofNat

def checksum (payload : Bytes) : Bytes :=
  (Sha256.hashTwice payload).take 4

def encodeCheck (payload : Bytes) : Text :=
  encode (payload ++ checksum payload)

def openCheck (bytes : Bytes) : Except DecodeError Bytes :=
  let payload := bytes.take (bytes.length - 4)
  if bytes.length < 4 then .error .tooShort
  else if bytes.drop (bytes.length - 4) = checksum payload then .ok payload
  else .error .checksumMismatch

def decodeCheck (s : Text) : Except DecodeError Bytes := do
  openCheck (← decode s)

end SpendPolicy.Base58
