import SpendPolicy.Base58
import SpendPolicy.Network
import SpendPolicy.Secp256k1
import SpendPolicy.Numeral.Integer

set_option autoImplicit false

namespace SpendPolicy

inductive KeyKind where
  | priv
  | pub
deriving DecidableEq, Repr

def KeyKind.name : KeyKind → String
  | .priv => "private"
  | .pub => "public"

def KeyKind.symbol : KeyKind → String
  | .priv => "xpriv"
  | .pub => "xpub"

structure ExtendedKey where
  version : Bytes
  depth : UInt8
  fingerprint : Bytes
  index : Bytes
  chainCode : Bytes
  material : Bytes
deriving DecidableEq, Repr

namespace ExtendedKey

inductive Fault where
  | network
  | privateScalar
  | publicPoint
  | rootFingerprint
  | rootIndex
deriving DecidableEq, Repr

def Fault.message : Fault → String
  | .network => "'network' must be one of 'main' or 'test'"
  | .privateScalar => "Invalid secp256k1 private key"
  | .publicPoint => "Invalid secp256k1 public key"
  | .rootFingerprint => "Fingerprint must be 0 if depth is 0 (master xpub)"
  | .rootIndex => "Index must be 0 if depth is 0 (master xpub)"

inductive DecodeError where
  | notAscii (c : Char) (first last : Nat)
  | invalidCharacter (c : Char)
  | checksumMismatch
  | wrongLength
  | privateMarker
  | unsound (kind : KeyKind) (fault : Fault)
deriving DecidableEq, Repr

def DecodeError.message : DecodeError → String
  | .notAscii c first last =>
    let shown := Text.asString (Quoted.escapeCode c)
    if first = last then
      s!"'ascii' codec can't encode character '{shown}' in position {first}: ordinal not in range(128)"
    else
      s!"'ascii' codec can't encode characters in position {first}-{last}: ordinal not in range(128)"
  | .invalidCharacter c => s!"Invalid character {Text.asString (Quoted.encode [c])}"
  | .checksumMismatch => "Invalid checksum"
  | .wrongLength => ""
  | .privateMarker => "Invalid xpriv: private key prefix must be 0"
  | .unsound kind fault => s!"Invalid {kind.symbol}: '{fault.message}'"

def firstForeign? (s : Text) : Option (Char × Nat × Nat) :=
  -- The first character outside ASCII, with the positions of the run that begins there.
  let first := (s.takeWhile isAscii).length
  match s.drop first with
  | [] => none
  | c :: rest => some (c, first, first + (rest.takeWhile fun c => !isAscii c).length)

def ofBytes? (bytes : Bytes) : Option ExtendedKey :=
  match bytes with
  | v0 :: v1 :: v2 :: v3 :: depth :: rest =>
    if bytes.length = 78 then
      some {
        version := [v0, v1, v2, v3]
        depth := depth
        fingerprint := rest.take 4
        index := (rest.drop 4).take 4
        chainCode := (rest.drop 8).take 32
        material := rest.drop 40 }
    else none
  | _ => none

def mainPrivate : Bytes := [0x04, 0x88, 0xAD, 0xE4]

def mainPublic : Bytes := [0x04, 0x88, 0xB2, 0x1E]

def testPrivate : Bytes := [0x04, 0x35, 0x83, 0x94]

def testPublic : Bytes := [0x04, 0x35, 0x87, 0xCF]

def isKnownVersion (version : Bytes) : Bool :=
  [mainPrivate, mainPublic, testPrivate, testPublic].contains version

def fault? (kind : KeyKind) (k : ExtendedKey) : Option Fault :=
  let isRoot := k.depth == 0
  if !isKnownVersion k.version then some .network
  else if kind == .priv && !Secp256k1.isPrivateScalar (k.material.drop 1) then
    some .privateScalar
  else if kind == .pub && !Secp256k1.isCompressedPoint k.material then some .publicPoint
  else if isRoot && k.fingerprint.any (· != 0) then some .rootFingerprint
  else if isRoot && k.index.any (· != 0) then some .rootIndex
  else none

def ofPayload (kind : KeyKind) (payload : Bytes) : Except DecodeError ExtendedKey :=
  match ofBytes? payload with
  | none => .error .wrongLength
  | some key =>
    if kind = .priv ∧ key.material.head? ≠ some 0 then .error .privateMarker
    else match fault? kind key with
      | some fault => .error (.unsound kind fault)
      | none => .ok key

def decode (kind : KeyKind) (s : Text) : Except DecodeError ExtendedKey :=
  match firstForeign? s.trimRight with
  | some (c, first, last) => .error (.notAscii c first last)
  | none =>
    match Base58.decodeCheck s.trimRight with
    | .ok payload => ofPayload kind payload
    | .error (.invalidCharacter c) => .error (.invalidCharacter c)
    -- A text too short to hold a checksum does not hold the right one.
    | .error _ => .error .checksumMismatch

end ExtendedKey

end SpendPolicy
