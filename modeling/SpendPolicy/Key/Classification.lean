import SpendPolicy.Key.Expression
import SpendPolicy.Key.Wif
import SpendPolicy.Key.Extended

set_option autoImplicit false

namespace SpendPolicy

inductive KeyForm where
  | compressed
  | wif (network : Network)
  | extended (kind : KeyKind) (network : Network)
deriving DecidableEq, Repr

def KeyForm.network : KeyForm → Network
  | .compressed => .unspecified
  | .wif network => network
  | .extended _ network => network

def KeyForm.description : KeyForm → String
  | .compressed => "Compressed public key"
  | .wif network => s!"WIF private key ({network.name})"
  | .extended kind network => s!"Extended {kind.name} key ({network.name})"

inductive KeyRejection where
  | invalid (key : Text)
  | uncompressed (key : Text)
  | unsupportedMark (kind : KeyKind) (key mark : Text)
  | insaneOrigin (key origin : Text)
  | insanePath (key path : Text)
  | undecodable (kind : KeyKind) (key : Text) (cause : ExtendedKey.DecodeError)
deriving DecidableEq, Repr

def KeyRejection.message : KeyRejection → String
  | .invalid key => s!"'{key.asString}' is not a valid key"
  | .uncompressed key =>
    s!"Uncompressed public key '{key.asString}' is not supported in segwit scripts. "
      ++ "Use a compressed public key (02 or 03 prefix) instead."
  | .unsupportedMark kind key mark =>
    s!"Extended {kind.name} key '{key.asString}' uses the unsupported '{mark.asString}' prefix. "
      ++ match kind with
        | .priv => "Use a WIF or xprv/tprv key instead."
        | .pub => "Use an xpub/tpub key instead."
  | .insaneOrigin key origin =>
    s!"Insane key origin '{origin.asString}' in extended key '{key.asString}'"
  | .insanePath key path =>
    s!"Insane derivation path '{path.asString}' in extended key '{key.asString}'"
  | .undecodable kind key cause =>
    s!"Extended {kind.name} key '{key.asString}' could not be decoded: {cause.message}"

abbrev KeyClassification := Except KeyRejection KeyForm

namespace KeyClassification

def accepted (c : KeyClassification) : Bool :=
  c.isOk

def network : KeyClassification → Network
  | .ok form => form.network
  | .error _ => .unspecified

def reason : KeyClassification → String
  | .ok form => form.description
  | .error rejection => rejection.message

end KeyClassification

namespace ExtendedKey

inductive Mark where
  | supported (kind : KeyKind) (network : Network)
  | unsupported (kind : KeyKind)
deriving DecidableEq, Repr

def Mark.ofText? : Text → Option Mark
  | ['x', 'p', 'r', 'v'] => some (.supported .priv .main)
  | ['t', 'p', 'r', 'v'] => some (.supported .priv .test)
  | ['x', 'p', 'u', 'b'] => some (.supported .pub .main)
  | ['t', 'p', 'u', 'b'] => some (.supported .pub .test)
  | ['y', 'p', 'r', 'v'] | ['z', 'p', 'r', 'v'] | ['v', 'p', 'r', 'v'] =>
    some (.unsupported .priv)
  | ['y', 'p', 'u', 'b'] | ['z', 'p', 'u', 'b'] | ['v', 'p', 'u', 'b'] =>
    some (.unsupported .pub)
  | _ => none

def classifyMarked (kind : KeyKind) (network : Network) (s : Text) : KeyClassification :=
  let e := KeyExpression.split s
  match e.origin.filter (!KeyExpression.isOrigin ·), e.path.filter (!KeyExpression.isDerivation ·) with
  | some origin, _ => .error (.insaneOrigin s origin)
  | none, some path => .error (.insanePath s path)
  | none, none =>
    match decode kind e.key with
    | .ok _ => .ok (.extended kind network)
    | .error cause => .error (.undecodable kind s cause)

def classify? (s : Text) : Option KeyClassification :=
  let mark := (KeyExpression.split s).key.take 4
  match Mark.ofText? mark with
  | none => none
  | some (.unsupported kind) => some (.error (.unsupportedMark kind s mark))
  | some (.supported kind network) => some (classifyMarked kind network s)

end ExtendedKey

namespace Key

def isCompressed (s : Text) : Bool :=
  Hex.isHex s && s.length == 66 && (s.take 2 == ['0', '2'] || s.take 2 == ['0', '3'])

def isUncompressed (s : Text) : Bool :=
  Hex.isHex s && s.length == 130 && s.take 2 == ['0', '4']

def classify (s : Text) : KeyClassification :=
  if isCompressed s then .ok .compressed
  else if isUncompressed s then .error (.uncompressed s)
  else match Wif.network? s with
    | some network => .ok (.wif network)
    | none => (ExtendedKey.classify? s).getD (.error (.invalid s))

def isKey (s : Text) : Bool :=
  (classify s).accepted

end Key

inductive KeyMaterial where
  | text (s : Text)
  | other (shown : Text)
deriving DecidableEq, Repr

def KeyMaterial.classify : KeyMaterial → KeyClassification
  | .text s => Key.classify s
  | .other shown => .error (.invalid shown)

end SpendPolicy
