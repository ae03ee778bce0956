import SpendPolicy.Hex
import SpendPolicy.HashAlgorithm
import SpendPolicy.Locktime
import SpendPolicy.Numeral.Integer

set_option autoImplicit false

namespace SpendPolicy

inductive Config where
  | singleSig (key : Text)
  | multiSig (m n : Int) (keys : List Text)
  | threshold (m n : Int) (items : List Text)
  | absoluteTimelock (value : Int)
  | relativeTimelock (value : Int)
  | hashlock (algorithm digest : Text)
  | vault (m n : Int) (keys : List Text) (delay : Int) (cancelKey : Text)
  | inheritance (ownerKey : Text) (heirsKeys : List Text) (heirsThreshold timelock1 : Int)
      (thirdPartyKey : Text) (timelock2 : Int)
  | simpleEscrow (partyAKey partyBKey arbiterKey : Text) (timeout : Int)
  | unrecognised (description : Text)
deriving DecidableEq, Repr

namespace Config

inductive RequiredField where
  | publicKey
  | hash
  | cancelKey
  | ownerKey
  | thirdPartyKey
  | partyAKey
  | partyBKey
  | arbiterKey
deriving DecidableEq, Repr

def RequiredField.label : RequiredField → String
  | .publicKey => "Public Key"
  | .hash => "Hash"
  | .cancelKey => "Cancel Key"
  | .ownerKey => "Owner Key"
  | .thirdPartyKey => "Third Party Key"
  | .partyAKey => "Party A Key"
  | .partyBKey => "Party B Key"
  | .arbiterKey => "Arbiter Key"

inductive TimelockField where
  | timelock
  | delay
  | timelock1
  | timelock2
  | timeout
deriving DecidableEq, Repr

def TimelockField.label : TimelockField → String
  | .timelock => "Timelock"
  | .delay => "Delay"
  | .timelock1 => "Timelock 1"
  | .timelock2 => "Timelock 2"
  | .timeout => "Timeout"

inductive Member where
  | keys
  | items
deriving DecidableEq, Repr

def Member.label : Member → String
  | .keys => "Keys"
  | .items => "Items"

def Member.lowerLabel : Member → String
  | .keys => "keys"
  | .items => "items"

end Config

inductive ConfigError where
  | missing (field : Config.RequiredField)
  | quorum (member : Config.Member) (m n : Int) (count : Nat)
  | missingHeirs
  | heirsThreshold (count : Nat) (given : Int)
  | timelockRange (field : Config.TimelockField) (value : Int)
  | timelockOrder (first second : Int)
  | unknownAlgorithm (name : Text)
  | hashFormat (algorithm : HashAlgorithm)
  | unrecognised (description : Text)
  | emptyExpression
deriving DecidableEq, Repr

def ConfigError.message : ConfigError → String
  | .missing field => s!"{field.label} is required."
  | .quorum member m n count =>
    s!"M, N, and all {member.label} are required. "
      ++ s!"Ensure 1 <= M <= N (got M={m}, N={n}, {count} {member.lowerLabel})."
  | .missingHeirs => "All Heirs Keys are required."
  | .heirsThreshold count given =>
    s!"Heirs Threshold must be between 1 and {count} (got {given})."
  | .timelockRange field value =>
    s!"{field.label} must be greater than 0 and at most {Locktime.maximum} (got {value})."
  | .timelockOrder first second =>
    s!"Timelock 2 ({second}) must be greater than Timelock 1 ({first})."
  | .unknownAlgorithm name => s!"Unknown hashing algorithm: {name.asString}"
  | .hashFormat algorithm =>
    s!"Hash must be a {2 * algorithm.digestSize}-character hex string for "
      ++ s!"{algorithm.name.asString}."
  | .unrecognised description => s!"Unknown configuration type: {description.asString}"
  | .emptyExpression => "Policy string cannot be empty."

namespace Config

def require (condition : Bool) (error : ConfigError) : Except ConfigError Unit :=
  if condition then .ok () else .error error

def requireField (field : RequiredField) (given : Text) : Except ConfigError Unit :=
  require (!given.isEmpty) (.missing field)

def requireTimelock (field : TimelockField) (value : Int) : Except ConfigError Unit :=
  require (Locktime.isInRange value) (.timelockRange field value)

def requireQuorum (member : Member) (m n : Int) (members : List Text) : Except ConfigError Unit :=
  require
    (decide (1 ≤ m) && decide (m ≤ n) && decide ((members.length : Int) = n)
      && members.all fun s => !s.isEmpty)
    (.quorum member m n members.length)

def requireDigest (algorithm digest : Text) : Except ConfigError Unit :=
  match HashAlgorithm.ofName? algorithm with
  | none => .error (.unknownAlgorithm algorithm)
  | some a =>
    require (Hex.isHex digest && digest.length == 2 * a.digestSize) (.hashFormat a)

def check : Config → Except ConfigError Unit
  | .singleSig key => requireField .publicKey key
  | .multiSig m n keys => requireQuorum .keys m n keys
  | .threshold m n items => requireQuorum .items m n items
  | .absoluteTimelock value => requireTimelock .timelock value
  | .relativeTimelock value => requireTimelock .timelock value
  | .hashlock algorithm digest => do
    requireField .hash digest
    requireDigest algorithm digest
  | .vault m n keys delay cancelKey => do
    requireQuorum .keys m n keys
    requireTimelock .delay delay
    requireField .cancelKey cancelKey
  | .inheritance ownerKey heirsKeys heirsThreshold timelock1 thirdPartyKey timelock2 => do
    requireField .ownerKey ownerKey
    require (!heirsKeys.isEmpty && heirsKeys.all fun s => !s.isEmpty) .missingHeirs
    require (decide (1 ≤ heirsThreshold) && decide (heirsThreshold ≤ heirsKeys.length))
      (.heirsThreshold heirsKeys.length heirsThreshold)
    requireTimelock .timelock1 timelock1
    requireField .thirdPartyKey thirdPartyKey
    requireTimelock .timelock2 timelock2
    require (decide (timelock1 < timelock2)) (.timelockOrder timelock1 timelock2)
  | .simpleEscrow partyAKey partyBKey arbiterKey timeout => do
    requireField .partyAKey partyAKey
    requireField .partyBKey partyBKey
    requireField .arbiterKey arbiterKey
    requireTimelock .timeout timeout
  | .unrecognised description => .error (.unrecognised description)

def label : Config → Text
  | .singleSig _ => "single-sig".toList
  | .multiSig _ _ _ => "multisig".toList
  | .threshold _ _ _ => "threshold".toList
  | .absoluteTimelock _ => "absolute-timelock".toList
  | .relativeTimelock _ => "relative-timelock".toList
  | .hashlock _ _ => "hashlock".toList
  | .vault _ _ _ _ _ => "vault".toList
  | .inheritance _ _ _ _ _ _ => "inheritance".toList
  | .simpleEscrow _ _ _ _ => "simple-escrow".toList
  | .unrecognised description => description

def capitalized : Text → Text
  | [] => []
  | c :: s => c.toUpper :: s

def defaultName (config : Config) : Text :=
  List.intercalate [' '] ((Text.parts '-' config.label).map capitalized)

end Config

end SpendPolicy
