import SpendPolicy.Descriptor.Checksum
import SpendPolicy.Substitution.Reinsertion
import SpendPolicy.Validation

set_option autoImplicit false

namespace SpendPolicy

inductive OutputType where
  | wsh
  | shWsh
  | tr
deriving DecidableEq, Repr

namespace OutputType

def all : List OutputType :=
  [wsh, shWsh, tr]

def name : OutputType → Text
  | wsh => ['w', 's', 'h']
  | shWsh => ['s', 'h', '-', 'w', 's', 'h']
  | tr => ['t', 'r']

def isSupported : OutputType → Bool
  | wsh => true
  | shWsh | tr => false

def ofName? (name : Text) : Option OutputType :=
  all.find? fun t => t.name == name

end OutputType

inductive DescriptorFailure where
  | unsupported (outputType : Text)
  | refused (refusal : Refusal)
  | invalidEntry (cause : Option String)
  | invalidCharacter (cause : DescriptorChecksum.InvalidCharacter)
deriving DecidableEq, Repr

def DescriptorFailure.message : DescriptorFailure → String
  | .unsupported outputType => s!"Unsupported output type: {outputType.asString}"
  | .refused refusal => refusal.message
  | .invalidEntry cause =>
    let shown := match cause with
      | none | some "" => "Unknown error"
      | some message => message
    s!"Selected policy is invalid or has no generated policy string: {shown}"
  | .invalidCharacter cause => cause.message

def OutputType.supported (name : Text) : Except DescriptorFailure OutputType :=
  match (OutputType.ofName? name).filter OutputType.isSupported with
  | some t => .ok t
  | none => .error (.unsupported name)

namespace Descriptor

def withChecksum (checksum : Bool) (descriptor : Text) : Except DescriptorFailure Text :=
  if checksum then (DescriptorChecksum.append descriptor).mapError .invalidCharacter
  else .ok descriptor

def assemble (compiled : Text) (keyMap : KeyMap) (outputType : Text) (checksum : Bool) :
    Except DescriptorFailure Text :=
  match OutputType.supported outputType with
  | .error failure => .error failure
  | .ok t => withChecksum checksum (Form.call t.name [keyMap.reinsert compiled])

end Descriptor

def Validator.descriptor (v : Validator) (expression outputType : Text) :
    Except DescriptorFailure Text :=
  match OutputType.supported outputType with
  | .error failure => .error failure
  | .ok _ =>
    match v.validate expression with
    | .invalid refusal => .error (.refused refusal)
    | .valid compiled keyMap => Descriptor.assemble compiled keyMap outputType v.settings.checksum

end SpendPolicy
