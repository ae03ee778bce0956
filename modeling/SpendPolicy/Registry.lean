import SpendPolicy.Descriptor.Basic
import SpendPolicy.Entry

set_option autoImplicit false

namespace SpendPolicy

structure Stamp where
  millis : Nat
  nonce : Text
deriving DecidableEq, Repr

namespace Stamp

def text (stamp : Stamp) : Text :=
  '-' :: Numeral.ofNat stamp.millis ++ '-' :: stamp.nonce

def defaultLabel : Text :=
  "policy".toList

def identify (stamp : Stamp) (label : Text) : Text :=
  label ++ stamp.text

end Stamp

inductive RegistryError where
  | unknownId (id : Text)
  | config (cause : ConfigError)
  | composition (cause : CompositionError)
deriving DecidableEq, Repr

def RegistryError.message : RegistryError → String
  | .unknownId id => id.asString
  | .config cause => cause.message
  | .composition cause => cause.message

structure Registry where
  entries : List Entry
deriving Repr

namespace Registry

def empty : Registry :=
  ⟨[]⟩

def size (r : Registry) : Nat :=
  r.entries.length

abbrev Outcome := Except RegistryError (Entry × Registry)

def get (r : Registry) (id : Text) : Except RegistryError Entry :=
  match r.entries.find? fun e => e.id == id with
  | some e => .ok e
  | none => .error (.unknownId id)

def selected (r : Registry) : List Entry :=
  r.entries.filter Entry.selected

def add (v : Validator) (r : Registry) (e : Entry) : Entry × Registry :=
  let fresh := v.refresh e
  (fresh, ⟨r.entries ++ [fresh]⟩)

def replaceIn (e : Entry) : List Entry → List Entry
  | [] => []
  | current :: rest => if current.id = e.id then e :: rest else current :: replaceIn e rest

def modify (f : Entry → Entry) (r : Registry) (id : Text) : Outcome :=
  match r.get id with
  | .error e => .error e
  | .ok e => .ok (f e, ⟨replaceIn (f e) r.entries⟩)

def addConfigured (v : Validator) (stamp : Stamp) (config : Config) (name : Option Text)
    (r : Registry) : Outcome :=
  match config with
  | .unrecognised description => .error (.config (.unrecognised description))
  | config =>
    let given := name.getD []
    let name := if given = [] then config.defaultName else given
    .ok (r.add v (.configured (Entry.newHeader (stamp.identify config.label) name) config))

def customName : Text :=
  "Custom Policy".toList

def textLabel : Text :=
  "text".toList

def composedLabel : Text :=
  "composed".toList

def nextCustomNumber (r : Registry) : Nat :=
  r.entries.countP (fun e => customName.isPrefixOf e.header.name) + 1

def addText (v : Validator) (stamp : Stamp) (typed : Text) (r : Registry) : Outcome :=
  if typed.trim = [] then .error (.config .emptyExpression)
  else
    let name := customName ++ ' ' :: Numeral.ofNat r.nextCustomNumber
    .ok (r.add v (.text { Entry.newHeader (stamp.identify textLabel) name with
      expression := some typed.trim }))

def toggle (r : Registry) (id : Text) : Outcome :=
  r.modify (fun e => e.withSelection (!e.selected)) id

def revalidate (v : Validator) (r : Registry) (id : Text) : Outcome :=
  r.modify v.refresh id

def composition (stamp : Stamp) (kind : CompositionKind) (threshold : Option Int)
    (constituents : List Entry) : Entry :=
  let name := "Composed (".toList ++ kind.name.toList ++ [')']
  .composed (Entry.newHeader (stamp.identify composedLabel) name) kind
    (constituents.map (Entry.withSelection false))
    (if kind = .threshold then threshold else none)

def deselect (constituents : List Entry) (entries : List Entry) : List Entry :=
  entries.map fun e =>
    if (constituents.map Entry.id).contains e.id then e.withSelection false else e

def compose (v : Validator) (stamp : Stamp) (kind : CompositionKind) (threshold : Option Int)
    (r : Registry) : Outcome :=
  match Composition.checkArity kind r.selected.length threshold with
  | .error cause => .error (.composition cause)
  | .ok () =>
    let entry := composition stamp kind threshold r.selected
    .ok (add v ⟨deselect r.selected r.entries⟩ entry)

def composeNamed (v : Validator) (stamp : Stamp) (kind : Option Text) (threshold : Option Int)
    (r : Registry) : Outcome :=
  match CompositionKind.ofName kind with
  | .error cause => .error (.composition cause)
  | .ok kind => r.compose v stamp kind threshold

def remove (r : Registry) (id : Text) : Outcome :=
  match r.get id with
  | .error e => .error e
  | .ok e => .ok (e, ⟨r.entries.eraseP fun current => current.id == id⟩)

def descriptor (v : Validator) (r : Registry) (id outputType : Text) :
    Except RegistryError (Except DescriptorFailure Text) :=
  match r.get id with
  | .error e => .error e
  | .ok e =>
    let fresh := v.refresh e
    match fresh.header.isValid, fresh.expression with
    | some true, some (c :: s) => .ok (v.descriptor (c :: s) outputType)
    | _, _ => .ok (.error (.invalidEntry fresh.header.validationError))

end Registry

end SpendPolicy
