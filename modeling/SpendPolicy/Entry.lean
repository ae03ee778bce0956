import SpendPolicy.Composition
import SpendPolicy.Config.Expression
import SpendPolicy.Validation

set_option autoImplicit false

namespace SpendPolicy

structure EntryHeader where
  id : Text
  name : Text
  expression : Option Text
  isValid : Option Bool
  validationError : Option String
  selected : Bool
deriving DecidableEq, Repr

inductive Entry where
  | configured (header : EntryHeader) (config : Config)
  | text (header : EntryHeader)
  | composed (header : EntryHeader) (kind : CompositionKind) (constituents : List Entry)
      (threshold : Option Int)
deriving Repr

inductive EntryError where
  | config (cause : ConfigError)
  | composition (cause : CompositionError)
  | unknownType (name : Text)
deriving DecidableEq, Repr

def EntryError.message : EntryError → String
  | .config cause => cause.message
  | .composition cause => cause.message
  | .unknownType name => s!"Unknown policy entry type: {name.asString}"

namespace Entry

def newHeader (id name : Text) : EntryHeader :=
  ⟨id, name, none, none, none, false⟩

def header : Entry → EntryHeader
  | .configured header _ => header
  | .text header => header
  | .composed header _ _ _ => header

def modifyHeader (f : EntryHeader → EntryHeader) : Entry → Entry
  | .configured header config => .configured (f header) config
  | .text header => .text (f header)
  | .composed header kind constituents threshold =>
    .composed (f header) kind constituents threshold

def id (e : Entry) : Text :=
  e.header.id

def expression (e : Entry) : Option Text :=
  e.header.expression

def selected (e : Entry) : Bool :=
  e.header.selected

def withSelection (selected : Bool) (e : Entry) : Entry :=
  e.modifyHeader fun h => { h with selected := selected }

def withExpression (expression : Option Text) (e : Entry) : Entry :=
  e.modifyHeader fun h => { h with expression := expression }

def withValidation (isValid : Option Bool) (validationError : Option String) (e : Entry) : Entry :=
  e.modifyHeader fun h => { h with isValid := isValid, validationError := validationError }

def generate : Entry → Except EntryError (Option Text)
  | .configured _ config => (config.expression.map some).mapError .config
  | .text header => .ok header.expression
  | .composed _ kind constituents threshold =>
    ((Composition.compose kind (constituents.map expression) threshold).map some).mapError
      .composition

end Entry

namespace Validator

def refresh (v : Validator) (e : Entry) : Entry :=
  -- The entry with its expression and validation refreshed. One whose expression cannot be
  -- generated keeps the expression that it had.
  match e.generate with
  | .error cause => e.withValidation (some false) (some cause.message)
  | .ok expression =>
    let verdict := v.validate (expression.getD [])
    (e.withExpression expression).withValidation (some verdict.isValid)
      (verdict.refusal?.map Refusal.message)

end Validator

inductive AnyEntry where
  | known (entry : Entry)
  | unknown (typeName : Text)
deriving Repr

namespace AnyEntry

def generate : AnyEntry → Except EntryError (Option Text)
  | .known e => e.generate
  | .unknown typeName => .error (.unknownType typeName)

def modify? (f : Entry → Entry) : AnyEntry → Option Entry
  | .known e => some (f e)
  | .unknown _ => none

end AnyEntry

end SpendPolicy
