import SpendPolicy.Policy.Form
import SpendPolicy.Text.Quoted

set_option autoImplicit false

namespace SpendPolicy

inductive CompositionKind where
  | and
  | or
  | threshold
deriving DecidableEq, Repr

inductive CompositionError where
  | unknownKind (name : Option Text)
  | notPair (kind : CompositionKind) (count : Int)
  | tooFew (count : Int)
  | thresholdRange (count : Int) (given : Option Int)
  | noExpression (position : Nat)
deriving DecidableEq, Repr

namespace CompositionKind

def all : List CompositionKind :=
  [and, or, threshold]

def name : CompositionKind → String
  | and => "AND"
  | or => "OR"
  | threshold => "THRESHOLD"

def lowerName : CompositionKind → Text
  | and => ['a', 'n', 'd']
  | or => ['o', 'r']
  | threshold => ['t', 'h', 'r', 'e', 's', 'h', 'o', 'l', 'd']

def ofName (name : Option Text) : Except CompositionError CompositionKind :=
  match name.bind fun s => all.find? fun kind => kind.lowerName == s.lower with
  | some kind => .ok kind
  | none => .error (.unknownKind name)

end CompositionKind

namespace CompositionError

def showOption {α : Type} (f : α → String) : Option α → String
  | none => "None"
  | some a => f a

def message : CompositionError → String
  | .unknownKind name =>
    s!"cannot compose: unknown composition kind {showOption (Text.asString ∘ Quoted.encode) name}"
  | .notPair kind count =>
    s!"cannot compose: {kind.name} composition requires exactly 2 constituents, got {count}"
  | .tooFew count =>
    s!"cannot compose: THRESHOLD composition requires at least 2 constituents, got {count}"
  | .thresholdRange count given =>
    s!"cannot compose: threshold must be between 1 and {count}, got {showOption toString given}"
  | .noExpression position =>
    s!"cannot compose: constituent {position} has no generated expression"

end CompositionError

namespace Composition

def checkArity (kind : CompositionKind) (count : Int) (threshold : Option Int) :
    Except CompositionError Unit :=
  match kind, threshold with
  | .threshold, some k =>
    if count < 2 then .error (.tooFew count)
    else if 1 ≤ k ∧ k ≤ count then .ok ()
    else .error (.thresholdRange count (some k))
  | .threshold, none =>
    if count < 2 then .error (.tooFew count) else .error (.thresholdRange count none)
  | kind, _ => if count = 2 then .ok () else .error (.notPair kind count)

def present (position : Nat) : List (Option Text) → Except CompositionError (List Text)
  | [] => .ok []
  | some (c :: s) :: rest =>
    match present (position + 1) rest with
    | .ok texts => .ok ((c :: s) :: texts)
    | .error e => .error e
  | _ :: _ => .error (.noExpression position)

def combine (kind : CompositionKind) (threshold : Option Int) (texts : List Text) : Text :=
  match kind with
  | .and => Form.call ['a', 'n', 'd'] texts
  | .or => Form.call ['o', 'r'] texts
  | .threshold => Form.thresh (threshold.getD 0) texts

def compose (kind : CompositionKind) (expressions : List (Option Text)) (threshold : Option Int) :
    Except CompositionError Text :=
  match present 1 expressions with
  | .error e => .error e
  | .ok texts =>
    match checkArity kind texts.length threshold with
    | .error e => .error e
    | .ok () => .ok (combine kind threshold texts)

def composeUnknown (kind : Option Text) (expressions : List (Option Text)) :
    Except CompositionError Text :=
  -- Combining under a kind that does not exist fails, but looks at the constituents first.
  match present 1 expressions with
  | .error e => .error e
  | .ok _ => .error (.unknownKind kind)

end Composition

end SpendPolicy
