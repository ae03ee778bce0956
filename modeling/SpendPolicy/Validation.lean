import SpendPolicy.Compilation
import SpendPolicy.Key.Classification
import SpendPolicy.Settings
import SpendPolicy.Substitution.Extraction

set_option autoImplicit false

namespace SpendPolicy

inductive Refusal where
  | empty
  | rejectedKey (rejection : KeyRejection)
  | wrongNetwork (key : Text) (network expected : Network)
  | unsound
deriving DecidableEq, Repr

def Refusal.message : Refusal → String
  | .empty => "Policy string is empty."
  | .rejectedKey rejection => rejection.message
  | .wrongNetwork key network expected =>
    s!"Key '{key.asString}' belongs to the {network.name} network, "
      ++ s!"but policies are restricted to the {expected.name} network."
  | .unsound =>
    "Policy is not a valid miniscript policy: it violates consensus or standardness script rules."

inductive Verdict where
  | valid (compiled : Text) (keyMap : KeyMap)
  | invalid (refusal : Refusal)
deriving DecidableEq, Repr

namespace Verdict

def isValid : Verdict → Bool
  | .valid _ _ => true
  | .invalid _ => false

def refusal? : Verdict → Option Refusal
  | .valid _ _ => none
  | .invalid refusal => some refusal

end Verdict

structure Validator where
  compiler : Compiler
  settings : Settings

namespace Validator

def isAllowedNetwork (expected : Option Network) (network : Network) : Bool :=
  -- A key of an unspecified network may stand in any policy.
  match expected with
  | none => true
  | some expected => network == .unspecified || network == expected

def keyRefusal? (expected : Option Network) (key : Text) : Option Refusal :=
  match Key.classify key with
  | .error rejection => some (.rejectedKey rejection)
  | .ok form =>
    match expected with
    | none => none
    | some network =>
      if isAllowedNetwork expected form.network then none
      else some (.wrongNetwork key form.network network)

def prepare (settings : Settings) (expression : Text) : Except Refusal Extraction :=
  if expression.trim = [] then .error .empty
  else
    let extraction := Extraction.ofText expression
    match extraction.keyMap.keys.findSome? (keyRefusal? settings.network) with
    | some refusal => .error refusal
    | none => .ok extraction

def validate (v : Validator) (expression : Text) : Verdict :=
  match prepare v.settings expression with
  | .error refusal => .invalid refusal
  | .ok extraction =>
    match v.compiler extraction.template with
    | .ok (.sound canonical) => .valid canonical extraction.keyMap
    | .ok (.unsound _ _) | .error _ => .invalid .unsound

end Validator

end SpendPolicy
