import SpendPolicy.Miniscript.Spending
import SpendPolicy.Policy.Malformed

set_option autoImplicit false

namespace SpendPolicy

inductive UnsoundReason where
  | repeatedKey
  | noCandidate (candidates : List Text)
  | unknownPolicy (policy : Text)
  | construction
  | insane (insanity : Insanity)
deriving DecidableEq, Repr

def UnsoundReason.message : UnsoundReason → String
  | .repeatedKey => "the same key is used more than once"
  | .noCandidate candidates =>
    let listed := Text.asString (List.intercalate [',', ' '] candidates)
    s!"No type-correct miniscript among: {listed}"
  | .unknownPolicy policy => s!"Cannot lower policy fragment {policy.asString}"
  | .construction => "miniscript construction failed: AssertionError()"
  | .insane insanity => insanity.message

inductive Compilation where
  | sound (canonical : Text)
  | unsound (canonical : Text) (reason : UnsoundReason)
deriving DecidableEq, Repr

namespace Compilation

def isSound : Compilation → Bool
  | .sound _ => true
  | .unsound _ _ => false

def canonical : Compilation → Text
  | .sound canonical => canonical
  | .unsound canonical _ => canonical

def reason? : Compilation → Option UnsoundReason
  | .sound _ => none
  | .unsound _ reason => some reason

end Compilation

inductive CompileFailure where
  | malformed (cause : Policy.Malformed)
  | untyped (fault : TypeFault)
deriving DecidableEq, Repr

abbrev Compiler := Text → Except CompileFailure Compilation

end SpendPolicy
