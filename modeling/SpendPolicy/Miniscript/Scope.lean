import SpendPolicy.Miniscript.Typing
import SpendPolicy.Substitution.Extraction

set_option autoImplicit false

namespace SpendPolicy.Miniscript

def unscopedKey? (scope : List Text) (m : Miniscript) : Option Text :=
  ((Extraction.pieces m.text).filterMap Piece.key?).find? fun name => !scope.contains name

def isReadableName (name : Text) : Bool :=
  !name.contains '(' && !name.contains ')'

-- Typing goes by the written form, where a name with a parenthesis would not be one key. No policy
-- that was read has such a name, and a script with one is refused.
def nodeWithin (scope : List Text) (m : Miniscript) : Except TypeFault Node :=
  match m.unscopedKey? scope with
  | some name => .error (.unknownKey name)
  | none => if m.keys.all isReadableName then m.node else .error .requirement

end SpendPolicy.Miniscript
