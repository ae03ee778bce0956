import SpendPolicy.Policy.Basic

set_option autoImplicit false

namespace SpendPolicy.Policy

inductive Malformed where
  | empty
  | noFragment (rest : Text)
  | unknownName (name : Text)
  | unclosed (rest : Text)
  | nested (arguments : Text)
  | argumentCount (name : Text) (arguments : List Text)
  | badValue (name argument : Text)
  | badDigest (name argument : Text)
  | noSeparator (rest : Text)
  | noNumber (rest : Text)
  | badNumber (given : Text)
  | branchCount (name : Text) (count : Nat)
  | unsound (fault : Fault)
  | trailing (rest : Text)
deriving DecidableEq, Repr

def excerpt (s : Text) : String :=
  if s.length ≤ 24 then s.asString else Text.asString (s.take 24) ++ "..."

def Malformed.message : Malformed → String
  | .empty => "Policy string is empty."
  | .noFragment rest => s!"Expected a policy fragment at '{excerpt rest}'"
  | .unknownName name => s!"Unknown policy fragment '{name.asString}'"
  | .unclosed rest => s!"Missing ')' after '{excerpt rest}'"
  | .nested arguments => s!"Unexpected '(' in '{excerpt arguments}'"
  | .argumentCount name arguments =>
    let given := Text.asString (Text.commaSeparated arguments)
    s!"{name.asString}() takes exactly one argument, got '{given}'"
  | .badValue name argument => s!"Invalid {name.asString}() value '{argument.asString}'"
  | .badDigest name argument => s!"Invalid {name.asString}() digest '{argument.asString}'"
  | .noSeparator rest => s!"Expected ',' or ')' at '{excerpt rest}'"
  | .noNumber rest => s!"Expected a number followed by ',' at '{excerpt rest}'"
  | .badNumber given => s!"Invalid number '{given.asString}'"
  | .branchCount name count => s!"{name.asString}() takes exactly two arguments, got {count}"
  | .unsound fault => fault.message
  | .trailing rest => s!"Unexpected trailing characters '{excerpt rest}'"

end SpendPolicy.Policy
