import SpendPolicy.Text.Basic

set_option autoImplicit false

namespace SpendPolicy

inductive LogLevel where
  | critical
  | error
  | warning
  | info
  | debug
  | notSet
deriving DecidableEq, Repr

namespace LogLevel

def severity : LogLevel → Nat
  | critical => 50
  | error => 40
  | warning => 30
  | info => 20
  | debug => 10
  | notSet => 0

def names : List (String × LogLevel) :=
  [("CRITICAL", critical), ("FATAL", critical), ("ERROR", error), ("WARNING", warning),
   ("WARN", warning), ("INFO", info), ("DEBUG", debug), ("NOTSET", notSet)]

inductive Fault where
  | lineLayout
  | layoutTable
deriving DecidableEq, Repr

def line : String :=
  "%(levelname)s:%(name)s:%(message)s"

def Fault.message : Fault → String
  | .lineLayout => s!"Unknown level: '{line}'"
  | .layoutTable => "Level not an integer or a valid string"

def faults : List (String × Fault) :=
  [("BASIC_FORMAT", .lineLayout), ("_STYLES", .layoutTable)]

def foreignCapitals : List (Char × String) :=
  [('ß', "SS"), ('ı', "I"), ('ſ', "S"), ('ﬀ', "FF"), ('ﬁ', "FI"), ('ﬂ', "FL"), ('ﬃ', "FFI"),
   ('ﬄ', "FFL"), ('ﬅ', "ST"), ('ﬆ', "ST")]

def capitals (c : Char) : Text :=
  -- A letter in capitals, as far as these are letters of ASCII; all other characters beyond ASCII
  -- stay, since no name has one.
  match foreignCapitals.lookup c with
  | some s => s.toList
  | none => [c.toUpper]

def ofName (name : Text) : Except Fault LogLevel :=
  let written := Text.asString (name.flatMap capitals)
  match faults.lookup written with
  | some fault => .error fault
  | none => .ok ((names.lookup written).getD warning)

def chosen (asked environment : Option Text) : Except Fault LogLevel :=
  match asked with
  | some (c :: s) => ofName (c :: s)
  | _ => environment.elim (.ok warning) ofName

end LogLevel

end SpendPolicy
