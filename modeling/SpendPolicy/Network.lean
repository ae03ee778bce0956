import SpendPolicy.Text.Basic

set_option autoImplicit false

namespace SpendPolicy

inductive Network where
  | main
  | test
  | unspecified
deriving DecidableEq, Repr

namespace Network

def name : Network → String
  | .main => "main"
  | .test => "test"
  | .unspecified => "unspecified"

structure UnknownName where
  name : Text
deriving DecidableEq, Repr

def UnknownName.message (e : UnknownName) : String :=
  s!"Invalid network: '{e.name.asString}'"

def restriction (name : Option Text) : Except UnknownName (Option Network) :=
  match name with
  | none => .ok none
  | some given =>
    let lowered := given.lower
    if lowered = [] || lowered = ['a', 'n', 'y'] then .ok none
    else if lowered = ['m', 'a', 'i', 'n'] then .ok (some .main)
    else if lowered = ['t', 'e', 's', 't'] then .ok (some .test)
    else .error ⟨given⟩

end Network

end SpendPolicy
