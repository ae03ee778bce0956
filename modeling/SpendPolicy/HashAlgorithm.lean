import SpendPolicy.Text.Quoted

set_option autoImplicit false

namespace SpendPolicy

inductive HashAlgorithm where
  | sha256
  | hash256
  | ripemd160
  | hash160
deriving DecidableEq, Repr

namespace HashAlgorithm

def all : List HashAlgorithm :=
  [sha256, hash256, ripemd160, hash160]

def name : HashAlgorithm → Text
  | sha256 => ['s', 'h', 'a', '2', '5', '6']
  | hash256 => ['h', 'a', 's', 'h', '2', '5', '6']
  | ripemd160 => ['r', 'i', 'p', 'e', 'm', 'd', '1', '6', '0']
  | hash160 => ['h', 'a', 's', 'h', '1', '6', '0']

def digestSize : HashAlgorithm → Nat
  | sha256 | hash256 => 32
  | ripemd160 | hash160 => 20

def ofName? (s : Text) : Option HashAlgorithm :=
  all.find? fun a => a.name == s

structure UnknownName where
  name : Option Text
deriving DecidableEq, Repr

def UnknownName.message (e : UnknownName) : String :=
  let shown := e.name.elim "None" (Text.asString ∘ Quoted.encode)
  s!"{shown} is not a valid HashAlgorithm"

def ofName (name : Option Text) : Except UnknownName HashAlgorithm :=
  match name.bind ofName? with
  | some a => .ok a
  | none => .error ⟨name⟩

end HashAlgorithm

end SpendPolicy
