import SpendPolicy.Network

set_option autoImplicit false

namespace SpendPolicy

structure Settings where
  network : Option Network
  checksum : Bool
deriving DecidableEq, Repr

namespace Settings

def default : Settings :=
  ⟨none, false⟩

def ofOptions (network checksum : Option Text) : Except Network.UnknownName Settings :=
  match Network.restriction network with
  | .ok restriction => .ok ⟨restriction, checksum == some ['1']⟩
  | .error e => .error e

end Settings

end SpendPolicy
