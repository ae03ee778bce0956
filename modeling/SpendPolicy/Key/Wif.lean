import SpendPolicy.Base58
import SpendPolicy.Network

set_option autoImplicit false

namespace SpendPolicy.Wif

def networkOfVersion? (version : UInt8) : Option Network :=
  if version = 0x80 then some .main
  else if version = 0xEF then some .test
  else none

def isSecret (bytes : Bytes) : Bool :=
  bytes.length == 32 || (bytes.length == 33 && bytes.getLast? == some 0x01)

def network? (s : Text) : Option Network :=
  if s.length = 51 || s.length = 52 then
    match Base58.decodeCheck s with
    | .ok (version :: secret) => if isSecret secret then networkOfVersion? version else none
    | _ => none
  else none

end SpendPolicy.Wif
