set_option autoImplicit false

namespace SpendPolicy.Locktime

def maximum : Nat :=
  2147483647

def isInRange (value : Int) : Bool :=
  decide (0 < value) && decide (value ≤ maximum)

def firstTime : Nat :=
  500000000

def isAbsoluteHeight (value : Nat) : Bool :=
  decide (value < firstTime)

def isRelativeTime (value : Nat) : Bool :=
  value.testBit 22

end SpendPolicy.Locktime
