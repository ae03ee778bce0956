import SpendPolicy.Miniscript.Basic

set_option autoImplicit false

namespace SpendPolicy

-- Whether a script has a satisfaction, and a dissatisfaction, that no third party can replace.
structure Witnesses where
  satisfying : Bool
  dissatisfying : Bool
deriving DecidableEq, Repr

namespace Witnesses

def zero : Witnesses :=
  ⟨false, true⟩

def key : Witnesses :=
  ⟨true, true⟩

def satisfiable : Witnesses :=
  ⟨true, false⟩

def andV (x y : Witnesses) : Witnesses :=
  ⟨x.satisfying && y.satisfying, false⟩

def orD (x y : Witnesses) : Witnesses :=
  ⟨x.satisfying || (x.dissatisfying && y.satisfying), x.dissatisfying && y.dissatisfying⟩

def orI (x y : Witnesses) : Witnesses :=
  ⟨x.satisfying || y.satisfying, x.dissatisfying || y.dissatisfying⟩

def isCommitted (x : Witnesses) : Bool :=
  x.satisfying && !x.dissatisfying

def isBlocked (x : Witnesses) : Bool :=
  !x.satisfying && !x.dissatisfying

def isReachable (required : Nat) (items : List Witnesses) : Bool :=
  -- Whether `required` of the items can be satisfied and the others dissatisfied, as far as the
  -- counts tell: enough items can be satisfied, and no more than that have to be.
  decide (items.countP (fun x => !x.satisfying) + required ≤ items.length)
    && decide (items.countP isCommitted ≤ required)

def thresh? (required : Nat) (items : List Witnesses) : Option Witnesses :=
  -- The witnesses of a threshold. They are not determined when they would have to be put together
  -- from those of a blocked item, which has none.
  let satisfying := isReachable required items
  let dissatisfying := !items.any isCommitted
  if items.any isBlocked && (satisfying || dissatisfying) then none
  else some ⟨satisfying, dissatisfying⟩

end Witnesses

end SpendPolicy
