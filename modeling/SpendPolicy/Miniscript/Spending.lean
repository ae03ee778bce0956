import SpendPolicy.Miniscript.Typing

set_option autoImplicit false

namespace SpendPolicy

/-- `needsSignature`: every satisfaction needs a signature. `forced`: every dissatisfaction does.
`expressive`: there is one dissatisfaction that no third party can replace. `nonmalleable`: no third
party can replace a satisfaction. -/
structure Spending where
  needsSignature : Bool
  forced : Bool
  expressive : Bool
  nonmalleable : Bool
deriving DecidableEq, Repr

namespace Spending

def zero : Spending :=
  ⟨false, false, true, true⟩

def key : Spending :=
  ⟨true, false, true, true⟩

def timelock : Spending :=
  ⟨false, true, false, true⟩

def hash : Spending :=
  ⟨false, false, false, true⟩

def andV (x y : Spending) : Spending :=
  let needsSignature := x.needsSignature || y.needsSignature
  ⟨needsSignature, needsSignature, false, x.nonmalleable && y.nonmalleable⟩

def orD (x y : Spending) : Spending :=
  { needsSignature := x.needsSignature && y.needsSignature
    forced := x.forced && y.forced
    expressive := x.expressive && y.expressive
    nonmalleable := x.nonmalleable && y.nonmalleable && (x.needsSignature || y.needsSignature)
      && x.expressive }

def orI (x y : Spending) : Spending :=
  { needsSignature := x.needsSignature && y.needsSignature
    forced := x.forced && y.forced
    expressive := (x.expressive && y.forced) || (x.forced && y.expressive)
    nonmalleable := x.nonmalleable && y.nonmalleable }

def thresh (required : Nat) (items : List Spending) : Spending :=
  let signed := items.countP Spending.needsSignature
  let allExpressive := items.all Spending.expressive
  { needsSignature := decide (items.length < signed + required)
    forced := false
    expressive := allExpressive && signed == items.length
    nonmalleable := allExpressive && items.all Spending.nonmalleable
      && decide (items.length ≤ signed + required) }

def wrap (wrapper : Wrapper) (x : Spending) : Spending :=
  match wrapper with
  | .v => ⟨x.needsSignature, true, false, x.nonmalleable⟩
  | .s | .a | .n => x
  | .l => orI zero x
  | .u => orI x zero

end Spending

namespace Miniscript

mutual

def spending : Miniscript → Spending
  | .zero => .zero
  | .key _ => .key
  | .after _ | .older _ => .timelock
  | .hash _ _ => .hash
  | .andV left right => .andV left.spending right.spending
  | .orD left right => .orD left.spending right.spending
  | .orI left right => .orI left.spending right.spending
  | .thresh required items => .thresh required (spendings items)
  | .wrap wrapper argument => .wrap wrapper argument.spending

def spendings : List Miniscript → List Spending
  | [] => []
  | item :: items => item.spending :: spendings items

end

@[simp] theorem spendings_eq_map (items : List Miniscript) :
    spendings items = items.map spending := by
  induction items with
  | nil => simp [spendings]
  | cons item items ih => simp [spendings, ih]

end Miniscript

inductive Insanity where
  | notBase (found : BaseType)
  | unsigned
  | malleable
  | timelockMix
deriving DecidableEq, Repr

def Insanity.message : Insanity → String
  | .notBase found =>
    s!"top-level fragment is of type {Text.asString [found.letter]}, not B"
  | .unsigned => "a spending path does not require any signature"
  | .malleable => "the script admits malleable satisfactions"
  | .timelockMix => "the script mixes height-based and time-based timelocks"

def Miniscript.insanity? (m : Miniscript) (node : Node) : Option Insanity :=
  if node.type.base != .base then some (.notBase node.type.base)
  else if !m.spending.needsSignature then some .unsigned
  else if !m.spending.nonmalleable then some .malleable
  else if !node.noTimelockMix then some .timelockMix
  else none

end SpendPolicy
