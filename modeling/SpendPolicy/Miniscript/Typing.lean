import SpendPolicy.Miniscript.Witnesses

set_option autoImplicit false

namespace SpendPolicy

inductive BaseType where
  | base
  | verify
  | wrapped
deriving DecidableEq, Repr

def BaseType.letter : BaseType → Char
  | .base => 'B'
  | .verify => 'V'
  | .wrapped => 'W'

/-- A base type with its modifiers: zero or one stack arguments, a nonzero top argument, a unit
result, and a known dissatisfaction. -/
structure ScriptType where
  base : BaseType
  z : Bool
  o : Bool
  n : Bool
  u : Bool
  d : Bool
deriving DecidableEq, Repr

namespace ScriptType

def letters (t : ScriptType) : Text :=
  t.base.letter ::
    [(t.z, 'z'), (t.o, 'o'), (t.n, 'n'), (t.u, 'u'), (t.d, 'd')].filterMap fun (has, letter) =>
      if has then some letter else none

def isDissatisfiableUnit (expected : BaseType) (t : ScriptType) : Bool :=
  t.base == expected && t.d && t.u

end ScriptType

structure Timelocks where
  absoluteHeight : Bool
  absoluteTime : Bool
  relativeHeight : Bool
  relativeTime : Bool
deriving DecidableEq, Repr

namespace Timelocks

def none : Timelocks :=
  ⟨false, false, false, false⟩

def merge (x y : Timelocks) : Timelocks :=
  ⟨x.absoluteHeight || y.absoluteHeight, x.absoluteTime || y.absoluteTime,
    x.relativeHeight || y.relativeHeight, x.relativeTime || y.relativeTime⟩

def mixes (t : Timelocks) : Bool :=
  (t.absoluteHeight && t.absoluteTime) || (t.relativeHeight && t.relativeTime)

def ofAfter (value : Nat) : Timelocks :=
  { none with
    absoluteHeight := Locktime.isAbsoluteHeight value
    absoluteTime := !Locktime.isAbsoluteHeight value }

def ofOlder (value : Nat) : Timelocks :=
  { none with
    relativeHeight := !Locktime.isRelativeTime value
    relativeTime := Locktime.isRelativeTime value }

end Timelocks

/-- What is known of a script. The timelocks of a threshold of one are not determined. -/
structure Node where
  type : ScriptType
  timelocks : Option Timelocks
  noTimelockMix : Bool
  witnesses : Witnesses
deriving DecidableEq, Repr

/-- Why a script has no type: it breaks a requirement, a threshold would have to put together
timelocks or witnesses that are not determined, or it has a key that is not in scope. -/
inductive TypeFault where
  | requirement
  | undetermined
  | unknownKey (name : Text)
deriving DecidableEq, Repr

namespace Node

def knownTimelocks (x : Node) : Timelocks :=
  x.timelocks.getD .none

def mixesTimelocks (timelocks : Option Timelocks) : Bool :=
  (timelocks.getD .none).mixes

def require (condition : Bool) (node : Node) : Except TypeFault Node :=
  if condition then .ok node else .error .requirement

def zero : Node :=
  ⟨⟨.base, true, false, false, true, true⟩, some .none, true, .zero⟩

def oneArgument (witnesses : Witnesses) : Node :=
  ⟨⟨.base, false, true, true, true, true⟩, some .none, true, witnesses⟩

def timelock (timelocks : Timelocks) : Node :=
  ⟨⟨.base, true, false, false, false, false⟩, some timelocks, true, .satisfiable⟩

def andV (x y : Node) : Except TypeFault Node :=
  let timelocks := x.knownTimelocks.merge y.knownTimelocks
  require (x.type.base == .verify && y.type.base != .wrapped)
    { type :=
        { base := y.type.base
          z := x.type.z && y.type.z
          o := (x.type.z && y.type.o) || (x.type.o && y.type.z)
          n := x.type.n || (x.type.z && y.type.n)
          u := y.type.u
          d := false }
      timelocks := some timelocks
      noTimelockMix := !timelocks.mixes
      witnesses := x.witnesses.andV y.witnesses }

def orD (x y : Node) : Except TypeFault Node :=
  require (x.type.isDissatisfiableUnit .base && y.type.base == .base)
    { type :=
        { base := .base
          z := x.type.z && y.type.z
          o := x.type.o && y.type.z
          n := false
          u := y.type.u
          d := y.type.d }
      timelocks := some (x.knownTimelocks.merge y.knownTimelocks)
      noTimelockMix := x.noTimelockMix && y.noTimelockMix
      witnesses := x.witnesses.orD y.witnesses }

def orI (x y : Node) : Except TypeFault Node :=
  require (x.type.base == y.type.base && x.type.base != .wrapped)
    { type :=
        { base := x.type.base
          z := false
          o := x.type.z && y.type.z
          n := false
          u := x.type.u && y.type.u
          d := x.type.d || y.type.d }
      timelocks := some (x.knownTimelocks.merge y.knownTimelocks)
      noTimelockMix := x.noTimelockMix && y.noTimelockMix
      witnesses := x.witnesses.orI y.witnesses }

def mergeItems (timelocks : Option Timelocks) : List Node → Except TypeFault (Option Timelocks)
  | [] => .ok timelocks
  | item :: items =>
    if item.type.isDissatisfiableUnit .wrapped then
      -- Merging comes after the requirement of each item, so the first of the two faults is reported.
      match timelocks, item.timelocks with
      | some x, some y => mergeItems (some (x.merge y)) items
      | _, _ => .error .undetermined
    else .error .requirement

def threshType (count : Nat) : ScriptType :=
  -- Only the count decides how many arguments it takes; the types of the items do not.
  ⟨.base, count == 1, false, false, true, true⟩

def threshOne (items : List Node) : Except TypeFault (Option Timelocks × Bool) :=
  -- A threshold of one leaves its timelocks undetermined and does not merge those of its items.
  -- The first item of a threshold is not asked whether it mixes timelocks.
  if items.all fun item => item.type.isDissatisfiableUnit .wrapped then
    .ok (none, items.all Node.noTimelockMix)
  else .error .requirement

def threshMany (first : Node) (items : List Node) : Except TypeFault (Option Timelocks × Bool) :=
  match mergeItems first.timelocks items with
  | .error fault => .error fault
  | .ok timelocks => .ok (timelocks, !mixesTimelocks timelocks)

def threshTimelocks (required : Nat) (first : Node) (items : List Node) :
    Except TypeFault (Option Timelocks × Bool) :=
  if required = 1 then threshOne items else threshMany first items

def threshOf (required : Nat) (first : Node) (items : List Node) : Except TypeFault Node :=
  match threshTimelocks required first items with
  | .error fault => .error fault
  | .ok (timelocks, noTimelockMix) =>
    match Witnesses.thresh? required ((first :: items).map Node.witnesses) with
    | none => .error .undetermined
    | some witnesses =>
      .ok
        { type := threshType (items.length + 1)
          timelocks := timelocks
          noTimelockMix := noTimelockMix
          witnesses := witnesses }

def thresh (required : Nat) (items : List Node) : Except TypeFault Node :=
  match items with
  | [] => .error .requirement
  | first :: rest =>
    if 1 ≤ required && required ≤ items.length && first.type.isDissatisfiableUnit .base then
      threshOf required first rest
    else .error .requirement

def retyped (x : Node) (type : ScriptType) : Node :=
  { type := type
    timelocks := x.timelocks
    noTimelockMix := !mixesTimelocks x.timelocks
    witnesses := x.witnesses }

def verified (x : Node) : Node :=
  { x.retyped { x.type with base := .verify, u := false, d := false } with
    witnesses := { x.witnesses with dissatisfying := false } }

def wrap (wrapper : Wrapper) (x : Node) : Except TypeFault Node :=
  let t := x.type
  match wrapper with
  | .v => require (t.base == .base) x.verified
  | .s =>
    require (t.base == .base && t.o)
      (x.retyped { t with base := .wrapped, z := false, o := false, n := false })
  | .a =>
    require (t.base == .base)
      (x.retyped { t with base := .wrapped, z := false, o := false, n := false })
  | .n => require (t.base == .base) (x.retyped { t with u := true })
  | .l => orI zero x
  | .u => orI x zero

end Node

namespace Miniscript

mutual

def node : Miniscript → Except TypeFault Node
  | .zero => .ok Node.zero
  | .key _ => .ok (Node.oneArgument .key)
  | .after value =>
    Node.require (Locktime.isInRange value) (Node.timelock (Timelocks.ofAfter value))
  | .older value =>
    Node.require (Locktime.isInRange value) (Node.timelock (Timelocks.ofOlder value))
  | .hash algorithm digest =>
    Node.require (digest.length == algorithm.digestSize) (Node.oneArgument .satisfiable)
  | .andV left right =>
    match left.node, right.node with
    | .error fault, _ => .error fault
    | .ok _, .error fault => .error fault
    | .ok x, .ok y => Node.andV x y
  | .orD left right =>
    match left.node, right.node with
    | .error fault, _ => .error fault
    | .ok _, .error fault => .error fault
    | .ok x, .ok y => Node.orD x y
  | .orI left right =>
    match left.node, right.node with
    | .error fault, _ => .error fault
    | .ok _, .error fault => .error fault
    | .ok x, .ok y => Node.orI x y
  | .thresh required items =>
    match nodes items with
    | .error fault => .error fault
    | .ok xs => Node.thresh required xs
  | .wrap wrapper argument =>
    match argument.node with
    | .error fault => .error fault
    | .ok x => Node.wrap wrapper x

def nodes : List Miniscript → Except TypeFault (List Node)
  | [] => .ok []
  | item :: items =>
    match item.node, nodes items with
    | .error fault, _ => .error fault
    | .ok _, .error fault => .error fault
    | .ok x, .ok xs => .ok (x :: xs)

end

end Miniscript

end SpendPolicy
