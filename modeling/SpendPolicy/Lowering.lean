import SpendPolicy.Compilation
import SpendPolicy.Miniscript.Scope
import SpendPolicy.Policy.Reader

set_option autoImplicit false

namespace SpendPolicy

inductive LoweringFault where
  | unsound (reason : UnsoundReason)
  | untyped (fault : TypeFault)
deriving DecidableEq, Repr

abbrev Typing := Miniscript → Except TypeFault Node

namespace Lowering

section Choice

variable {α : Type} (typing : Typing) (script : α → Miniscript) (fits : Miniscript → Node → Bool)

def chooseFrom (fallback : Option α) : List α → Except TypeFault (Option α)
  -- Looks through the candidates that are left; `fallback` is the first with a type so far. A
  -- candidate that breaks a requirement is passed over.
  | [] => .ok fallback
  | candidate :: rest =>
    match typing (script candidate) with
    | .error .requirement => chooseFrom fallback rest
    -- The other faults break no requirement, so they end the search.
    | .error fault => .error fault
    | .ok node =>
      if fits (script candidate) node then .ok (some candidate)
      else chooseFrom (fallback.or (some candidate)) rest

def choose (written : α → Text) (candidates : List α) : Except LoweringFault α :=
  match chooseFrom typing script fits none candidates with
  | .ok (some candidate) => .ok candidate
  | .ok none => .error (.unsound (.noCandidate (candidates.map written)))
  | .error fault => .error (.untyped fault)

end Choice

def pick (typing : Typing) (fits : Miniscript → Node → Bool) (candidates : List Miniscript) :
    Except LoweringFault Miniscript :=
  choose typing id fits Miniscript.text candidates

def isNonmalleable (m : Miniscript) (_ : Node) : Bool :=
  m.spending.nonmalleable

def isDissatisfiableUnit (expected : BaseType) (_ : Miniscript) (node : Node) : Bool :=
  node.type.isDissatisfiableUnit expected

def verified (x : Miniscript) : Miniscript :=
  .wrap .v x

def optional (x : Miniscript) : Miniscript :=
  .wrap .l (.wrap .n x)

def orCandidates (x y : Miniscript) : List Miniscript :=
  [.orD x y, .orD y x, .orI x y]

def firstCandidates (x : Miniscript) : List Miniscript :=
  [x, optional x]

def itemCandidates (x : Miniscript) : List Miniscript :=
  [.wrap .s x, .wrap .a x, .wrap .s (optional x), .wrap .a (optional x)]

def pickItems (typing : Typing) : List Miniscript → Except LoweringFault (List Miniscript)
  | [] => .ok []
  | x :: xs =>
    match pick typing (isDissatisfiableUnit .wrapped) (itemCandidates x) with
    | .error fault => .error fault
    | .ok item =>
      match pickItems typing xs with
      | .error fault => .error fault
      | .ok items => .ok (item :: items)

def thresh (typing : Typing) (required : Nat) (xs : List Miniscript) :
    Except LoweringFault Miniscript :=
  match xs with
  | [] => .error (.unsound (.noCandidate []))
  | x :: xs =>
    match pick typing (isDissatisfiableUnit .base) (firstCandidates x) with
    | .error fault => .error fault
    | .ok first =>
      match pickItems typing xs with
      | .error fault => .error fault
      | .ok items => .ok (.thresh required (first :: items))

end Lowering

namespace Policy

mutual

def lowerBy (typing : Typing) : Policy → Except LoweringFault Miniscript
  | .key name => .ok (.key name)
  | .after value => .ok (.after value)
  | .older value => .ok (.older value)
  | .hash algorithm digest => .ok (.hash algorithm digest)
  | .and left right =>
    match left.lowerBy typing with
    | .error fault => .error fault
    | .ok x =>
      match right.lowerBy typing with
      | .error fault => .error fault
      | .ok y => .ok (.andV (Lowering.verified x) y)
  | .or left right =>
    match left.lowerBy typing with
    | .error fault => .error fault
    | .ok x =>
      match right.lowerBy typing with
      | .error fault => .error fault
      | .ok y => Lowering.pick typing Lowering.isNonmalleable (Lowering.orCandidates x y)
  | .thresh required items =>
    match lowerAllBy typing items with
    | .error fault => .error fault
    | .ok xs => Lowering.thresh typing required xs
  | .unknown => .error (.unsound (.unknownPolicy Policy.unknown.text))

def lowerAllBy (typing : Typing) : List Policy → Except LoweringFault (List Miniscript)
  | [] => .ok []
  | item :: items =>
    match item.lowerBy typing with
    | .error fault => .error fault
    | .ok x =>
      match lowerAllBy typing items with
      | .error fault => .error fault
      | .ok xs => .ok (x :: xs)

end

def lower (policy : Policy) : Except LoweringFault Miniscript :=
  -- For a policy that was read: its names have no parentheses, so every script reads back as it is.
  policy.lowerBy Miniscript.node

def lowerTyped (policy : Policy) : Except LoweringFault (Miniscript × Node) :=
  -- The policy need not have been read, so its scripts are typed by their written form.
  let typing := Miniscript.nodeWithin policy.keys
  match policy.lowerBy typing with
  | .error fault => .error fault
  | .ok m =>
    match typing m with
    | .error fault => .error (.untyped fault)
    | .ok node => .ok (m, node)

def compile (policy : Policy) : Except CompileFailure Compilation :=
  if policy.keys.Nodup then
    match policy.lower with
    | .error (.unsound reason) => .ok (.unsound [] reason)
    | .error (.untyped fault) => .error (.untyped fault)
    | .ok m =>
      match m.node with
      | .error .requirement => .ok (.unsound [] .construction)
      | .error fault => .error (.untyped fault)
      | .ok node =>
        match m.insanity? node with
        | some insanity => .ok (.unsound m.text (.insane insanity))
        | none => .ok (.sound m.text)
  else .ok (.unsound [] .repeatedKey)

end Policy

def miniscriptCompiler : Compiler := fun s =>
  match Policy.read s with
  | .error cause => .error (.malformed cause)
  | .ok policy => policy.compile

end SpendPolicy
