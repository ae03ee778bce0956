import SpendPolicy.Hex
import SpendPolicy.Locktime
import SpendPolicy.Policy.Form

set_option autoImplicit false

namespace SpendPolicy

/-- `unknown` stands for a condition outside the language: it has no keys and cannot be compiled. -/
inductive Policy where
  | key (name : Text)
  | after (value : Nat)
  | older (value : Nat)
  | hash (algorithm : HashAlgorithm) (digest : Bytes)
  | and (left right : Policy)
  | or (left right : Policy)
  | thresh (required : Nat) (items : List Policy)
  | unknown
deriving Repr

namespace Policy

mutual

def text : Policy → Text
  | .key name => Form.key name
  | .after value => Form.after value
  | .older value => Form.older value
  | .hash algorithm digest => Form.hash algorithm (Hex.encode digest)
  | .and left right => Form.and left.text right.text
  | .or left right => Form.or left.text right.text
  | .thresh required items => Form.thresh required (texts items)
  | .unknown => Form.call ['u', 'n', 'k', 'n', 'o', 'w', 'n'] []

def texts : List Policy → List Text
  | [] => []
  | item :: items => item.text :: texts items

end

mutual

def keys : Policy → List Text
  | .key name => [name]
  | .and left right | .or left right => left.keys ++ right.keys
  | .thresh _ items => keysOfAll items
  | .after _ | .older _ | .hash _ _ | .unknown => []

def keysOfAll : List Policy → List Text
  | [] => []
  | item :: items => item.keys ++ keysOfAll items

end

inductive Kind where
  | key
  | after
  | older
  | hash
  | and
  | or
  | thresh
  | unknown
deriving DecidableEq, Repr

def kind : Policy → Kind
  | .key _ => .key
  | .after _ => .after
  | .older _ => .older
  | .hash _ _ => .hash
  | .and _ _ => .and
  | .or _ _ => .or
  | .thresh _ _ => .thresh
  | .unknown => .unknown

def alike (p q : Policy) : Bool :=
  -- Policies are compared by the kind of their root and by their canonical text.
  p.kind == q.kind && p.text == q.text

inductive Fault where
  | emptyKey
  | afterRange (value : Int)
  | olderRange (value : Int)
  | digestSize (algorithm : HashAlgorithm) (size : Nat)
  | itemCount (required : Int) (count : Nat)
deriving DecidableEq, Repr

def Fault.message : Fault → String
  | .emptyKey => "pk() needs a key"
  | .afterRange value =>
    s!"after() value must be between 1 and {Locktime.maximum}, got {value}"
  | .olderRange value =>
    s!"older() value must be between 1 and {Locktime.maximum}, got {value}"
  | .digestSize algorithm size =>
    s!"{algorithm.name.asString}() expects a {algorithm.digestSize}-byte digest, got {size} bytes"
  | .itemCount required count => s!"thresh() needs 1 <= k <= {count}, got k={required}"

def ofKey (name : Text) : Except Fault Policy :=
  if name = [] then .error .emptyKey else .ok (.key name)

def ofAfter (value : Int) : Except Fault Policy :=
  if Locktime.isInRange value then .ok (.after value.toNat) else .error (.afterRange value)

def ofOlder (value : Int) : Except Fault Policy :=
  if Locktime.isInRange value then .ok (.older value.toNat) else .error (.olderRange value)

def ofHash (algorithm : HashAlgorithm) (digest : Bytes) : Except Fault Policy :=
  if digest.length = algorithm.digestSize then .ok (.hash algorithm digest)
  else .error (.digestSize algorithm digest.length)

def ofThresh (required : Int) (items : List Policy) : Except Fault Policy :=
  if 1 ≤ required ∧ required ≤ items.length then .ok (.thresh required.toNat items)
  else .error (.itemCount required items.length)

@[simp] theorem texts_eq_map (items : List Policy) : texts items = items.map text := by
  induction items with
  | nil => simp [texts]
  | cons item items ih => simp [texts, ih]

@[simp] theorem keysOfAll_eq_flatMap (items : List Policy) :
    keysOfAll items = items.flatMap keys := by
  induction items with
  | nil => simp [keysOfAll]
  | cons item items ih => simp [keysOfAll, ih]

end Policy

end SpendPolicy
