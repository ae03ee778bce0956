import SpendPolicy.Policy.Basic

set_option autoImplicit false

namespace SpendPolicy

/-- The wrappers `v`, `s`, `a` and `n` change the type of their argument. `l` and `u` stand for
`or_i` with a branch that cannot be taken, on the left or on the right. -/
inductive Wrapper where
  | v
  | s
  | a
  | n
  | l
  | u
deriving DecidableEq, Repr

def Wrapper.letter : Wrapper → Char
  | .v => 'v'
  | .s => 's'
  | .a => 'a'
  | .n => 'n'
  | .l => 'l'
  | .u => 'u'

def Wrapper.all : List Wrapper :=
  [.v, .s, .a, .n, .l, .u]

inductive Miniscript where
  | zero
  | key (name : Text)
  | after (value : Nat)
  | older (value : Nat)
  | hash (algorithm : HashAlgorithm) (digest : Bytes)
  | andV (left right : Miniscript)
  | orD (left right : Miniscript)
  | orI (left right : Miniscript)
  | thresh (required : Nat) (items : List Miniscript)
  | wrap (wrapper : Wrapper) (argument : Miniscript)
deriving Repr

namespace Miniscript

/-- Every letter that may stand before the colon, those of wrappers unused here included. -/
def wrapperLetters : List Char :=
  ['a', 's', 'c', 't', 'd', 'v', 'j', 'n', 'l', 'u']

def isWrapped (s : Text) : Bool :=
  !(s.takeWhile wrapperLetters.contains).isEmpty
    && (s.dropWhile wrapperLetters.contains).head? == some ':'

def attach (wrappers s : Text) : Text :=
  if isWrapped s then wrappers ++ s else wrappers ++ ':' :: s

mutual

def text : Miniscript → Text
  | .zero => ['0']
  | .key name => Form.key name
  | .after value => Form.after value
  | .older value => Form.older value
  | .hash algorithm digest => Form.hash algorithm (Hex.encode digest)
  | .andV left right => Form.call ['a', 'n', 'd', '_', 'v'] [left.text, right.text]
  | .orD left right => Form.call ['o', 'r', '_', 'd'] [left.text, right.text]
  | .orI left right => Form.call ['o', 'r', '_', 'i'] [left.text, right.text]
  | .thresh required items => Form.thresh required (texts items)
  | .wrap wrapper argument => attach [wrapper.letter] argument.text

def texts : List Miniscript → List Text
  | [] => []
  | item :: items => item.text :: texts items

end

mutual

def keys : Miniscript → List Text
  | .key name => [name]
  | .andV left right | .orD left right | .orI left right => left.keys ++ right.keys
  | .thresh _ items => keysOfAll items
  | .wrap _ argument => argument.keys
  | .zero | .after _ | .older _ | .hash _ _ => []

def keysOfAll : List Miniscript → List Text
  | [] => []
  | item :: items => item.keys ++ keysOfAll items

end

@[simp] theorem texts_eq_map (items : List Miniscript) : texts items = items.map text := by
  induction items with
  | nil => simp [texts]
  | cons item items ih => simp [texts, ih]

@[simp] theorem keysOfAll_eq_flatMap (items : List Miniscript) :
    keysOfAll items = items.flatMap keys := by
  induction items with
  | nil => simp [keysOfAll]
  | cons item items ih => simp [keysOfAll, ih]

end Miniscript

end SpendPolicy
