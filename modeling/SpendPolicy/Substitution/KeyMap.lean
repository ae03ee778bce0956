import SpendPolicy.Text.Basic

set_option autoImplicit false

namespace SpendPolicy

structure KeyMap where
  pairs : List (Text × Text)
deriving DecidableEq, Repr

namespace KeyMap

def placeholders (m : KeyMap) : List Text :=
  m.pairs.map Prod.fst

def keys (m : KeyMap) : List Text :=
  m.pairs.map Prod.snd

def get? (m : KeyMap) (placeholder : Text) : Option Text :=
  m.pairs.lookup placeholder

def comesBefore (a b : Text) : Bool :=
  decide (b.length < a.length) || (a.length == b.length && !decide (b < a))

def placeholdersByLength (m : KeyMap) : List Text :=
  m.placeholders.mergeSort comesBefore

end KeyMap

end SpendPolicy
