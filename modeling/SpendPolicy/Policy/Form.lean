import SpendPolicy.Numeral.Integer
import SpendPolicy.HashAlgorithm

set_option autoImplicit false

namespace SpendPolicy.Form

def call (name : Text) (arguments : List Text) : Text :=
  name ++ '(' :: Text.commaSeparated arguments ++ [')']

def key (name : Text) : Text :=
  call ['p', 'k'] [name]

def after (value : Int) : Text :=
  call ['a', 'f', 't', 'e', 'r'] [Numeral.ofInt value]

def older (value : Int) : Text :=
  call ['o', 'l', 'd', 'e', 'r'] [Numeral.ofInt value]

def hash (algorithm : HashAlgorithm) (digest : Text) : Text :=
  call algorithm.name [digest]

def and (left right : Text) : Text :=
  call ['a', 'n', 'd'] [left, right]

def or (left right : Text) : Text :=
  call ['o', 'r'] [left, right]

def thresh (required : Int) (items : List Text) : Text :=
  call ['t', 'h', 'r', 'e', 's', 'h'] (Numeral.ofInt required :: items)

end SpendPolicy.Form
