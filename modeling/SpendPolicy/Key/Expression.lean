import SpendPolicy.Hex

set_option autoImplicit false

namespace SpendPolicy

structure KeyExpression where
  origin : Option Text
  key : Text
  path : Option Text
deriving DecidableEq, Repr

namespace KeyExpression

def split (s : Text) : KeyExpression :=
  let (origin, rest) := match s.cut? ']' with
    | some (before, after) => (some (before ++ [']']), after)
    | none => (none, s)
  match rest.cut? '/' with
  | some (key, path) => ⟨origin, key, some ('/' :: path)⟩
  | none => ⟨origin, rest, none⟩

def isNumber (s : Text) : Bool :=
  !s.isEmpty && s.all isAsciiDigit

def hardenedMarks : List Char :=
  ['\'', 'h', 'H']

def isStep (s : Text) : Bool :=
  isNumber s || match s.getLast? with
    | some mark => hardenedMarks.contains mark && isNumber s.dropLast
    | none => false

def isChoice : Text → Bool
  | '<' :: s =>
    s.getLast? == some '>' && match Text.parts ';' s.dropLast with
      | [first, second] => isNumber first && isNumber second
      | _ => false
  | _ => false

def isWildcard (s : Text) : Bool :=
  s = ['*'] || s = ['*', '*'] || hardenedMarks.any fun mark => s = ['*', mark]

def isOrigin : Text → Bool
  | '[' :: s =>
    s.getLast? == some ']' && match Text.parts '/' s.dropLast with
      | fingerprint :: steps =>
        fingerprint.length == 8 && fingerprint.all Hex.isDigit && steps.all isStep
      | [] => false
  | _ => false

def areComponents : List Text → Bool
  | [] => true
  | [last] => isStep last || isChoice last || isWildcard last
  | component :: rest => (isStep component || isChoice component) && areComponents rest

def dropLineEnd (s : Text) : Text :=
  if s.getLast? = some '\n' then s.dropLast else s

def isDerivation (s : Text) : Bool :=
  -- A slash before each component; one line feed may follow.
  match Text.parts '/' (dropLineEnd s) with
  | [] :: components => areComponents components
  | _ => false

end KeyExpression

end SpendPolicy
