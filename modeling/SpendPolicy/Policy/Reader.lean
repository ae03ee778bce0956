import SpendPolicy.Policy.Malformed

set_option autoImplicit false

namespace SpendPolicy.Policy

abbrev Rest (s : Text) := { rest : Text // rest.length < s.length }

def Rest.within {s t : Text} (h : t.length < s.length) (rest : Rest t) : Rest s :=
  ⟨rest.1, Nat.lt_trans rest.2 h⟩

inductive LeafName where
  | key
  | after
  | older
  | hash (algorithm : HashAlgorithm)
deriving DecidableEq, Repr

inductive PairName where
  | and
  | or
deriving DecidableEq, Repr

inductive Name where
  | leaf (name : LeafName)
  | pair (name : PairName)
  | thresh
deriving DecidableEq, Repr

def LeafName.text : LeafName → Text
  | .key => ['p', 'k']
  | .after => ['a', 'f', 't', 'e', 'r']
  | .older => ['o', 'l', 'd', 'e', 'r']
  | .hash algorithm => algorithm.name

def PairName.text : PairName → Text
  | .and => ['a', 'n', 'd']
  | .or => ['o', 'r']

def Name.text : Name → Text
  | .leaf name => name.text
  | .pair name => name.text
  | .thresh => ['t', 'h', 'r', 'e', 's', 'h']

def Name.all : List Name :=
  [.leaf .key, .leaf .after, .leaf .older] ++ HashAlgorithm.all.map (fun a => .leaf (.hash a))
    ++ [.pair .and, .pair .or, .thresh]

def Name.ofText? (s : Text) : Option Name :=
  Name.all.find? fun name => name.text == s

def readArguments (s : Text) : Except Malformed (List Text × Rest s) :=
  match h : s.cut? ')' with
  | none => .error (.unclosed s)
  | some (arguments, rest) =>
    if arguments.contains '(' then .error (.nested arguments)
    else .ok ((Text.parts ',' arguments).map Text.trim, ⟨rest, Text.length_of_cut? h⟩)

def readNumber (s : Text) : Except Malformed (Int × Rest s) :=
  match h : s.cut? ',' with
  | none => .error (.noNumber s)
  | some (number, rest) =>
    match Numeral.read? number with
    | none => .error (.badNumber number.trim)
    | some n => .ok (n, ⟨rest, Text.length_of_cut? h⟩)

def built (result : Except Fault Policy) : Except Malformed Policy :=
  result.mapError .unsound

def LeafName.build (name : LeafName) (argument : Text) : Except Malformed Policy :=
  match name with
  | .key => built (ofKey argument)
  | .after =>
    match Numeral.read? argument with
    | none => .error (.badValue name.text argument)
    | some value => built (ofAfter value)
  | .older =>
    match Numeral.read? argument with
    | none => .error (.badValue name.text argument)
    | some value => built (ofOlder value)
  | .hash algorithm =>
    match Hex.decode? argument with
    | none => .error (.badDigest name.text argument)
    | some digest => built (ofHash algorithm digest)

def PairName.build (name : PairName) (items : List Policy) : Except Malformed Policy :=
  match name, items with
  | .and, [left, right] => .ok (.and left right)
  | .or, [left, right] => .ok (.or left right)
  | name, items => .error (.branchCount name.text items.length)

def readLeaf (name : LeafName) (s : Text) : Except Malformed (Policy × Rest s) :=
  match readArguments s with
  | .error e => .error e
  | .ok (arguments, rest) =>
    -- No argument at all reads as one blank argument.
    match arguments with
    | [c :: argument] => (name.build (c :: argument)).map fun policy => (policy, rest)
    | _ => .error (.argumentCount name.text arguments)

theorem length_body_lt {s name body : Text} (h : s.trimLeft.cut? '(' = some (name, body)) :
    body.length < s.length :=
  Nat.lt_of_lt_of_le (Text.length_of_cut? h) (Text.length_trimLeft_le s)

theorem length_lt_of_trimLeft {s tail : Text} {mark : Char} (rest : Rest s)
    (h : rest.1.trimLeft = mark :: tail) : tail.length < s.length := by
  have shorter := rest.2
  have trimmed := Text.length_trimLeft_le rest.1
  rw [h, List.length_cons] at trimmed
  omega

mutual

def readOne (s : Text) : Except Malformed (Policy × Rest s) :=
  match h : s.trimLeft.cut? '(' with
  | none => .error (.noFragment s.trimLeft)
  | some ([], _) => .error (.noFragment s.trimLeft)
  | some (c :: name, body) =>
    -- The name is looked up before anything after its parenthesis is read.
    match Name.ofText? (Text.trim (c :: name)) with
    | none => .error (.unknownName (Text.trim (c :: name)))
    | some (.leaf leaf) =>
      match readLeaf leaf body with
      | .error e => .error e
      | .ok (policy, rest) => .ok (policy, rest.within (length_body_lt h))
    | some (.pair pair) =>
      match readMany body with
      | .error e => .error e
      | .ok (items, rest) =>
        (pair.build items).map fun policy => (policy, rest.within (length_body_lt h))
    | some .thresh =>
      match readNumber body with
      | .error e => .error e
      | .ok (required, list) =>
        match readMany list.1 with
        | .error e => .error e
        | .ok (items, rest) =>
          (built (ofThresh required items)).map fun policy =>
            (policy, (rest.within list.2).within (length_body_lt h))
termination_by 2 * s.length
decreasing_by
  · have := length_body_lt h
    omega
  · have := length_body_lt h
    have := list.2
    omega

def readMany (s : Text) : Except Malformed (List Policy × Rest s) :=
  match readOne s with
  | .error e => .error e
  | .ok (item, rest) =>
    match h : rest.1.trimLeft with
    | ')' :: tail => .ok ([item], ⟨tail, length_lt_of_trimLeft rest h⟩)
    | ',' :: tail =>
      match readMany tail with
      | .error e => .error e
      | .ok (items, last) => .ok (item :: items, last.within (length_lt_of_trimLeft rest h))
    | other => .error (.noSeparator other)
termination_by 2 * s.length + 1
decreasing_by
  · omega
  · have := length_lt_of_trimLeft rest h
    omega

end

def read (s : Text) : Except Malformed Policy :=
  if s.trim = [] then .error .empty
  else match readOne s with
    | .error e => .error e
    | .ok (policy, rest) =>
      if Text.trim rest.1 = [] then .ok policy else .error (.trailing (Text.trim rest.1))

end SpendPolicy.Policy
