import SpendPolicy.Text.Basic

set_option autoImplicit false

namespace SpendPolicy.DescriptorChecksum

def inputCharset : List Char :=
  ("0123456789()[],'/*abcdefgh@:$%\x7b\x7d" ++ "IJKLMNOPQRSTUVWXYZ&+-.;<=>?!^_|~"
    ++ "ijklmnopqrstuvwxyzABCDEFGH`#\"\\ ").toList

def checksumCharset : List Char :=
  "qpzry9x8gf2tvdw0s3jn54khce6mua7l".toList

def generators : List Nat :=
  [0xF5DEE51989, 0xA9FDCA3312, 0x1BAB10E32D, 0x3706B1677A, 0x644D626FFD]

def feedback (top : Nat) : Nat :=
  generators.zipIdx.foldl (fun acc g => if top.testBit g.2 then acc ^^^ g.1 else acc) 0

def polymod (state symbol : Nat) : Nat :=
  ((state &&& 0x7FFFFFFFF) <<< 5) ^^^ symbol ^^^ feedback (state >>> 35)

def polymodInt (state : Int) : Int → Int
  -- The step for integers of any sign, in two's complement. Of the state the low 40 bits count.
  | .ofNat symbol => .ofNat (polymod (state % 0x10000000000).toNat symbol)
  | .negSucc symbol => .negSucc (polymod (state % 0x10000000000).toNat symbol)

structure InvalidCharacter where
  char : Char
deriving DecidableEq, Repr

def InvalidCharacter.message (e : InvalidCharacter) : String :=
  s!"Invalid character '{Text.asString [e.char]}' in the descriptor"

def positions : Text → Except InvalidCharacter (List Nat)
  | [] => .ok []
  | c :: s =>
    match inputCharset.idxOf? c with
    | none => .error ⟨c⟩
    | some p =>
      match positions s with
      | .error e => .error e
      | .ok ps => .ok (p :: ps)

def symbols : List Nat → List Nat
  -- The low five bits of each position, and after every three the symbol of their classes; the
  -- last group may have fewer.
  | [] => []
  | [a] => [a % 32, a / 32]
  | [a, b] => [a % 32, b % 32, a / 32 * 3 + b / 32]
  | a :: b :: c :: rest =>
    [a % 32, b % 32, c % 32, (a / 32 * 3 + b / 32) * 3 + c / 32] ++ symbols rest

def remainder (state : Nat) (symbols : List Nat) : Nat :=
  symbols.foldl polymod state

def render (checksum : Nat) : Text :=
  (List.range 8).map fun j =>
    checksumCharset.getD ((checksum >>> (5 * (7 - j))) &&& 31) 'q'

def compute (descriptor : Text) : Except InvalidCharacter Text :=
  match positions descriptor with
  | .error e => .error e
  | .ok ps => .ok (render (remainder 1 (symbols ps ++ List.replicate 8 0) ^^^ 1))

def append (descriptor : Text) : Except InvalidCharacter Text :=
  -- The mark of the checksum is in the character set, so a descriptor ends at the first one.
  let plain := descriptor.takeWhile (· != '#')
  match compute plain with
  | .error e => .error e
  | .ok checksum => .ok (plain ++ '#' :: checksum)

end SpendPolicy.DescriptorChecksum
