import SpendPolicy.Hex
import SpendPolicy.Numeral.Positional

set_option autoImplicit false

namespace SpendPolicy.Secp256k1

def fieldPrime : Nat :=
  0xFFFFFFFFFFFFFFFFFFFFFFFFFFFFFFFFFFFFFFFFFFFFFFFFFFFFFFFEFFFFFC2F

def groupOrder : Nat :=
  0xFFFFFFFFFFFFFFFFFFFFFFFFFFFFFFFEBAAEDCE6AF48A03BBFD25E8CD0364141

def bits (n : Nat) : List Bool :=
  (List.range 256).reverse.map n.testBit

def power (base exponent : Nat) : Nat :=
  (bits exponent).foldl
    (fun acc bit =>
      let squared := acc * acc % fieldPrime
      if bit then squared * base % fieldPrime else squared)
    1

def inverse (x : Nat) : Nat :=
  power x (fieldPrime - 2)

def subtract (x y : Nat) : Nat :=
  (x + (fieldPrime - y % fieldPrime)) % fieldPrime

inductive Point where
  | infinity
  | affine (x y : Nat)
deriving DecidableEq, Repr

def generator : Point :=
  .affine
    0x79BE667EF9DCBBAC55A06295CE870B07029BFCDB2DCE28D959F2815B16F81798
    0x483ADA7726A3C4655DA4FBFC0E1108A8FD17B448A68554199C47D08FFB10D4B8

def Point.along (slope x1 y1 x2 : Nat) : Point :=
  let x3 := subtract (subtract (slope * slope) x1) x2
  .affine x3 (subtract (slope * subtract x1 x3) y1)

def Point.add : Point → Point → Point
  | .infinity, q => q
  | p, .infinity => p
  | .affine x1 y1, .affine x2 y2 =>
    if x1 = x2 then
      -- The points are opposite, or one point whose tangent is taken.
      if (y1 + y2) % fieldPrime = 0 then .infinity
      else Point.along (3 * x1 * x1 * inverse (2 * y1 % fieldPrime) % fieldPrime) x1 y1 x2
    else
      Point.along (subtract y2 y1 * inverse (subtract x2 x1) % fieldPrime) x1 y1 x2

def Point.multiple (scalar : Nat) (p : Point) : Point :=
  (bits scalar).foldl
    (fun acc bit => if bit then (acc.add acc).add p else acc.add acc)
    .infinity

def bigEndian (width n : Nat) : Bytes :=
  (List.range width).reverse.map fun i => UInt8.ofNat (n >>> (8 * i))

def Point.compressed : Point → Bytes
  | .infinity => [0]
  | .affine x y => (if y % 2 = 0 then 0x02 else 0x03) :: bigEndian 32 x

def isPrivateScalar (secret : Bytes) : Bool :=
  let n := Positional.value 256 (secret.map UInt8.toNat)
  decide (0 < n) && decide (n < groupOrder)

def isSquare (n : Nat) : Bool :=
  let r := n % fieldPrime
  r == 0 || power r ((fieldPrime - 1) / 2) == 1

def isCompressedPoint : Bytes → Bool
  | [] => false
  | parity :: rest =>
    let x := Positional.value 256 (rest.map UInt8.toNat)
    (parity == 0x02 || parity == 0x03) && rest.length == 32 && decide (x < fieldPrime)
      && isSquare (x * x * x + 7)

def publicKey (index : Nat) : Bytes :=
  (Point.multiple index generator).compressed

end SpendPolicy.Secp256k1
