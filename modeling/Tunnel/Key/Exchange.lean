import Tunnel.Key.Basic

/-!
# Public keys

The public key of a private key is the product of the base point of
Curve25519 with the private key read as a clamped scalar.  The curve is
`y² = x³ + 486662 x² + x` over the integers modulo `2²⁵⁵ - 19`, and only the
`x` coordinate is used, so the product is a ladder: one doubling and one
differential addition for each bit of the scalar.
-/

namespace Tunnel

namespace Curve25519

/-- The modulus of the field. -/
def modulus : Nat := (1 <<< 255) - 19

/-- A quarter of the curve's coefficient less two. -/
def ladderConstant : Nat := 121665

/-- The `x` coordinate of the base point. -/
def basePoint : Nat := 9

def add (left right : Nat) : Nat := (left + right) % modulus

def sub (left right : Nat) : Nat := (left + modulus - right) % modulus

def mul (left right : Nat) : Nat := (left * right) % modulus

/-- A power, by squaring along the bits of the exponent. -/
def pow (base exponent : Nat) : Nat :=
  if exponent = 0 then 1
  else
    let half := pow base (exponent / 2)
    let square := mul half half
    if exponent % 2 = 0 then square else mul square base
termination_by exponent

/-- The inverse of a field element that is not zero. -/
def inverse (value : Nat) : Nat := pow value (modulus - 2)

/-- A point by its projective `x` coordinate. -/
structure Point where
  x : Nat
  z : Nat

/--
One rung: from points that differ by the base point of the ladder, twice the
first and the sum of both.
-/
def rung (difference : Nat) (first second : Point) : Point × Point :=
  let a := add first.x first.z
  let b := sub first.x first.z
  let c := add second.x second.z
  let d := sub second.x second.z
  let aa := mul a a
  let bb := mul b b
  let e := sub aa bb
  let da := mul d a
  let cb := mul c b
  let sum := add da cb
  let gap := sub da cb
  ({ x := mul aa bb, z := mul e (add aa (mul ladderConstant e)) },
    { x := mul sum sum, z := mul difference (mul gap gap) })

/-- The `x` coordinate of a multiple of a point. -/
def multiply (scalar point : Nat) : Nat :=
  let step := fun (pair : Point × Point) (position : Nat) =>
    if scalar.testBit position then
      let (second, first) := rung point pair.2 pair.1
      (first, second)
    else rung point pair.1 pair.2
  let start : Point × Point := (⟨1, 0⟩, ⟨point, 1⟩)
  let (result, _) := (List.range 255).reverse.foldl step start
  mul result.x (inverse result.z)

/--
The scalar of a private key: a multiple of eight with its highest bit at
place 254.
-/
def clamp (value : Nat) : Nat :=
  let reduced := value % (1 <<< 255)
  reduced - reduced % 8 ||| (1 <<< 254)

end Curve25519

namespace Key

/-- The octets of a number below the field's modulus, as a key. -/
def ofField (value : Nat) : Key :=
  ⟨⟨littleEndian 32 value, length_littleEndian 32 value⟩⟩

/-- The public key of a private key. -/
def publicKey (secret : Key) : Key :=
  let scalar := Curve25519.clamp (littleEndianValue secret.octets.toList)
  ofField (Curve25519.multiply scalar Curve25519.basePoint)

/-- A private key from thirty-two random octets. -/
def clamped (entropy : Octets 32) : Key :=
  ofField (Curve25519.clamp (littleEndianValue entropy.toList))

end Key

/-- A fresh pair from thirty-two random octets. -/
def KeyPair.generate (entropy : Octets 32) : KeyPair :=
  let secret := Key.clamped entropy
  { secret, shared := secret.publicKey }

end Tunnel
