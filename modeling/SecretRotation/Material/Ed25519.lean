import SecretRotation.Material.Der
import SecretRotation.Material.Entropy
import SecretRotation.Material.Modular
import SecretRotation.Material.Sha512

/-!
# Ed25519 keys

The private key is a seed of thirty-two bytes. The first half of its hash, with some bits set, is the factor by which the
base point of the curve `-x² + y² = 1 + d·x²·y²` is multiplied to give the public key.

## Main definitions

* `EdwardsPoint`: points with a common denominator, with addition and multiples.
* `Ed25519Key`: a private key; `Ed25519Key.generate`, `Ed25519Key.publicBytes`.
* `Ed25519Key.privateDer`, `Ed25519Key.publicDer`: the encodings.
-/

namespace SecretRotation

/-- A point `(x / z, y / z)` with `t = x·y / z`. -/
structure EdwardsPoint where
  x : Nat
  y : Nat
  z : Nat
  t : Nat

namespace EdwardsPoint

/-- The prime of the field. -/
def field : Nat := Nat.pow 2 255 - 19

/-- Twice the coefficient of the curve. -/
def twiceD : Nat :=
  2 * (Modular.sub field 0 121665 * Modular.inverse field 121666) % field

/-- The neutral point. -/
def neutral : EdwardsPoint := ⟨0, 1, 1, 0⟩

/-- The base point: four fifths high, with an even `x`. -/
def base : EdwardsPoint :=
  let x := 15112221349535400772501151409588531511454012693041857206046113283949847762202
  let y := 4 * Modular.inverse field 5 % field
  ⟨x, y, 1, x * y % field⟩

/-- The sum of two points, equal or not. -/
def add (p q : EdwardsPoint) : EdwardsPoint :=
  let a := Modular.sub field p.y p.x * Modular.sub field q.y q.x % field
  let b := (p.y + p.x) * (q.y + q.x) % field
  let c := p.t * twiceD % field * q.t % field
  let d := 2 * p.z * q.z % field
  let e := Modular.sub field b a
  let f := Modular.sub field d c
  let g := (d + c) % field
  let h := (b + a) % field
  ⟨e * f % field, g * h % field, f * g % field, e * h % field⟩

/-- The multiple of a point, bit by bit of the factor. -/
def multiple (p : EdwardsPoint) (factor : Nat) : EdwardsPoint :=
  if _h : factor = 0 then neutral
  else
    let half := multiple p (factor / 2)
    let twice := add half half
    if factor % 2 = 1 then add twice p else twice
termination_by factor
decreasing_by exact Nat.div_lt_self (Nat.pos_of_ne_zero _h) (by decide)

/-- The thirty-two bytes of a point, low byte first: `y`, and whether `x` is odd in the top bit. -/
def bytes (p : EdwardsPoint) : List UInt8 :=
  let inverse := Modular.inverse field p.z
  let x := p.x * inverse % field
  let y := p.y * inverse % field
  (Der.fixed 32 (y + x % 2 * Nat.pow 2 255)).reverse

end EdwardsPoint

/-- A private key: its seed. -/
structure Ed25519Key where
  seed : List UInt8
deriving DecidableEq

namespace Ed25519Key

/-- A key from the next thirty-two bytes. -/
def generate (e : Entropy) : Ed25519Key × Entropy :=
  let (seed, e) := e.draw 32
  (⟨seed⟩, e)

/-- The factor of a key: the first half of the hash of the seed, low byte first, without its three low bits and its top
bit and with the bit below that. -/
def factor (k : Ed25519Key) : Nat :=
  let n := Entropy.bigEndian ((Sha512.hash k.seed).take 32).reverse
  Nat.pow 2 254 + n % Nat.pow 2 254 / 8 * 8

/-- The public key. -/
def publicBytes (k : Ed25519Key) : List UInt8 :=
  (EdwardsPoint.base.multiple k.factor).bytes

/-- The identifier of the algorithm, encoded. -/
def algorithm : List UInt8 := Der.sequence [Der.identifier [0x2B, 0x65, 0x70]]

/-- The private encoding: a version, the algorithm, the seed and the public key. -/
def privateDer (k : Ed25519Key) : List UInt8 :=
  Der.sequence
    [Der.natural 1, algorithm, Der.octets (Der.octets k.seed), Der.element 0x81 (Der.bitContent k.publicBytes)]

/-- The public encoding: the algorithm and the public key. -/
def publicDer (k : Ed25519Key) : List UInt8 :=
  Der.sequence [algorithm, Der.bits k.publicBytes]

end Ed25519Key

end SecretRotation
