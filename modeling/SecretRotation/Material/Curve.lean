import SecretRotation.Material.Der
import SecretRotation.Material.Entropy
import SecretRotation.Material.Kind
import SecretRotation.Material.Modular

/-!
# Elliptic-curve keys

Keys on the three curves `y² = x³ - 3x + b` over a prime field. The private key is a number, the public key the multiple
of the base point by it.

## Main definitions

* `CurveParameters`, `NistCurve.parameters`: field, coefficient, base point and its order.
* `JacobianPoint`: points with a common denominator, with addition and multiples.
* `EcKey`: a private key; `EcKey.generate`, `EcKey.privateDer`, `EcKey.publicDer`.
-/

namespace SecretRotation

/-- What defines a curve and its keys. -/
structure CurveParameters where
  /-- The prime of the field. -/
  field : Nat
  b : Nat
  baseX : Nat
  baseY : Nat
  /-- The order of the base point. -/
  order : Nat
  /-- The bytes of a coordinate. -/
  width : Nat
  /-- The identifier of the curve, encoded. -/
  identifier : List UInt8

namespace NistCurve

/-- The parameters of the curves. -/
def parameters : NistCurve → CurveParameters
  | p256 =>
    { field := Nat.pow 2 256 - Nat.pow 2 224 + Nat.pow 2 192 + Nat.pow 2 96 - 1
      b := 0x5AC635D8AA3A93E7B3EBBD55769886BC651D06B0CC53B0F63BCE3C3E27D2604B
      baseX := 0x6B17D1F2E12C4247F8BCE6E563A440F277037D812DEB33A0F4A13945D898C296
      baseY := 0x4FE342E2FE1A7F9B8EE7EB4A7C0F9E162BCE33576B315ECECBB6406837BF51F5
      order := 0xFFFFFFFF00000000FFFFFFFFFFFFFFFFBCE6FAADA7179E84F3B9CAC2FC632551
      width := 32
      identifier := [0x2A, 0x86, 0x48, 0xCE, 0x3D, 0x03, 0x01, 0x07] }
  | p384 =>
    { field := Nat.pow 2 384 - Nat.pow 2 128 - Nat.pow 2 96 + Nat.pow 2 32 - 1
      b := 0xB3312FA7E23EE7E4988E056BE3F82D19181D9C6EFE8141120314088F5013875AC656398D8A2ED19D2A85C8EDD3EC2AEF
      baseX := 0xAA87CA22BE8B05378EB1C71EF320AD746E1D3B628BA79B9859F741E082542A385502F25DBF55296C3A545E3872760AB7
      baseY := 0x3617DE4A96262C6F5D9E98BF9292DC29F8F41DBD289A147CE9DA3113B5F0B8C00A60B1CE1D7E819D7A431D7C90EA0E5F
      order := 0xFFFFFFFFFFFFFFFFFFFFFFFFFFFFFFFFFFFFFFFFFFFFFFFFC7634D81F4372DDF581A0DB248B0A77AECEC196ACCC52973
      width := 48
      identifier := [0x2B, 0x81, 0x04, 0x00, 0x22] }
  | p521 =>
    { field := Nat.pow 2 521 - 1
      b := 0x51953EB9618E1C9A1F929A21A0B68540EEA2DA725B99B315F3B8B489918EF109E156193951EC7E937B1652C0BD3BB1BF073573DF883D2C34F1EF451FD46B503F00
      baseX := 0xC6858E06B70404E9CD9E3ECB662395B4429C648139053FB521F828AF606B4D3DBAA14B5E77EFE75928FE1DC127A2FFA8DE3348B3C1856A429BF97E7E31C2E5BD66
      baseY := 0x11839296A789A3BC0045C8A5FB42C7D1BD998F54449579B446817AFBD17273E662C97EE72995EF42640C550B9013FAD0761353C7086A272C24088BE94769FD16650
      order := 0x1FFFFFFFFFFFFFFFFFFFFFFFFFFFFFFFFFFFFFFFFFFFFFFFFFFFFFFFFFFFFFFFFFA51868783BF2F966B7FCC0148F709A5D03BB5C9B8899C47AEBB6FB71E91386409
      width := 66
      identifier := [0x2B, 0x81, 0x04, 0x00, 0x23] }

end NistCurve

/-- A point `(x / z², y / z³)` of a curve; the point at infinity has no `z`. -/
structure JacobianPoint where
  x : Nat
  y : Nat
  z : Nat

namespace JacobianPoint

/-- The point at infinity. -/
def infinity : JacobianPoint := ⟨1, 1, 0⟩

/-- Twice a point, in the field of `p` elements. -/
def double (p : Nat) (a : JacobianPoint) : JacobianPoint :=
  if a.z = 0 ∨ a.y = 0 then infinity
  else
    let delta := a.z * a.z % p
    let gamma := a.y * a.y % p
    let beta := a.x * gamma % p
    let alpha := 3 * Modular.sub p a.x delta * (a.x + delta) % p
    let x := Modular.sub p (alpha * alpha) (8 * beta)
    let z := 2 * a.y * a.z % p
    let y := Modular.sub p (alpha * Modular.sub p (4 * beta) x) (8 * gamma * gamma)
    ⟨x, y, z⟩

/-- The sum of two points. -/
def add (p : Nat) (a b : JacobianPoint) : JacobianPoint :=
  if a.z = 0 then b
  else if b.z = 0 then a
  else
    let zz1 := a.z * a.z % p
    let zz2 := b.z * b.z % p
    let u1 := a.x * zz2 % p
    let s1 := a.y * zz2 % p * b.z % p
    let h := Modular.sub p (b.x * zz1) u1
    let r := Modular.sub p (b.y * zz1 % p * a.z) s1
    if h = 0 then
      if r = 0 then double p a else infinity
    else
      let hh := h * h % p
      let hhh := hh * h % p
      let v := u1 * hh % p
      let x := Modular.sub p (Modular.sub p (r * r) hhh) (2 * v)
      let y := Modular.sub p (r * Modular.sub p v x) (s1 * hhh)
      ⟨x, y, a.z * b.z % p * h % p⟩

/-- The multiple of a point, bit by bit of the factor. -/
def multiple (p : Nat) (a : JacobianPoint) (factor : Nat) : JacobianPoint :=
  if _h : factor = 0 then infinity
  else
    let twice := double p (multiple p a (factor / 2))
    if factor % 2 = 1 then add p twice a else twice
termination_by factor
decreasing_by exact Nat.div_lt_self (Nat.pos_of_ne_zero _h) (by decide)

/-- The two coordinates. -/
def coordinates (p : Nat) (a : JacobianPoint) : Nat × Nat :=
  let inverse := Modular.inverse p a.z
  let square := inverse * inverse % p
  (a.x * square % p, a.y * square % p * inverse % p)

end JacobianPoint

/-- A private key: a curve and a number below the order of its base point. -/
structure EcKey where
  curve : NistCurve
  scalar : Nat
deriving DecidableEq

namespace EcKey

/-- A key on a curve. The number is not zero. -/
def generate (curve : NistCurve) (e : Entropy) : EcKey × Entropy :=
  let (n, e) := e.below (curve.parameters.order - 1)
  (⟨curve, n + 1⟩, e)

/-- The public point, uncompressed. -/
def point (k : EcKey) : List UInt8 :=
  let c := k.curve.parameters
  let (x, y) := (JacobianPoint.multiple c.field ⟨c.baseX, c.baseY, 1⟩ k.scalar).coordinates c.field
  0x04 :: Der.fixed c.width x ++ Der.fixed c.width y

/-- The private encoding: a version, the number and the public point. -/
def privateDer (k : EcKey) : List UInt8 :=
  Der.sequence
    [Der.natural 1, Der.octets (Der.fixed k.curve.parameters.width k.scalar), Der.element 0xA1 (Der.bits k.point)]

/-- The identifier of elliptic-curve keys, encoded. -/
def algorithm : List UInt8 := [0x2A, 0x86, 0x48, 0xCE, 0x3D, 0x02, 0x01]

/-- The public encoding: algorithm, curve and point. -/
def publicDer (k : EcKey) : List UInt8 :=
  Der.sequence
    [Der.sequence [Der.identifier algorithm, Der.identifier k.curve.parameters.identifier], Der.bits k.point]

end EcKey

end SecretRotation
