import SecretRotation.Material.Der
import SecretRotation.Material.Entropy
import SecretRotation.Material.Prime

/-!
# RSA keys

A key is two primes. The public exponent is `65537` for every key, and all other numbers follow from the primes.

## Main definitions

* `RsaKey`: the two primes, with `RsaKey.modulus` and the other numbers of the key.
* `RsaKey.generate?`: a key with a modulus of a given size.
* `RsaKey.privateDer`, `RsaKey.publicDer`: the encodings.
-/

namespace SecretRotation

/-- The two primes of a key. -/
structure RsaKey where
  p : Nat
  q : Nat
deriving DecidableEq

namespace RsaKey

/-- The public exponent, a prime. -/
def exponent : Nat := 65537

/-- The product of the primes. -/
def modulus (k : RsaKey) : Nat := k.p * k.q

/-- The number of residues without a common factor with the modulus. -/
def totient (k : RsaKey) : Nat := (k.p - 1) * (k.q - 1)

/-- The inverse of the public exponent modulo the totient: the multiple of the totient that is minus one modulo the
exponent, plus one, divided by the exponent. -/
def privateExponent (k : RsaKey) : Nat :=
  let multiple := exponent - Modular.inverse exponent (k.totient % exponent)
  (1 + k.totient * multiple) / exponent

/-- The odd number of a given count of bits, whose first two bits are ones, that entropy leads to. -/
def candidate (bits : Nat) (e : Entropy) : Nat × Entropy :=
  let (n, e) := e.below (Nat.pow 2 (bits - 2))
  (Nat.pow 2 (bits - 1) + Nat.pow 2 (bits - 2) + n / 2 * 2 + 1, e)

/-- A prime of a given count of bits that the public exponent allows. -/
def prime? (bits : Nat) (e : Entropy) : Option (Nat × Entropy) := do
  let (start, e) := candidate bits e
  let p ← Prime.search (fun n => (n - 1) % exponent != 0) (32 * bits) start
  if p < Nat.pow 2 bits then pure (p, e) else none

/-- A key whose modulus has a given count of bits. Both primes begin with two ones, so their product is not shorter than
their lengths together. -/
def generate? (bits : Nat) (e : Entropy) : Option (RsaKey × Entropy) := do
  let (p, e) ← prime? ((bits + 1) / 2) e
  let (q, e) ← prime? (bits / 2) e
  if p ≠ q then pure (⟨p, q⟩, e) else none

/-- The private encoding: a version and the eight numbers of the key. -/
def privateDer (k : RsaKey) : List UInt8 :=
  let d := k.privateExponent
  Der.sequence ([0, k.modulus, exponent, d, k.p, k.q, d % (k.p - 1), d % (k.q - 1), Modular.inverse k.p k.q].map
    Der.natural)

/-- The public encoding: modulus and exponent. -/
def publicDer (k : RsaKey) : List UInt8 :=
  Der.sequence ([k.modulus, exponent].map Der.natural)

end RsaKey

end SecretRotation
