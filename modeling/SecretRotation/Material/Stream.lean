import SecretRotation.Material.Entropy
import SecretRotation.Material.Sha512

/-!
# Entropy from a seed

A seed of random bytes is stretched into an endless row: each block of the row is the hash of the seed and of the number of
the block.

## Main definitions

* `Entropy.ofSeed`: the row of a seed.
-/

namespace SecretRotation.Entropy

/-- The bytes of a number in base 256, the last one first. -/
def counterBytes (n : Nat) : List UInt8 :=
  (List.range 8).map fun i => UInt8.ofNat (n / Nat.pow 256 i)

/-- The block with a number. -/
def block (seed : List UInt8) (n : Nat) : List UInt8 :=
  Sha512.hash (seed ++ counterBytes n)

/-- The endless row of a seed. -/
def ofSeed (seed : List UInt8) : Entropy :=
  ⟨fun i => (block seed (i / 64)).getD (i % 64) 0, 0⟩

end SecretRotation.Entropy
