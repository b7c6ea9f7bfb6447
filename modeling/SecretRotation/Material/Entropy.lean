/-!
# Entropy

Randomness is an input: an endless row of bytes, read from front to back. What is generated is a function of the bytes
read, and no byte is read twice.

## Main definitions

* `Entropy`: the row of bytes and the place reached in it.
* `Entropy.draw`: the next bytes and what is left.
-/

namespace SecretRotation

/-- An endless row of random bytes and the place reached in it. -/
structure Entropy where
  byte : Nat → UInt8
  position : Nat

namespace Entropy

/-- The next `n` bytes. -/
def next (e : Entropy) (n : Nat) : List UInt8 :=
  (List.range n).map fun i => e.byte (e.position + i)

/-- What is left after `n` more bytes. -/
def skip (e : Entropy) (n : Nat) : Entropy := ⟨e.byte, e.position + n⟩

/-- The next `n` bytes and what is left after them. -/
def draw (e : Entropy) (n : Nat) : List UInt8 × Entropy := (e.next n, e.skip n)

@[simp] theorem length_next (e : Entropy) (n : Nat) : (e.next n).length = n := by simp [next]

/-- The value of bytes in base 256, the first one counting most. -/
def bigEndian (bytes : List UInt8) : Nat :=
  bytes.foldl (fun n b => 256 * n + b.toNat) 0

/-- A number below `bound`, and what is left. Eight bytes more are drawn than the bound has, so that all numbers are
almost equally likely. -/
def below (e : Entropy) (bound : Nat) : Nat × Entropy :=
  let (bytes, rest) := e.draw (bound.log2 / 8 + 9)
  (bigEndian bytes % bound, rest)

end Entropy

end SecretRotation
