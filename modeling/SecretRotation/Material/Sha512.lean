import SecretRotation.Material.Prime
import SecretRotation.Material.Der
import SecretRotation.Material.Entropy

/-!
# The hash of 512 bits

The compression function works on eight words of 64 bits in eighty rounds. Its constants are the first 64 bits of the
fractions of square and cube roots of the first primes, and are computed from them.

## Main definitions

* `Sha512.hash`: the sixty-four bytes of the hash.
-/

namespace SecretRotation.Sha512

/-- The largest number whose power does not exceed `n`, found bit by bit. -/
def root (degree n : Nat) : Nat :=
  (List.range 70).foldr (fun bit r => if Nat.pow (r + Nat.pow 2 bit) degree ≤ n then r + Nat.pow 2 bit else r) 0

/-- The first 64 bits of the fraction of a root. -/
def rootFraction (degree n : Nat) : UInt64 :=
  UInt64.ofNat (root degree (n * Nat.pow 2 (64 * degree)))

/-- The words before the first block: from the square roots of the first eight primes. -/
def initial : List UInt64 := (Prime.small.take 8).map (rootFraction 2)

/-- The words of the rounds: from the cube roots of the first eighty primes. -/
def roundConstants : List UInt64 := (Prime.small.take 80).map (rootFraction 3)

/-- The bits of a word moved to the right, those that fall out coming back on the left. -/
def rotate (w : UInt64) (n : UInt64) : UInt64 := (w >>> n) ||| (w <<< (64 - n))

/-- The words of a block with `n` more words derived from them, last word first. -/
def extend (words : List UInt64) : Nat → List UInt64
  | 0 => words
  | n + 1 =>
    let a := words.getD 1 0
    let b := words.getD 14 0
    let s1 := rotate a 19 ^^^ rotate a 61 ^^^ (a >>> 6)
    let s0 := rotate b 1 ^^^ rotate b 8 ^^^ (b >>> 7)
    extend ((s1 + words.getD 6 0 + s0 + words.getD 15 0) :: words) n

/-- One round: the eight words, and the sum of constant and word of the round. -/
def step (state : List UInt64) (word : UInt64) : List UInt64 :=
  match state with
  | [a, b, c, d, e, f, g, h] =>
    let s1 := rotate e 14 ^^^ rotate e 18 ^^^ rotate e 41
    let choice := (e &&& f) ^^^ (~~~e &&& g)
    let t1 := h + s1 + choice + word
    let s0 := rotate a 28 ^^^ rotate a 34 ^^^ rotate a 39
    let majority := (a &&& b) ^^^ (a &&& c) ^^^ (b &&& c)
    [t1 + s0 + majority, a, b, c, d + t1, e, f, g]
  | other => other

/-- The words after one more block of sixteen words. -/
def compress (state block : List UInt64) : List UInt64 :=
  let words := (extend block.reverse 64).reverse
  let rounds := (roundConstants.zipWith (· + ·) words).foldl step state
  state.zipWith (· + ·) rounds

/-- Cuts a list into parts of `size` elements; a shorter rest is dropped. -/
def parts {α : Type} (size : Nat) : Nat → List α → List (List α)
  | 0, _ => []
  | count + 1, xs => xs.take size :: parts size count (xs.drop size)

/-- The message with a one bit, zeros up to full blocks and its length in bits. -/
def pad (message : List UInt8) : List UInt8 :=
  let zeros := (128 - (message.length + 17) % 128) % 128
  message ++ 0x80 :: List.replicate zeros 0 ++ Der.fixed 16 (8 * message.length)

/-- The hash of a message. -/
def hash (message : List UInt8) : List UInt8 :=
  let padded := pad message
  let words := (parts 8 (padded.length / 8) padded).map fun bytes => UInt64.ofNat (Entropy.bigEndian bytes)
  let final := (parts 16 (words.length / 16) words).foldl compress initial
  final.flatMap fun w => Der.fixed 8 w.toNat

end SecretRotation.Sha512
