import SecretRotation.Material.Modular

/-!
# Large primes

Numbers are taken for prime if no small prime divides them and if they pass the strong probable-prime test to the first
forty prime bases.

## Main definitions

* `Prime.isProbable`: the test.
* `Prime.search`: the first number of a row of odd numbers that passes.
-/

namespace SecretRotation.Prime

/-- No number from two up to the square root divides it. -/
def isSmall (n : Nat) : Bool :=
  2 ≤ n && (List.range' 2 n).all fun k => n < k * k || n % k != 0

/-- The primes below one thousand. -/
def small : List Nat := (List.range 1000).filter isSmall

/-- The number of factors two, and the odd factor left. -/
def splitTwos (n : Nat) : Nat × Nat :=
  if _h : n = 0 then (0, 0)
  else if n % 2 = 1 then (0, n)
  else
    let (twos, odd) := splitTwos (n / 2)
    (twos + 1, odd)
termination_by n
decreasing_by exact Nat.div_lt_self (Nat.pos_of_ne_zero _h) (by decide)

/-- Minus one occurs among a residue and its next repeated squares. -/
def reachesMinusOne (n : Nat) : Nat → Nat → Bool
  | 0, _ => false
  | squarings + 1, x => x == n - 1 || reachesMinusOne n squarings (x * x % n)

/-- An odd number passes the strong test to a base. -/
def passes (n base : Nat) : Bool :=
  let (twos, odd) := splitTwos (n - 1)
  let x := Modular.pow base odd n
  x == 1 || reachesMinusOne n twos x

/-- The number is taken for prime. -/
def isProbable (n : Nat) : Bool :=
  small.contains n || (small.all (n % · != 0) && (small.take 40).all (passes n))

/-- The first of some numbers, two apart, that is accepted and taken for prime. -/
def search (accept : Nat → Bool) : Nat → Nat → Option Nat
  | 0, _ => none
  | effort + 1, n => if accept n && isProbable n then some n else search accept effort (n + 2)

end SecretRotation.Prime
