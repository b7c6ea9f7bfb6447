/-!
# Arithmetic modulo a number

Powers, differences and inverses modulo a number, on residues that are kept below it.

## Main definitions

* `Modular.pow`: powers by repeated squaring.
* `Modular.sub`, `Modular.inverse`: differences, and inverses modulo a prime.
-/

namespace SecretRotation.Modular

/-- The residue of a power. -/
def pow (base exponent modulus : Nat) : Nat :=
  if _h : exponent = 0 then 1 % modulus
  else
    let half := pow (base * base % modulus) (exponent / 2) modulus
    if exponent % 2 = 1 then base * half % modulus else half
termination_by exponent
decreasing_by exact Nat.div_lt_self (Nat.pos_of_ne_zero _h) (by decide)

/-- The residue of a difference. -/
def sub (modulus a b : Nat) : Nat :=
  (a + (modulus - b % modulus)) % modulus

/-- The inverse of a residue modulo a prime: its power two below the prime. -/
def inverse (prime a : Nat) : Nat :=
  pow a (prime - 2) prime

end SecretRotation.Modular
