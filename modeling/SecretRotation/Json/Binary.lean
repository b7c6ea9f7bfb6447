import SecretRotation.Json.Basic

/-!
# Numbers as they are held

A number of a document is held as an integer if it is written as one and fits into 64 bits, and else as a float of 64 bits.
Floats are read in steps, each of which rounds: the digits that fit into 64 bits, then the power of ten.

## Main definitions

* `Binary64`: the floats that are not negative, with `Binary64.nearest`.
* `Json.held`: a value with its numbers as they are held.
-/

namespace SecretRotation

/-- A float that is not negative: `mantissa` times two to the power of `exponent`. -/
structure Binary64 where
  mantissa : Nat
  exponent : Int
deriving DecidableEq

namespace Binary64

/-- A quotient, rounded to the nearest whole number, and to the even one of two. -/
def divideEven (n d : Nat) : Nat :=
  let whole := n / d
  let twice := 2 * (n % d)
  if d < twice || (twice == d && whole % 2 == 1) then whole + 1 else whole

/-- Numerator and denominator after a division by two to the power of `exponent`. -/
def shifted (n d : Nat) (exponent : Int) : Nat × Nat :=
  (n * Nat.pow 2 (-exponent).toNat, d * Nat.pow 2 exponent.toNat)

/-- The float that is nearest to a fraction: 53 binary digits, or fewer at the lower end of the exponents. -/
def nearest (n d : Nat) : Binary64 :=
  if n = 0 then ⟨0, 0⟩
  else
    let gap : Int := (Nat.log2 n : Int) - Nat.log2 d
    let (high, low) := shifted n d gap
    let exponent := max (-1074) (if low ≤ high then gap - 52 else gap - 53)
    let (n, d) := shifted n d exponent
    ⟨divideEven n d, exponent⟩

/-- A float as a fraction. -/
def fraction (f : Binary64) : Nat × Nat := shifted f.mantissa 1 (-f.exponent)

/-- The product, rounded. -/
def times (a b : Binary64) : Binary64 := nearest (a.fraction.1 * b.fraction.1) (a.fraction.2 * b.fraction.2)

/-- The quotient, rounded. -/
def dividedBy (a b : Binary64) : Binary64 := nearest (a.fraction.1 * b.fraction.2) (a.fraction.2 * b.fraction.1)

/-- A power of ten, rounded. -/
def powerOfTen (n : Nat) : Binary64 := nearest (Nat.pow 10 n) 1

/-- A float times a power of ten. The largest power is the 308th, and smaller numbers than one divided by it take several
steps; after a few of them nothing is left. -/
def scale : Nat → Binary64 → Int → Binary64
  | 0, f, _ => f
  | steps + 1, f, exponent =>
    if exponent < -308 then scale steps (f.dividedBy (powerOfTen 308)) (exponent + 308)
    else if exponent < 0 then f.dividedBy (powerOfTen exponent.natAbs)
    else f.times (powerOfTen (min exponent.toNat 308))

/-- A float in full: it has finitely many decimal digits. -/
def digits (f : Binary64) : List Char :=
  if 0 ≤ f.exponent then Text.decimal (f.mantissa * Nat.pow 2 f.exponent.toNat) ++ ['.', '0']
  else Text.decimal (f.mantissa * Nat.pow 5 f.exponent.natAbs) ++ 'e' :: '-' :: Text.decimal f.exponent.natAbs

end Binary64

namespace Json

/-- The number of digits after those so far, as long as it fits into 64 bits, and the digits that are left. -/
def wordDigits (n : Nat) : List Char → Nat × List Char
  | [] => (n, [])
  | c :: cs =>
    let next := 10 * n + (c.toNat - '0'.toNat)
    if next < Text.wordBound then wordDigits next cs else (n, c :: cs)

/-- The exponent at the end of a number. -/
def exponentOf : List Char → Int
  | _ :: '-' :: digits => -((Text.natural? digits).getD 0 : Nat)
  | _ :: '+' :: digits => (Text.natural? digits).getD 0
  | _ :: digits => (Text.natural? digits).getD 0
  | [] => 0

/-- The digits after the point of a number, and the rest. -/
def afterPoint : List Char → List Char × List Char
  | '.' :: rest => rest.span Char.isDigit
  | rest => ([], rest)

/-- A number without its sign, as a float. Of the digits before the point those that do not fit count for their places only;
those after it do not count at all. -/
def floatOf (literal : List Char) : Binary64 :=
  let (whole, rest) := literal.span Char.isDigit
  let (n, dropped) := wordDigits 0 whole
  let (fraction, rest) := afterPoint rest
  let (n, ignored) := wordDigits n fraction
  Binary64.scale 4 (.nearest n 1) (exponentOf rest + dropped.length - (fraction.length - ignored.length : Nat))

/-- An integer of 64 bits, with or without a sign. Zero with a sign in front of it is a float. -/
def isWord : List Char → Bool
  | '-' :: digits => (Text.natural? digits).any fun n => 0 < n && n ≤ Text.signedBound
  | digits => (Text.natural? digits).any (· < Text.wordBound)

/-- A number as it is held. -/
def heldNumber (literal : String) : String :=
  let cs := literal.toList
  if isWord cs then literal
  else
    match cs with
    | '-' :: cs => String.ofList ('-' :: (floatOf cs).digits)
    | cs => String.ofList (floatOf cs).digits

mutual

/-- A value with its numbers as they are held. -/
def held : Json → Json
  | number literal => number (heldNumber literal)
  | array items => array (heldItems items)
  | object members => object (heldMembers members)
  | j => j

/-- Items with their numbers as they are held. -/
def heldItems : List Json → List Json
  | [] => []
  | item :: items => held item :: heldItems items

/-- Members with their numbers as they are held. -/
def heldMembers : List (String × Json) → List (String × Json)
  | [] => []
  | (name, value) :: members => (name, held value) :: heldMembers members

end

end Json

end SecretRotation
