/-!
# Numerals

Whole numbers in ASCII digits. A numeral has at least one digit, may carry leading zeros, and is refused when
its value leaves the range that the reader of it can hold.

## Main definitions

* `Text.natural?`: digits only, any size.
* `Text.unsigned?`: an optional `+`, then digits, below a bound.
* `Text.signed?`: an optional sign, then digits, within a two-sided range.
* `Text.decimal`, `Text.padded`: the digits of a number, plain or filled up with zeros.
-/

namespace SecretRotation.Text

/-- The number of values of a machine word of 64 bits, `2^64`. -/
def wordBound : Nat := 18446744073709551616

/-- The number of values that are not negative of such a word with a sign, `2^63`. -/
def signedBound : Nat := 9223372036854775808

/-- The value of one or more ASCII digits, and nothing else. -/
def natural? (cs : List Char) : Option Nat :=
  if cs.isEmpty || !cs.all Char.isDigit then none else some (Nat.ofDigitChars 10 cs 0)

/-- An optional `+` and digits, with a value below `bound`. -/
def unsigned? (bound : Nat) (cs : List Char) : Option Nat :=
  let digits := match cs with
    | '+' :: rest => rest
    | _ => cs
  (natural? digits).filter (· < bound)

/-- An optional sign and digits, with a value from `-bound` up to but not including `bound`. -/
def signed? (bound : Nat) : List Char → Option Int
  | '-' :: rest => ((natural? rest).filter (· ≤ bound)).map fun n => -(n : Int)
  | cs => (unsigned? bound cs).map Int.ofNat

/-- The decimal digits of a number, without leading zeros. -/
def decimal (n : Nat) : List Char :=
  Nat.toDigits 10 n

/-- The decimal digits of a number, filled up with leading zeros to at least `width` characters. -/
def padded (width n : Nat) : List Char :=
  List.replicate (width - (decimal n).length) '0' ++ decimal n

end SecretRotation.Text
