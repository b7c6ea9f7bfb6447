import SecretRotation.Duration.Basic
import SecretRotation.Text.Numeral

/-!
# Printing durations

A duration is printed as a sum of denominations from years down to nanoseconds, largest first and with the zero counts
left out, as in `1day 12h` or `5m`. A year has 365.25 days and a month is a twelfth of it, rounded to seconds.

## Main definitions

* `Denomination`, `Denomination.all`: the nine denominations.
* `Duration.format`: the printed duration.
-/

namespace SecretRotation

/-- One of the amounts in which a printed duration is counted. -/
structure Denomination where
  /-- The amount in nanoseconds. -/
  size : Nat
  /-- The text that follows the count. -/
  symbol : String
  /-- The text is a word that takes an `s` unless the count is one. -/
  isWord : Bool

namespace Denomination

/-- The denominations from the largest to the smallest. -/
def all : List Denomination :=
  [⟨31557600 * Duration.perSecond, "year", true⟩,
   ⟨2630016 * Duration.perSecond, "month", true⟩,
   ⟨86400 * Duration.perSecond, "day", true⟩,
   ⟨3600 * Duration.perSecond, "h", false⟩,
   ⟨60 * Duration.perSecond, "m", false⟩,
   ⟨Duration.perSecond, "s", false⟩,
   ⟨1000000, "ms", false⟩,
   ⟨1000, "us", false⟩,
   ⟨1, "ns", false⟩]

/-- A count with its text. -/
def item (d : Denomination) (count : Nat) : List Char :=
  Text.decimal count ++ d.symbol.toList ++ (if d.isWord && count != 1 then ['s'] else [])

end Denomination

namespace Duration

/-- The non-zero counts of a number of nanoseconds, each taken from what the larger denominations leave over. -/
def items (nanos : Nat) : List Denomination → List (List Char)
  | [] => []
  | d :: ds =>
    let count := nanos / d.size
    let rest := items (nanos % d.size) ds
    if count = 0 then rest else d.item count :: rest

/-- The characters of a printed duration. -/
def formatChars (d : Duration) : List Char :=
  if d.nanoseconds = 0 then ['0', 's'] else [' '].intercalate (items d.nanoseconds Denomination.all)

/-- A duration as it is shown to people; no time at all is `0s`. -/
def format (d : Duration) : String :=
  String.ofList d.formatChars

end Duration

end SecretRotation
