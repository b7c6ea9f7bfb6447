import SecretRotation.Calendar
import SecretRotation.Instant.Stamp
import SecretRotation.Text.Hex
import SecretRotation.Toml.Basic

/-!
# Numbers in TOML

Integers are decimal, or have one of three other bases, and fit into 64 bits with a sign. Between two digits there may be an
underscore. Floats are read only as far as is needed to tell which of them are too large.

## Main definitions

* `Toml.integer?`, `Toml.float?`, `Toml.moment?`: the three sorts of values that begin with a digit or a sign.
* `Toml.number?`: a value of any of these sorts.
-/

namespace SecretRotation.Toml

/-- Digits of a class, with an underscore between two of them here and there, and the rest. -/
def digitRun (isDigit : Char → Bool) : List Char → List Char × List Char
  | [] => ([], [])
  | '_' :: c :: rest =>
    if isDigit c then
      let (digits, rest) := digitRun isDigit rest
      (c :: digits, rest)
    else ([], '_' :: c :: rest)
  | c :: rest =>
    if isDigit c then
      let (digits, rest) := digitRun isDigit rest
      (c :: digits, rest)
    else ([], c :: rest)

/-- One or more digits of a class and the rest. -/
def digits? (isDigit : Char → Bool) : List Char → Option (List Char × List Char)
  | c :: rest =>
    if isDigit c then
      let (digits, rest) := digitRun isDigit rest
      some (c :: digits, rest)
    else none
  | [] => none

/-- A sign, if there is one, and the rest. -/
def signed : List Char → Bool × List Char
  | '-' :: rest => (true, rest)
  | '+' :: rest => (false, rest)
  | cs => (false, cs)

/-- The digits of a decimal number: one digit, or several that do not begin with zero. -/
def decimal? : List Char → Option (List Char × List Char)
  | '0' :: rest => some (['0'], rest)
  | cs => digits? Char.isDigit cs

/-- An integer that fits into 64 bits with a sign. -/
def fitting? (negative : Bool) (n : Nat) : Option Value :=
  if negative then if n ≤ Text.signedBound then some (.integer (-(n : Int))) else none
  else if n < Text.signedBound then some (.integer n) else none

/-- A digit of a base of at most sixteen. -/
def isDigitOf (base : Nat) (c : Char) : Bool := (Text.hexDigit? c).any (· < base)

/-- The value of digits in a base of at most sixteen. -/
def ofDigits (base : Nat) (digits : List Char) : Nat :=
  digits.foldl (fun n c => base * n + (Text.hexDigit? c).getD 0) 0

/-- An integer in a base of its own, from after the mark of the base. -/
def based? (base : Nat) (cs : List Char) : Option (Value × List Char) := do
  let (digits, rest) ← digits? (isDigitOf base) cs
  let value ← fitting? false (ofDigits base digits)
  pure (value, rest)

/-- An integer and the rest. -/
def integer? : List Char → Option (Value × List Char)
  | '0' :: 'x' :: rest => based? 16 rest
  | '0' :: 'o' :: rest => based? 8 rest
  | '0' :: 'b' :: rest => based? 2 rest
  | cs => do
    let (negative, rest) := signed cs
    let (digits, rest) ← decimal? rest
    let value ← fitting? negative (ofDigits 10 digits)
    pure (value, rest)

/-- The exponent of a float and the rest. -/
def exponent? : List Char → Option (Int × List Char)
  | c :: rest =>
    if c == 'e' || c == 'E' then
      let (negative, rest) := signed rest
      (digits? Char.isDigit rest).map fun (digits, rest) =>
        (if negative then -(ofDigits 10 digits : Int) else ofDigits 10 digits, rest)
    else none
  | [] => none

/-- From here on a number is too large for a float: half way between the largest float and the power of two after it. -/
def floatBound : Nat := Nat.pow 2 1024 - Nat.pow 2 970

/-- The float `digits * 10 ^ scale` is too large. The bound has 309 digits, which settles all numbers with more or fewer
digits before the point. -/
def isTooLarge (digits : Nat) (scale : Int) : Bool :=
  let width := (Text.decimal digits).length + scale
  if digits = 0 || width < 309 then false
  else if 309 < width then true
  else if 0 ≤ scale then floatBound ≤ digits * Nat.pow 10 scale.toNat
  else floatBound * Nat.pow 10 scale.natAbs ≤ digits

/-- A float by its sign, its digits before and after the point, and its exponent. One that is too large is refused, unless
it has a minus sign: then it counts as minus infinity. -/
def finite? (negative : Bool) (whole fraction : List Char) (exponent : Int) : Option Value :=
  if !negative && isTooLarge (ofDigits 10 (whole ++ fraction)) (exponent - fraction.length) then none else some .float

/-- A float and the rest: a number with a fraction or an exponent, or one of the two words. -/
def float? (cs : List Char) : Option (Value × List Char) :=
  let (negative, unsigned) := signed cs
  match unsigned with
  | 'i' :: 'n' :: 'f' :: rest => some (.float, rest)
  | 'n' :: 'a' :: 'n' :: rest => some (.float, rest)
  | unsigned =>
    match decimal? unsigned with
    | none => none
    | some (whole, '.' :: rest) => do
      let (fraction, rest) ← digits? Char.isDigit rest
      let (exponent, rest) := (exponent? rest).getD (0, rest)
      let value ← finite? negative whole fraction exponent
      pure (value, rest)
    | some (whole, rest) => do
      let (exponent, rest) ← exponent? rest
      let value ← finite? negative whole [] exponent
      pure (value, rest)

/-- A time of day and the rest. -/
def timeOfDay? (cs : List Char) : Option (List Char) := do
  let (hour, cs) ← Instant.digits? 2 cs
  let cs ← Instant.after? ':' cs
  let (minute, cs) ← Instant.digits? 2 cs
  let cs ← Instant.after? ':' cs
  let (second, cs) ← Instant.digits? 2 cs
  let (_, cs) ← Instant.fraction? cs
  if hour ≤ 23 ∧ minute ≤ 59 ∧ second ≤ 60 then pure cs else none

/-- A date and the rest. -/
def date? (cs : List Char) : Option (List Char) := do
  let (year, cs) ← Instant.digits? 4 cs
  let cs ← Instant.after? '-' cs
  let (month, cs) ← Instant.digits? 2 cs
  let cs ← Instant.after? '-' cs
  let (day, cs) ← Instant.digits? 2 cs
  if (Date.mk year month day).Valid then pure cs else none

/-- What follows an offset. Its sign is not the minus sign `U+2212`. -/
def offset? (cs : List Char) : Option (List Char) :=
  if cs.head? = some '\u2212' then none else (Instant.offset? (Instant.after? ':') cs).map Prod.snd

/-- What follows a time of day after a date, and an offset if there is one. -/
def dayTime? (cs : List Char) : Option (List Char) := do
  let cs ← Instant.dateMark? cs
  let cs ← timeOfDay? cs
  pure ((offset? cs).getD cs)

/-- A date, a time of day or both, and the rest. -/
def moment? (cs : List Char) : Option (Value × List Char) :=
  match date? cs with
  | some rest => some (.moment, (dayTime? rest).getD rest)
  | none => (timeOfDay? cs).map fun rest => (.moment, rest)

/-- A value that begins with a digit or a sign, or with one of the words for floats, and the rest. -/
def number? (cs : List Char) : Option (Value × List Char) :=
  moment? cs <|> float? cs <|> integer? cs

end SecretRotation.Toml
