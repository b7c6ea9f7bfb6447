import SecretRotation.Instant.Basic
import SecretRotation.Text.Blank
import SecretRotation.Text.Numeral

/-!
# Stamps

The written form of instants: date, time of day and offset from universal time, as in `2026-02-02T12:00:00Z` or
`2026-02-02T13:00:00.25+01:00`. Stamps are always written in universal time with a closing `Z`.

## Main definitions

* `Instant.parse?`: reads a stamp, with any offset and any number of fraction digits.
* `Instant.parseLoose?`: the same with blanks between the parts and years of any length.
* `Instant.format`: writes a stamp to the second.
* `Instant.formatExact`: writes a stamp with the fewest groups of three fraction digits that lose nothing.
-/

namespace SecretRotation.Instant

/-! ## Writing -/

/-- A year has at least four digits, and a sign if it lies before year zero or has more. -/
def yearText (year : Int) : List Char :=
  if 0 ≤ year ∧ year ≤ 9999 then Text.padded 4 year.toNat
  else (if year < 0 then '-' else '+') :: Text.padded 4 year.natAbs

/-- The date and the time of day to the second; a leap second reads sixty. -/
def clockText (t : Instant) : List Char :=
  let date := Date.ofDay (t.seconds / perDay)
  let second := t.secondOfDay.toNat
  yearText date.year ++ ['-'] ++ Text.padded 2 date.month ++ ['-'] ++ Text.padded 2 date.day ++ ['T'] ++
    Text.padded 2 (second / 3600) ++ [':'] ++ Text.padded 2 (second / 60 % 60) ++ [':'] ++
    Text.padded 2 (second % 60 + t.nanos / Duration.perSecond)

/-- A stamp to the second, in universal time. What lies beyond the second is cut off. -/
def format (t : Instant) : String :=
  String.ofList (t.clockText ++ ['Z'])

/-- The fraction of a second in the fewest groups of three digits, with the point before it. -/
def fractionText (nanos : Nat) : List Char :=
  if nanos = 0 then []
  else if nanos % 1000000 = 0 then '.' :: Text.padded 3 (nanos / 1000000)
  else if nanos % 1000 = 0 then '.' :: Text.padded 6 (nanos / 1000)
  else '.' :: Text.padded 9 nanos

/-- A stamp with all that there is of a fraction of a second. -/
def formatExact (t : Instant) : String :=
  String.ofList (t.clockText ++ fractionText (t.nanos % Duration.perSecond) ++ ['Z'])

/-! ## Reading -/

/-- The value of exactly `width` digits and what follows them. -/
def digits? (width : Nat) (cs : List Char) : Option (Nat × List Char) := do
  let taken := cs.take width
  if taken.length = width then
    let n ← Text.natural? taken
    pure (n, cs.drop width)
  else none

/-- What follows a given character. -/
def after? (c : Char) : List Char → Option (List Char)
  | d :: cs => if c = d then some cs else none
  | [] => none

/-- The nanoseconds of an optional fraction, and what follows it. Digits after the ninth do not count. -/
def fraction? : List Char → Option (Nat × List Char)
  | '.' :: cs => do
    let taken := cs.takeWhile Char.isDigit
    let nine := taken.take 9
    let n ← Text.natural? nine
    pure (n * Nat.pow 10 (9 - nine.length), cs.dropWhile Char.isDigit)
  | cs => some (0, cs)

/-- The sign of an offset: plus, minus or the minus sign `U+2212`. -/
def sign? : List Char → Option (Int × List Char)
  | '+' :: cs => some (1, cs)
  | '-' :: cs => some (-1, cs)
  | '−' :: cs => some (-1, cs)
  | _ => none

/-- The offset from universal time in seconds and what follows it: `Z`, or a sign, hours and minutes. `between` takes
away what has to stand between hours and minutes. -/
def offset? (between : List Char → Option (List Char)) : List Char → Option (Int × List Char)
  | 'Z' :: cs => some (0, cs)
  | 'z' :: cs => some (0, cs)
  | cs => do
    let (sign, cs) ← sign? cs
    let (hours, cs) ← digits? 2 cs
    let cs ← between cs
    let (minutes, cs) ← digits? 2 cs
    if hours ≤ 23 ∧ minutes ≤ 59 then pure (sign * (hours * 3600 + minutes * 60 : Nat), cs) else none

/-- The instant of a date, a time of day and an offset. Second sixty is the leap second after second fifty-nine. -/
def ofClock? (date : Date) (hour minute second nanos : Nat) (offset : Int) : Option Instant :=
  if date.Valid ∧ hour ≤ 23 ∧ minute ≤ 59 ∧ second ≤ 60 then
    let leap := if second = 60 then Duration.perSecond else 0
    let seconds := date.toDay * perDay + (hour * 3600 + minute * 60 + min second 59 : Nat) - offset
    if h : nanos + leap < 2000000000 then some ⟨seconds, nanos + leap, h⟩ else none
  else none

/-- The mark between date and time: `T` of either case or a space. -/
def dateMark? : List Char → Option (List Char)
  | 'T' :: cs => some cs
  | 't' :: cs => some cs
  | ' ' :: cs => some cs
  | _ => none

/-- Reads a stamp from its first to its last character. -/
def parseChars? (cs : List Char) : Option Instant := do
  let (year, cs) ← digits? 4 cs
  let cs ← after? '-' cs
  let (month, cs) ← digits? 2 cs
  let cs ← after? '-' cs
  let (day, cs) ← digits? 2 cs
  let cs ← dateMark? cs
  let (hour, cs) ← digits? 2 cs
  let cs ← after? ':' cs
  let (minute, cs) ← digits? 2 cs
  let cs ← after? ':' cs
  let (second, cs) ← digits? 2 cs
  let (nanos, cs) ← fraction? cs
  let (offset, cs) ← offset? (after? ':') cs
  if cs.isEmpty then ofClock? ⟨year, month, day⟩ hour minute second nanos offset else none

/-- Reads a stamp; blanks at either end do not matter. -/
def parse? (value : String) : Option Instant :=
  parseChars? (Text.trim value.toList)

/-! ## Reading with spaces -/

/-- The value of one to `width` digits after optional blanks, and what follows them. -/
def looseDigits? (width : Nat) (cs : List Char) : Option (Nat × List Char) := do
  let cs := Text.dropBlanks cs
  let taken := (cs.take width).takeWhile Char.isDigit
  let n ← Text.natural? taken
  pure (n, cs.drop taken.length)

/-- A year of up to four digits, or of any number of digits after a sign. -/
def looseYear? (cs : List Char) : Option (Int × List Char) :=
  match Text.dropBlanks cs with
  | '+' :: cs => signed 1 cs
  | '-' :: cs => signed (-1) cs
  | cs => (looseDigits? 4 cs).map fun (n, cs) => (n, cs)
where
  /-- The digits right after a sign. -/
  signed (sign : Int) (cs : List Char) : Option (Int × List Char) := do
    let n ← Text.natural? (cs.takeWhile Char.isDigit)
    pure (sign * n, cs.dropWhile Char.isDigit)

/-- Blanks and colons, as many as there are, or none. -/
def looseColon (cs : List Char) : List Char :=
  cs.dropWhile fun c => c == ':' || Text.isBlank c

/-- The offset, also as the letters `UTC`. -/
def looseOffset? (cs : List Char) : Option (Int × List Char) :=
  match cs.take 3 |>.map Char.toLower with
  | ['u', 't', 'c'] => some (0, cs.drop 3)
  | _ => offset? (some ∘ looseColon) cs

/-- Reads a stamp whose parts may be set apart by blanks and have fewer digits, and whose year may have more. Both the date
that is written and that of universal time are in the calendar. -/
def parseLoose? (value : String) : Option Instant := do
  let (year, cs) ← looseYear? value.toList
  let cs ← after? '-' (Text.dropBlanks cs)
  let (month, cs) ← looseDigits? 2 cs
  let cs ← after? '-' (Text.dropBlanks cs)
  let (day, cs) ← looseDigits? 2 cs
  let cs ← dateMark? cs
  let (hour, cs) ← looseDigits? 2 cs
  let cs ← after? ':' (Text.dropBlanks cs)
  let (minute, cs) ← looseDigits? 2 cs
  let cs ← after? ':' (Text.dropBlanks cs)
  let (second, cs) ← looseDigits? 2 cs
  let (nanos, cs) ← fraction? cs
  let (offset, cs) ← looseOffset? (Text.dropBlanks cs)
  let date := Date.mk year month day
  if Text.dropBlanks cs = [] ∧ Date.InReach date.toDay then
    (ofClock? date hour minute second nanos offset).filter fun t => Date.InReach t.day
  else none

end SecretRotation.Instant
