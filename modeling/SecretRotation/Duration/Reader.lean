import SecretRotation.Duration.Basic
import SecretRotation.Text.Blank
import SecretRotation.Text.Numeral

/-!
# Reading durations

A written duration is a row of items, each a number and one of eight short units, as in `90m`, `1d 12h` or `250ms`.
Blanks may stand between the digits of a number, between a number and its unit and between items. Longer spans have no
unit, so that `1M` is never taken for a month. The sum is kept below `2^64` seconds, and so are the intermediate counts
below `2^64` of their own unit.

## Main definitions

* `TimeUnit`: the eight units and their texts.
* `DurationFault`, `DurationError`: why a text is no duration.
* `Duration.addCount`: the sum after one more item, within its range.
* `Duration.parse`: the reader.
-/

namespace SecretRotation

/-- The units of a written duration. -/
inductive TimeUnit where
  | nanosecond | microsecond | millisecond | second | minute | hour | day
deriving DecidableEq

namespace TimeUnit

/-- The unit that a text names. Microseconds have two spellings, with `u` and with the micro sign `U+00B5`. -/
def ofText? (text : List Char) : Option TimeUnit :=
  match text with
  | ['n', 's'] => some nanosecond
  | ['u', 's'] => some microsecond
  | ['µ', 's'] => some microsecond
  | ['m', 's'] => some millisecond
  | ['s'] => some second
  | ['m'] => some minute
  | ['h'] => some hour
  | ['d'] => some day
  | _ => none

/-- The unit counts fractions of a second. -/
def isFraction : TimeUnit → Bool
  | nanosecond | microsecond | millisecond => true
  | second | minute | hour | day => false

/-- The size of a unit: in nanoseconds for a fraction of a second, else in seconds. -/
def factor : TimeUnit → Nat
  | nanosecond => 1
  | microsecond => 1000
  | millisecond => 1000000
  | second => 1
  | minute => 60
  | hour => 3600
  | day => 86400

/-- The size of a unit in nanoseconds. -/
def nanoseconds (u : TimeUnit) : Nat :=
  if u.isFraction then u.factor else u.factor * Duration.perSecond

/-- The spellings that are offered when a text names no unit. -/
def spellings : List String :=
  ["ns", "us", "µs", "ms", "s", "m", "h", "d"]

end TimeUnit

/-- Why a text is no duration. -/
inductive DurationFault where
  /-- A piece between digits and blanks is not a unit. -/
  | unknownUnit (unit : String)
  /-- Nothing was written. -/
  | empty
  /-- Something else stands where a number begins; the offset, in bytes of the text without its outer blanks, is where
  the search for the number began. -/
  | numberExpected (offset : Nat)
  /-- The text ends after a number. -/
  | unitMissing (number : Nat)
  /-- A number, a product or the sum leaves its range. -/
  | tooLarge
  /-- An item fills the fraction up to exactly one second, and that second is one too many. Nothing can go on from here, so
  this is not a complaint about a text but a breakdown. -/
  | carry
deriving DecidableEq

/-- What is wrong, without the text. -/
def DurationFault.message : DurationFault → String
  | .unknownUnit unit => s!"unknown unit '{unit}', expected one of: " ++ ", ".intercalate TimeUnit.spellings
  | .empty => "value was empty"
  | .numberExpected offset => s!"expected number at {offset}"
  | .unitMissing number => s!"time unit needed, for example {number}sec or {number}ms"
  | .tooLarge =>
    "number is too large or cannot be represented without a lack of precision (values below 1ns are not supported)"
  | .carry => "overflow in the last second"

/-- A text that is no duration, and why. -/
structure DurationError where
  value : String
  fault : DurationFault
deriving DecidableEq

/-- The complaint, with the text as it was given. -/
def DurationError.message (e : DurationError) : String :=
  s!"invalid duration '{e.value}': {e.fault.message}"

/-- The reader broke down. -/
def DurationError.isBreakdown (e : DurationError) : Bool := e.fault = .carry

namespace Duration

/-- Digits and blanks separate the pieces that have to be units. -/
def separatesUnits (c : Char) : Bool :=
  c.isDigit || Text.isBlank c

/-- The first piece of a text that is not a unit. -/
def foreignUnit? (cs : List Char) : Option (List Char) :=
  (cs.splitOnP separatesUnits).find? fun piece => !piece.isEmpty && (TimeUnit.ofText? piece).isNone

/-- Where the reader of items stands. -/
inductive ItemState where
  /-- Before a number; the search for it began at the offset. -/
  | seeking (offset : Nat)
  /-- Within or after the digits of a number. -/
  | number (value : Nat)
  /-- Within a unit, of which the characters so far are known. -/
  | unit (value : Nat) (text : List Char)

/-- A number with one more digit, as long as it fits a machine word. -/
def pushDigit (n : Nat) (c : Char) : Except DurationFault Nat :=
  let m := 10 * n + (c.toNat - '0'.toNat)
  if m < Text.wordBound then .ok m else .error .tooLarge

/-- The sum after one more item. The count of the item in nanoseconds or seconds, that count together with the fraction of
a second so far, and the whole seconds of the sum each have to fit a machine word. Only the second that a fraction is filled
up to is not looked at before it is added. -/
def addCount (total : Duration) (n : Nat) (unit : TimeUnit) : Except DurationFault Duration :=
  let count := n * unit.factor
  let fraction := total.subsecond + if unit.isFraction then count else 0
  let sum : Duration := total + ⟨n * unit.nanoseconds⟩
  if count < Text.wordBound && fraction < Text.wordBound && sum.seconds < Text.wordBound then .ok sum
  else if fraction = perSecond then .error .carry
  else .error .tooLarge

/-- The sum after one more item, with the unit still a text. -/
def addItem (total : Duration) (n : Nat) (text : List Char) : Except DurationFault Duration :=
  match TimeUnit.ofText? text with
  | none => .error (.unknownUnit (String.ofList text))
  | some unit => addCount total n unit

/-- Reads items up to the end of the text and adds them to `total`. The offset is that of the first character left. -/
def readItems (state : ItemState) (total : Duration) (offset : Nat) : List Char → Except DurationFault Duration
  | [] =>
    match state with
    | .seeking _ => .ok total
    | .number n => .error (.unitMissing n)
    | .unit n text => addItem total n text
  | c :: cs =>
    let next := offset + c.utf8Size
    match state with
    | .seeking start =>
      if c.isDigit then do
        let n ← pushDigit 0 c
        readItems (.number n) total next cs
      else if Text.isBlank c then readItems (.seeking start) total next cs
      else .error (.numberExpected start)
    | .number n =>
      if c.isDigit then do
        let n ← pushDigit n c
        readItems (.number n) total next cs
      else if Text.isBlank c then readItems (.number n) total next cs
      else readItems (.unit n [c]) total next cs
    | .unit n text =>
      if c.isDigit then do
        let total ← addItem total n text
        let n ← pushDigit 0 c
        readItems (.number n) total next cs
      else if Text.isBlank c then do
        let total ← addItem total n text
        readItems (.seeking next) total next cs
      else readItems (.unit n (text ++ [c])) total next cs

/-- Reads a text without outer blanks. A lone `0` needs no unit. -/
def parseTrimmed (cs : List Char) : Except DurationFault Duration :=
  match foreignUnit? cs with
  | some piece => .error (.unknownUnit (String.ofList piece))
  | none =>
    if cs = [] then .error .empty
    else if cs = ['0'] then .ok .zero
    else readItems (.seeking 0) .zero 0 cs

/-- Reads a written duration; blanks at either end do not matter. -/
def parse (value : String) : Except DurationError Duration :=
  match parseTrimmed (Text.trim value.toList) with
  | .ok d => .ok d
  | .error fault => .error ⟨value, fault⟩

end Duration

end SecretRotation
