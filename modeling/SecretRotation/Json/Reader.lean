import SecretRotation.Json.Basic
import SecretRotation.Text.Hex

/-!
# Reading JSON

A reader of whole documents. It is strict: no comments, no commas at the end, no control characters in strings, no halves
of surrogate pairs, no leading zeros, and nothing but blanks around the value.

## Main definitions

* `Json.parse?`: the value of a document.
-/

namespace SecretRotation.Json

/-- Blanks between the parts of a document. -/
def isBlank (c : Char) : Bool :=
  c == ' ' || c == '\n' || c == '\t' || c == '\r'

/-- The rest after the blanks. -/
def skip (cs : List Char) : List Char :=
  cs.dropWhile isBlank

/-- The value of four digits in base sixteen. -/
def unit? (a b c d : Char) : Option Nat :=
  match Text.hexDigit? a, Text.hexDigit? b, Text.hexDigit? c, Text.hexDigit? d with
  | some a, some b, some c, some d => some (((a * 16 + b) * 16 + c) * 16 + d)
  | _, _, _, _ => none

/-- The first halves of surrogate pairs. -/
def isHighHalf (n : Nat) : Bool := 0xD800 ≤ n && n < 0xDC00

/-- The second halves of surrogate pairs. -/
def isLowHalf (n : Nat) : Bool := 0xDC00 ≤ n && n < 0xE000

/-- The character of a surrogate pair. -/
def pair (high low : Nat) : Char :=
  Char.ofNat (0x10000 + (high - 0xD800) * 0x400 + (low - 0xDC00))

/-- The characters that are written with a backslash and one letter. -/
def shortEscape? : Char → Option Char
  | '"' => some '"'
  | '\\' => some '\\'
  | '/' => some '/'
  | 'b' => some '\x08'
  | 'f' => some '\x0c'
  | 'n' => some '\n'
  | 'r' => some '\r'
  | 't' => some '\t'
  | _ => none

/-- The characters of a string up to its closing quote, put in front of those found so far in reverse order, and the rest
after it. -/
def stringBody (found : List Char) : List Char → Option (String × List Char)
  | [] => none
  | '"' :: rest => some (String.ofList found.reverse, rest)
  | '\\' :: 'u' :: a :: b :: c :: d :: '\\' :: 'u' :: e :: f :: g :: h :: rest =>
    match unit? a b c d with
    | none => none
    | some first =>
      if isLowHalf first then none
      else if isHighHalf first then
        match unit? e f g h with
        | none => none
        | some second => if isLowHalf second then stringBody (pair first second :: found) rest else none
      else stringBody (Char.ofNat first :: found) ('\\' :: 'u' :: e :: f :: g :: h :: rest)
  | '\\' :: 'u' :: a :: b :: c :: d :: rest =>
    match unit? a b c d with
    | none => none
    | some first => if isHighHalf first || isLowHalf first then none else stringBody (Char.ofNat first :: found) rest
  | '\\' :: c :: rest =>
    match shortEscape? c with
    | none => none
    | some c => stringBody (c :: found) rest
  | c :: rest => if c.toNat < 0x20 || c == '\\' then none else stringBody (c :: found) rest

/-- One or more digits and the rest. -/
def digitRun? (cs : List Char) : Option (List Char × List Char) :=
  let (digits, rest) := cs.span Char.isDigit
  if digits.isEmpty then none else some (digits, rest)

/-- The part of a number before its point: one digit, or several that do not begin with zero. -/
def wholePart? (cs : List Char) : Option (List Char × List Char) :=
  match cs with
  | '0' :: rest => if rest.head?.any Char.isDigit then none else some (['0'], rest)
  | cs => digitRun? cs

/-- The part of a number after its point, if it has one. -/
def fractionPart? (cs : List Char) : Option (List Char × List Char) :=
  match cs with
  | '.' :: rest => (digitRun? rest).map fun (digits, rest) => ('.' :: digits, rest)
  | cs => some ([], cs)

/-- The exponent of a number, if it has one. -/
def exponentPart? (cs : List Char) : Option (List Char × List Char) :=
  match cs with
  | c :: rest =>
    if c == 'e' || c == 'E' then
      match rest with
      | sign :: digits =>
        if sign == '+' || sign == '-' then
          (digitRun? digits).map fun (digits, rest) => (c :: sign :: digits, rest)
        else (digitRun? (sign :: digits)).map fun (digits, rest) => (c :: digits, rest)
      | [] => none
    else some ([], cs)
  | [] => some ([], [])

/-- A number and the rest. -/
def number? (cs : List Char) : Option (Json × List Char) :=
  let (sign, cs) := match cs with
    | '-' :: rest => (['-'], rest)
    | cs => ([], cs)
  match wholePart? cs with
  | none => none
  | some (whole, rest) =>
    match fractionPart? rest with
    | none => none
    | some (fraction, rest) =>
      (exponentPart? rest).map fun (exponent, rest) =>
        (.number (String.ofList (sign ++ whole ++ fraction ++ exponent)), rest)

/-- One of the three words, or a number, and the rest. -/
def scalar? (cs : List Char) : Option (Json × List Char) :=
  match cs with
  | 'n' :: 'u' :: 'l' :: 'l' :: rest => some (.null, rest)
  | 't' :: 'r' :: 'u' :: 'e' :: rest => some (.bool true, rest)
  | 'f' :: 'a' :: 'l' :: 's' :: 'e' :: rest => some (.bool false, rest)
  | cs => number? cs

mutual

/-- A value and the rest, within a number of steps. -/
def readValue? : Nat → List Char → Option (Json × List Char)
  | 0, _ => none
  | steps + 1, cs =>
    match skip cs with
    | '"' :: rest => (stringBody [] rest).map fun (s, rest) => (.string s, rest)
    | '[' :: rest =>
      match skip rest with
      | ']' :: rest => some (.array [], rest)
      | rest => (readItems? steps [] rest).map fun (items, rest) => (.array items, rest)
    | '\x7b' :: rest =>
      match skip rest with
      | '\x7d' :: rest => some (.object [], rest)
      | rest => (readMembers? steps [] rest).map fun (members, rest) => (.object members, rest)
    | rest => scalar? rest

/-- The items up to the closing bracket, after those found so far in reverse order, and the rest. -/
def readItems? : Nat → List Json → List Char → Option (List Json × List Char)
  | 0, _, _ => none
  | steps + 1, found, cs =>
    match readValue? steps cs with
    | none => none
    | some (item, rest) =>
      match skip rest with
      | ',' :: rest => readItems? steps (item :: found) rest
      | ']' :: rest => some ((item :: found).reverse, rest)
      | _ => none

/-- The members up to the closing brace, after those found so far in reverse order, and the rest. -/
def readMembers? : Nat → List (String × Json) → List Char → Option (List (String × Json) × List Char)
  | 0, _, _ => none
  | steps + 1, found, cs =>
    match skip cs with
    | '"' :: rest =>
      match stringBody [] rest with
      | none => none
      | some (name, rest) =>
        match skip rest with
        | ':' :: rest =>
          match readValue? steps rest with
          | none => none
          | some (value, rest) =>
            match skip rest with
            | ',' :: rest => readMembers? steps ((name, value) :: found) rest
            | '\x7d' :: rest => some (((name, value) :: found).reverse, rest)
            | _ => none
        | _ => none
    | _ => none

end

/-- The value of a document. Every second step of the reader takes a character, which bounds their number. -/
def parse? (s : String) : Option Json :=
  let cs := s.toList
  match readValue? (2 * cs.length + 2) cs with
  | some (value, rest) => if (skip rest).isEmpty then some value else none
  | none => none

end SecretRotation.Json
