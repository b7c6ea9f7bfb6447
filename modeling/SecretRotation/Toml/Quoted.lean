import SecretRotation.Text.Hex

/-!
# Quoted texts in TOML

Texts stand between double quotes, with escapes, or between single quotes, without; and between three quotes of either sort
a text may run over several lines.

## Main definitions

* `Toml.basicText?`, `Toml.literalText?`: texts on one line, from after the opening quote.
* `Toml.basicLines?`, `Toml.literalLines?`: texts over several lines.
* `Toml.text?`: a text of any sort.
-/

namespace SecretRotation.Toml

/-- The characters of a line: no control characters but the tab. -/
def isPrintable (c : Char) : Bool :=
  c == '\t' || (0x20 ≤ c.toNat && c.toNat != 0x7F)

/-- Blanks within a line. -/
def isBlank (c : Char) : Bool := c == ' ' || c == '\t'

/-- The character of an escape that is written with one letter. -/
def shortEscape? : Char → Option Char
  | 'b' => some '\x08'
  | 't' => some '\t'
  | 'n' => some '\n'
  | 'f' => some '\x0c'
  | 'r' => some '\r'
  | '"' => some '"'
  | '\\' => some '\\'
  | _ => none

/-- The character of a code point that is one. -/
def codePoint? (digits : List Char) : Option Char :=
  (Text.ofHexDigits? digits).bind fun n => if n.isValidChar then some (Char.ofNat n) else none

/-- A text on one line with escapes, up to the closing quote, and the rest. -/
def basicText? (found : List Char) : List Char → Option (String × List Char)
  | [] => none
  | '"' :: rest => some (String.ofList found.reverse, rest)
  | '\\' :: 'u' :: a :: b :: c :: d :: rest =>
    match codePoint? [a, b, c, d] with
    | some c => basicText? (c :: found) rest
    | none => none
  | '\\' :: 'U' :: a :: b :: c :: d :: e :: f :: g :: h :: rest =>
    match codePoint? [a, b, c, d, e, f, g, h] with
    | some c => basicText? (c :: found) rest
    | none => none
  | '\\' :: c :: rest =>
    match shortEscape? c with
    | some c => basicText? (c :: found) rest
    | none => none
  | c :: rest => if isPrintable c && c != '\\' then basicText? (c :: found) rest else none

/-- A text on one line without escapes, up to the closing quote, and the rest. -/
def literalText? (found : List Char) : List Char → Option (String × List Char)
  | [] => none
  | '\'' :: rest => some (String.ofList found.reverse, rest)
  | c :: rest => if isPrintable c then literalText? (c :: found) rest else none

/-- A backslash at the end of a line is followed by blanks only. -/
def endsLine (cs : List Char) : Bool :=
  match cs.dropWhile isBlank with
  | '\n' :: _ => true
  | '\r' :: '\n' :: _ => true
  | _ => false

/-- A text over several lines with escapes, up to the closing quotes, and the rest. Up to two quotes may stand before the
closing ones. After a backslash at the end of a line, `joining`, blanks and line ends are left out. -/
def basicLines? (joining : Bool) (found : List Char) : List Char → Option (String × List Char)
  | [] => none
  | '"' :: '"' :: '"' :: '"' :: '"' :: rest => some (String.ofList ('"' :: '"' :: found).reverse, rest)
  | '"' :: '"' :: '"' :: '"' :: rest => some (String.ofList ('"' :: found).reverse, rest)
  | '"' :: '"' :: '"' :: rest => some (String.ofList found.reverse, rest)
  | '\r' :: '\n' :: rest => basicLines? joining (if joining then found else '\n' :: found) rest
  | '\n' :: rest => basicLines? joining (if joining then found else '\n' :: found) rest
  | '\\' :: 'u' :: a :: b :: c :: d :: rest =>
    match codePoint? [a, b, c, d] with
    | some c => basicLines? false (c :: found) rest
    | none => none
  | '\\' :: 'U' :: a :: b :: c :: d :: e :: f :: g :: h :: rest =>
    match codePoint? [a, b, c, d, e, f, g, h] with
    | some c => basicLines? false (c :: found) rest
    | none => none
  | '\\' :: c :: rest =>
    if endsLine (c :: rest) then basicLines? true found (c :: rest)
    else
      match shortEscape? c with
      | some c => basicLines? false (c :: found) rest
      | none => none
  | c :: rest =>
    if joining && isBlank c then basicLines? true found rest
    else if isPrintable c && c != '\\' then basicLines? false (c :: found) rest
    else none

/-- A text over several lines without escapes, up to the closing quotes, and the rest. -/
def literalLines? (found : List Char) : List Char → Option (String × List Char)
  | [] => none
  | '\'' :: '\'' :: '\'' :: '\'' :: '\'' :: rest => some (String.ofList ('\'' :: '\'' :: found).reverse, rest)
  | '\'' :: '\'' :: '\'' :: '\'' :: rest => some (String.ofList ('\'' :: found).reverse, rest)
  | '\'' :: '\'' :: '\'' :: rest => some (String.ofList found.reverse, rest)
  | '\r' :: '\n' :: rest => literalLines? ('\n' :: found) rest
  | '\n' :: rest => literalLines? ('\n' :: found) rest
  | c :: rest => if isPrintable c then literalLines? (c :: found) rest else none

/-- What follows a line end at the very beginning. -/
def afterFirstLineEnd : List Char → List Char
  | '\n' :: rest => rest
  | '\r' :: '\n' :: rest => rest
  | cs => cs

/-- A text of any sort and the rest. -/
def text? : List Char → Option (String × List Char)
  | '"' :: '"' :: '"' :: rest => basicLines? false [] (afterFirstLineEnd rest)
  | '"' :: rest => basicText? [] rest
  | '\'' :: '\'' :: '\'' :: rest => literalLines? [] (afterFirstLineEnd rest)
  | '\'' :: rest => literalText? [] rest
  | _ => none

end SecretRotation.Toml
