import SecretRotation.Toml.Number
import SecretRotation.Toml.Quoted
import SecretRotation.Toml.Table

/-!
# Reading TOML

A reader of whole documents: lines with entries, and headers that say which table the entries after them belong to. Values
may not lie too deep within each other, and keys may not have too many parts.

## Main definitions

* `Toml.key?`, `Toml.value?`: dotted keys, and values.
* `Toml.parse?`: the entries of a document.
-/

namespace SecretRotation.Toml

/-- What follows the blanks of a line. -/
def skip (cs : List Char) : List Char := cs.dropWhile isBlank

/-- What follows a line end. -/
def lineEnd? : List Char → Option (List Char)
  | '\n' :: rest => some rest
  | '\r' :: '\n' :: rest => some rest
  | _ => none

/-- What follows a comment, from after its mark. -/
def afterComment (cs : List Char) : List Char := cs.dropWhile isPrintable

/-- What follows the end of a line that has nothing more on it but blanks and a comment. The document may end as well. -/
def restOfLine? (cs : List Char) : Option (List Char) :=
  let cs := match skip cs with
    | '#' :: rest => afterComment rest
    | cs => cs
  if cs.isEmpty then some [] else lineEnd? cs

/-- What follows blanks, comments and line ends. -/
def skipLines : Nat → List Char → List Char
  | 0, cs => cs
  | steps + 1, cs =>
    match skip cs with
    | '#' :: rest =>
      match lineEnd? (afterComment rest) with
      | some rest => skipLines steps rest
      | none => '#' :: rest
    | cs =>
      match lineEnd? cs with
      | some rest => skipLines steps rest
      | none => cs

/-- The characters of a key without quotes. -/
def isKeyChar (c : Char) : Bool := c.isAlphanum || c == '-' || c == '_'

/-- One part of a key and the rest. -/
def keyPart? (cs : List Char) : Option (String × List Char) :=
  match cs with
  | '"' :: rest => basicText? [] rest
  | '\'' :: rest => literalText? [] rest
  | cs =>
    let (word, rest) := cs.span isKeyChar
    if word.isEmpty then none else some (String.ofList word, rest)

/-- The parts of a dotted key after those found so far in reverse order, and the rest. -/
def keyParts? : Nat → List String → List Char → Option (List String × List Char)
  | 0, _, _ => none
  | steps + 1, found, cs =>
    match keyPart? (skip cs) with
    | none => none
    | some (part, rest) =>
      match skip rest with
      | '.' :: rest => keyParts? steps (part :: found) rest
      | rest => some ((part :: found).reverse, rest)

/-- How many lists and tables may lie within each other, and how many parts a key may have. -/
def nestingLimit : Nat := 79

/-- A dotted key: the way to its last part, that part, and the rest. -/
def key? (cs : List Char) : Option (List String × String × List Char) := do
  let (parts, rest) ← keyParts? (cs.length + 1) [] cs
  let last ← parts.getLast?
  if parts.length ≤ nestingLimit then pure (parts.dropLast, last, rest) else none

/-- A word or a number, and the rest. -/
def scalar? : List Char → Option (Value × List Char)
  | 't' :: 'r' :: 'u' :: 'e' :: rest => some (.boolean true, rest)
  | 'f' :: 'a' :: 'l' :: 's' :: 'e' :: rest => some (.boolean false, rest)
  | cs => number? cs

mutual

/-- A value and the rest, within a number of steps. Lists and tables may lie within each other to a depth. -/
def value? : Nat → Nat → List Char → Option (Value × List Char)
  | 0, _, _ => none
  | steps + 1, depth, cs =>
    match cs with
    | '"' :: _ => (text? cs).map fun (text, rest) => (.string text, rest)
    | '\'' :: _ => (text? cs).map fun (text, rest) => (.string text, rest)
    | '[' :: rest =>
      match depth with
      | 0 => none
      | depth + 1 => (items? steps depth [] rest).map fun (items, rest) => (.array items, rest)
    | '\x7b' :: rest =>
      match depth with
      | 0 => none
      | depth + 1 =>
        match skip rest with
        | '\x7d' :: rest => some (.table .inline [], rest)
        | rest => (fields? steps depth [] rest).map fun (entries, rest) => (.table .inline entries, rest)
    | cs => scalar? cs

/-- The items up to the closing bracket, after those found so far in reverse order, and the rest. -/
def items? : Nat → Nat → List Value → List Char → Option (List Value × List Char)
  | 0, _, _, _ => none
  | steps + 1, depth, found, cs =>
    match skipLines cs.length cs with
    | ']' :: rest => some (found.reverse, rest)
    | cs =>
      match value? steps depth cs with
      | none => none
      | some (item, rest) =>
        match skipLines rest.length rest with
        | ',' :: rest => items? steps depth (item :: found) rest
        | ']' :: rest => some ((item :: found).reverse, rest)
        | _ => none

/-- The entries up to the closing brace, added to those found so far, and the rest. -/
def fields? : Nat → Nat → Entries → List Char → Option (Entries × List Char)
  | 0, _, _, _ => none
  | steps + 1, depth, found, cs =>
    match key? cs with
    | some (path, key, '=' :: rest) =>
      match value? steps depth (skip rest) with
      | none => none
      | some (value, rest) =>
        match insertDotted? path key value .inline found with
        | none => none
        | some found =>
          match skip rest with
          | ',' :: rest => fields? steps depth found rest
          | '\x7d' :: rest => some (found, rest)
          | _ => none
    | _ => none

end

/-- A line with an entry, put below a header, and the rest. -/
def entryLine? (header : List String) (entries : Entries) (cs : List Char) : Option (Entries × List Char) :=
  match key? cs with
  | some (path, key, '=' :: rest) => do
    let rest := skip rest
    let (value, rest) ← value? (2 * rest.length + 2) nestingLimit rest
    let rest ← restOfLine? rest
    let entries ← insertUnder? header path key value entries
    pure (entries, rest)
  | _ => none

/-- A header, from after its first bracket: the path to its table, the entries with the table, and the rest. -/
def headerLine? (entries : Entries) : List Char → Option (List String × Entries × List Char)
  | '[' :: rest =>
    match key? rest with
    | some (path, key, ']' :: ']' :: rest) => do
      let rest ← restOfLine? rest
      let entries ← openElement? path key entries
      pure (path ++ [key], entries, rest)
    | _ => none
  | rest =>
    match key? rest with
    | some (path, key, ']' :: rest) => do
      let rest ← restOfLine? rest
      let entries ← openTable? path key entries
      pure (path ++ [key], entries, rest)
    | _ => none

/-- The lines of a document, within a number of steps. -/
def lines? : Nat → List String → Entries → List Char → Option Entries
  | 0, _, _, _ => none
  | steps + 1, header, entries, cs =>
    match skip cs with
    | [] => some entries
    | '#' :: rest =>
      match restOfLine? ('#' :: rest) with
      | some rest => lines? steps header entries rest
      | none => none
    | '[' :: rest =>
      match headerLine? entries rest with
      | some (header, entries, rest) => lines? steps header entries rest
      | none => none
    | rest =>
      match lineEnd? rest with
      | some rest => lines? steps header entries rest
      | none =>
        match entryLine? header entries rest with
        | some (entries, rest) => lines? steps header entries rest
        | none => none

/-- What follows a byte order mark, which a document may begin with. -/
def afterMark : List Char → List Char
  | '\ufeff' :: rest => rest
  | cs => cs

/-- The entries of a document. Each line takes a character at least, which bounds their number. -/
def parse? (s : String) : Option Entries :=
  let cs := afterMark s.toList
  lines? (cs.length + 1) [] [] cs

end SecretRotation.Toml
