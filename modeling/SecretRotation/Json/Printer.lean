import SecretRotation.Json.Basic

/-!
# Printing JSON

The compact text of a value: no blanks, and in strings an escape only where one is needed.

## Main definitions

* `Json.escape`: the written form of one character of a string.
* `Json.render`: the text of a value.
-/

namespace SecretRotation.Json

/-- Four digits in base sixteen. -/
def fourDigits (n : Nat) : List Char :=
  let digits := Nat.toDigits 16 n
  List.replicate (4 - digits.length) '0' ++ digits

/-- The written form of one character of a string: quotes, backslashes and control characters are escaped. -/
def escape (c : Char) : List Char :=
  match c with
  | '"' => ['\\', '"']
  | '\\' => ['\\', '\\']
  | '\n' => ['\\', 'n']
  | '\r' => ['\\', 'r']
  | '\t' => ['\\', 't']
  | c => if c.toNat < 0x20 then ['\\', 'u'] ++ fourDigits c.toNat else [c]

/-- A string between its quotes. -/
def renderText (s : String) : String :=
  String.ofList ('"' :: s.toList.flatMap escape ++ ['"'])

mutual

/-- The text of a value. -/
def render : Json → String
  | null => "null"
  | bool value => if value then "true" else "false"
  | number literal => literal
  | string value => renderText value
  | array items => "[" ++ ",".intercalate (renderItems items) ++ "]"
  | object members => "\x7b" ++ ",".intercalate (renderMembers members) ++ "\x7d"

/-- The texts of the items of an array. -/
def renderItems : List Json → List String
  | [] => []
  | item :: items => render item :: renderItems items

/-- The texts of the members of an object. -/
def renderMembers : List (String × Json) → List String
  | [] => []
  | (name, value) :: members => (renderText name ++ ":" ++ render value) :: renderMembers members

end

end SecretRotation.Json
