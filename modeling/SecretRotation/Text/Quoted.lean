import SecretRotation.Text.Hidden

/-!
# Quoted texts

A text between double quotes in which every character is either itself or an escape, so that a reader of a log sees
where the text ends and what stands in it.

## Main definitions

* `Text.escape`: the written form of one character.
* `Text.quoted`: a text in quotes.
-/

namespace SecretRotation.Text

/-- The digits of a code point in base sixteen, in lower case and without leading zeros. -/
def hexCode (c : Char) : List Char :=
  Nat.toDigits 16 c.toNat

/-- Control characters of ASCII, apart from those with an escape of their own, and the characters of `isHidden` are
written by their code point. -/
def needsCode (c : Char) : Bool :=
  if c.toNat < 0x80 then c.toNat < 0x20 || c.toNat == 0x7F else isHidden c

/-- The written form of one character of a quoted text. -/
def escape (c : Char) : List Char :=
  match c with
  | '"' => ['\\', '"']
  | '\\' => ['\\', '\\']
  | '\n' => ['\\', 'n']
  | '\r' => ['\\', 'r']
  | '\t' => ['\\', 't']
  | '\x00' => ['\\', '0']
  | c => if needsCode c then ['\\', 'u', '\x7b'] ++ hexCode c ++ ['\x7d'] else [c]

/-- A text in double quotes. -/
def quoted (s : String) : String :=
  String.ofList ('"' :: s.toList.flatMap escape ++ ['"'])

end SecretRotation.Text
