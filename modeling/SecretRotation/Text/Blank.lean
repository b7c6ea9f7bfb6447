/-!
# Blank characters

The characters that may stand around a name, a number or a stamp without belonging to it, and the operation
that cuts them off both ends of a text.

## Main definitions

* `Text.isBlank`: the `White_Space` class of the character database.
* `Text.trim`: a text without the blanks at its two ends.
-/

namespace SecretRotation.Text

/-- Membership in the `White_Space` class: ten characters of ASCII and Latin-1 (`U+0009` to `U+000D`, the space,
`U+0085`, `U+00A0`) and the spaces and line separators of the general punctuation and ideographic blocks. -/
def isBlank (c : Char) : Bool :=
  let n := c.toNat
  (0x09 ≤ n && n ≤ 0x0D) || n == 0x20 || n == 0x85 || n == 0xA0 || n == 0x1680 ||
    (0x2000 ≤ n && n ≤ 0x200A) || n == 0x2028 || n == 0x2029 || n == 0x202F || n == 0x205F || n == 0x3000

/-- A text without its leading blanks. -/
def dropBlanks (cs : List Char) : List Char :=
  cs.dropWhile isBlank

/-- A text without the blanks at its two ends. -/
def trim (cs : List Char) : List Char :=
  (dropBlanks (dropBlanks cs).reverse).reverse

/-- `trim` on strings. -/
def trimmed (s : String) : String :=
  String.ofList (trim s.toList)

/-- A string of blanks only, the empty one included. -/
def allBlank (s : String) : Bool :=
  s.toList.all isBlank

end SecretRotation.Text
