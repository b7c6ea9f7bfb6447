import SecretRotation.Material.Entropy
import SecretRotation.Material.Kind

/-!
# Random texts

Each character of a random text is chosen by one random byte: the byte modulo the number of characters of the charset
is the place of the character. Characters after the 256th are never chosen.

## Main definitions

* `Charset.letters`, `Charset.alphanumeric`, `Charset.full`: the usual charsets.
* `Charset.spell`: the text that random bytes spell.
* `Charset.randomText`, `randomBytes`: generated values.
-/

namespace SecretRotation

namespace Charset

/-- The lower-case letters of ASCII. -/
def lowercase : String := "abcdefghijklmnopqrstuvwxyz"

/-- The upper-case letters of ASCII. -/
def uppercase : String := "ABCDEFGHIJKLMNOPQRSTUVWXYZ"

/-- The digits. -/
def digits : String := "0123456789"

/-- The special characters of the usual charset. -/
def specials : String := "!@#$%^&*()_+-=[]\x7b\x7d|;:,.<>?"

/-- Letters and digits. -/
def alphanumeric : String := lowercase ++ uppercase ++ digits

/-- Letters, digits and special characters. -/
def full : String := alphanumeric ++ specials

/-- The character that a byte chooses. -/
def pick (alphabet : List Char) (h : 0 < alphabet.length) (b : UInt8) : Char :=
  alphabet.get ⟨b.toNat % alphabet.length, Nat.mod_lt _ h⟩

/-- The text that bytes spell, one character a byte. -/
def spell (alphabet : List Char) (h : 0 < alphabet.length) (bytes : List UInt8) : List Char :=
  bytes.map (pick alphabet h)

/-- A random text of some characters, in UTF-8. The length is looked at before the charset. -/
def randomText (charset : String) (length : Nat) (e : Entropy) : Except GeneratorError (ByteArray × Entropy) :=
  if length = 0 then .error .zeroLength
  else
    let alphabet := charset.toList
    if h : 0 < alphabet.length then
      let (bytes, rest) := e.draw length
      .ok ((String.ofList (spell alphabet h bytes)).toUTF8, rest)
    else .error .emptyCharset

end Charset

/-- Random bytes. -/
def randomBytes (length : Nat) (e : Entropy) : Except GeneratorError (ByteArray × Entropy) :=
  if length = 0 then .error .zeroLength
  else
    let (bytes, rest) := e.draw length
    .ok (bytes.toByteArray, rest)

end SecretRotation
