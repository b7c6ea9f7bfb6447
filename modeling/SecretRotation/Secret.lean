import SecretRotation.Json.Basic
import SecretRotation.Text.Shown

/-!
# Secrets

A wrapper around values that must not leak. Whatever is shown, printed or serialised of it is the same for all values;
the value itself is only had by asking for it.

## Main definitions

* `Secret`: the wrapper, with `Secret.expose`.
* `Secret.display`, `Secret.shown`, `Secret.json`: the texts, which are those of the placeholder.
* `Secret.textOfJson?`, `Secret.bytesOfJson?`: secrets read from documents that hold their values.
-/

namespace SecretRotation

/-- A value that must not leak. -/
structure Secret (α : Type) where
  /-- The value, for those who ask for it. -/
  expose : α
deriving DecidableEq

/-- Secret bytes, as they are kept in the entries of an object. -/
abbrev SecretBytes := Secret ByteArray

namespace Secret

variable {α : Type}

/-- What stands in for the value wherever a text is wanted. -/
def placeholder : String := "[REDACTED]"

/-- The text for readers. Widths asked for by the reader do not matter. -/
def display (_ : Secret α) : String := placeholder

/-- The form for logs. -/
def shown (_ : Secret α) : Shown := .tuple "Secret" [.text placeholder]

/-- The form in serialised documents. -/
def json (_ : Secret α) : Json := .string placeholder

/-- The bytes of a text, secret. -/
def ofText (s : String) : SecretBytes := ⟨s.toUTF8⟩

/-- A secret text, from a document that holds the text. -/
def textOfJson? (j : Json) : Option (Secret String) := j.text?.map Secret.mk

/-- Secret bytes, from a document that holds an array of numbers from 0 to 255. -/
def bytesOfJson? (j : Json) : Option SecretBytes := do
  let items ← j.items?
  let bytes ← items.mapM fun item => (item.natural?.filter (· < 256)).map UInt8.ofNat
  pure ⟨bytes.toByteArray⟩

/-- No text of a secret depends on its value. -/
theorem shown_eq (a b : Secret α) : a.shown = b.shown := rfl

end Secret

end SecretRotation
