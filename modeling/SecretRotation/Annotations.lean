import Std.Data.ExtTreeMap
import SecretRotation.Text.Blank

/-!
# Annotations

Settings stand in the annotations of an object: once for the whole object under a key, and once per field under the key
with the field's name after it. The value for a field goes before the one for the object, and an empty value is as good
as none.

## Main definitions

* `Annotations`: the annotations of an object.
* `Annotations.autogenerate`, `Annotations.kind`, …: the keys.
* `Annotations.fieldKey`, `Annotations.publicEntry`: keys that are made from the name of a field.
* `Annotations.fieldNames`: the names in a list of fields.
* `Annotations.candidates`: the values that apply to a field, the one that counts most first.
-/

namespace SecretRotation

/-- The annotations of an object. -/
abbrev Annotations := Std.ExtTreeMap String String

namespace Annotations

/-- The fields to fill, separated by commas. -/
def autogenerate : String := "secrets.warden.dev/autogenerate"

/-- The kind of material. -/
def kind : String := "secrets.warden.dev/type"

/-- The length of texts and bytes, and the size of an RSA modulus in bits. -/
def length : String := "secrets.warden.dev/length"

/-- The curve of ECDSA keys. -/
def curve : String := "secrets.warden.dev/curve"

/-- The time after which a value is replaced. -/
def rotate : String := "secrets.warden.dev/rotate"

/-- The time of the last write. -/
def generatedAt : String := "secrets.warden.dev/generated-at"

/-- The key of a setting for one field. -/
def fieldKey (base field : String) : String := base ++ "." ++ field

/-- The entry that holds the public half of a field's key pair. -/
def publicEntry (field : String) : String := field ++ ".pub"

/-- The pieces between commas. -/
def pieces : List Char → List (List Char)
  | [] => [[]]
  | ',' :: rest => [] :: pieces rest
  | c :: rest =>
    match pieces rest with
    | [] => [[c]]
    | piece :: others => (c :: piece) :: others

/-- The names in a list of fields, without the blanks around them. Blank pieces name nothing. -/
def fieldNames (list : String) : List String :=
  (((pieces list.toList).map Text.trim).filter (· ≠ [])).map String.ofList

/-- The value under a key, unless it is empty. -/
def value? (annotations : Annotations) (key : String) : Option String :=
  annotations[key]?.filter (· ≠ "")

/-- The values that apply to a field: that for the field itself goes before that for the whole object. -/
def candidates (annotations : Annotations) (base field : String) : List String :=
  [value? annotations (fieldKey base field), value? annotations base].filterMap id

end Annotations

end SecretRotation
