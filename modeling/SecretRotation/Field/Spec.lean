import SecretRotation.Duration.Reader
import SecretRotation.ManagedObject
import SecretRotation.Material.Kind
import SecretRotation.Text.Numeral

/-!
# The settings of a field

What applies to a field is found step by step: the annotation for the field, the annotation for its object, the default. A
value that cannot be read is passed over, so that a slip in one of them never keeps a field from being filled.

## Main definitions

* `GenerationDefaults`: what applies where no annotation says otherwise.
* `FieldSpec`: what applies to one field.
* `FieldSpec.resolve`: the settings of a field in an object with some annotations.
-/

namespace SecretRotation

/-- What applies where no annotation says otherwise. -/
structure GenerationDefaults where
  kind : Kind
  /-- The length of texts and bytes. -/
  length : Nat
  /-- The size of an RSA modulus. -/
  rsaBits : Nat
  curve : String
deriving DecidableEq

instance : Inhabited GenerationDefaults := ⟨⟨.string, 32, 2048, "P-256"⟩⟩

/-- What applies to one field. -/
structure FieldSpec where
  field : String
  /-- The name of a kind, which need not exist. -/
  kindName : String
  /-- A length, or the size of an RSA modulus. -/
  length : Nat
  curve : String
  /-- The time after which the value is replaced, if ever. -/
  interval : Option Duration
deriving DecidableEq

namespace FieldSpec

/-- The kind of material, or the complaint about its name. -/
def kind (s : FieldSpec) : Except GeneratorError Kind := Kind.parse s.kindName

/-- A length that can be read: a positive number, perhaps between blanks. -/
def readLength? (text : String) : Option Nat :=
  (Text.unsigned? Text.wordBound (Text.trim text.toList)).filter (0 < ·)

variable (annotations : Annotations) (defaults : GenerationDefaults)

/-- The name of the kind. -/
def resolveKind (field : String) : String :=
  (Annotations.candidates annotations Annotations.kind field).head?.getD defaults.kind.name

/-- The length, which has a default of its own for RSA keys. -/
def resolveLength (field kindName : String) : Nat :=
  ((Annotations.candidates annotations Annotations.length field).findSome? readLength?).getD
    (if kindName = Kind.rsa.name then defaults.rsaBits else defaults.length)

/-- The name of the curve. -/
def resolveCurve (field : String) : String :=
  (Annotations.candidates annotations Annotations.curve field).head?.getD defaults.curve

/-- The time between replacements. No time at all means that the field is never replaced. -/
def resolveInterval (field : String) : Option Duration :=
  ((Annotations.candidates annotations Annotations.rotate field).findSome? fun text => (Duration.parse text).toOption).filter
    (· ≠ .zero)

/-- The search for the interval meets a text on which the reader breaks down. -/
def intervalBreaks (field : String) : Bool :=
  ((Annotations.candidates annotations Annotations.rotate field).findSome? fun text =>
    match Duration.parse text with
    | .ok _ => some false
    | .error e => if e.isBreakdown then some true else none).getD false

/-- What applies to a field. -/
def resolve (field : String) : FieldSpec :=
  let kindName := resolveKind annotations defaults field
  { field, kindName,
    length := resolveLength annotations defaults field kindName,
    curve := resolveCurve annotations defaults field,
    interval := resolveInterval annotations field }

end FieldSpec

end SecretRotation
