import SecretRotation.Material.Charset
import SecretRotation.Material.PrivateKey

/-!
# The generator

A generator makes values and keys. It has a charset for texts and a source of keys; randomness is handed to it with each
request, and what is left is handed back.

## Main definitions

* `Generator`: the charset and the source of keys.
* `Generator.text`, `Generator.bytes`, `Generator.value`: single values.
* `Generator.rsa`, `Generator.ecdsa`, `Generator.ed25519`: keys.
-/

namespace SecretRotation

/-- A charset for texts and a source of keys. -/
structure Generator where
  charset : String
  keys : KeySource

/-- No memory holds so many bytes, `2^63`, or more. -/
def memoryBound : Nat := 9223372036854775808

/-- A generated thing and the entropy that is left, or a complaint. -/
abbrev Generated (α : Type) := Except GeneratorError (α × Entropy)

namespace Generator

/-- The generator that computes its keys from entropy. -/
def standard (charset : String) : Generator := ⟨charset, .standard⟩

/-- A random text in the generator's charset. -/
def text (g : Generator) (length : Nat) (e : Entropy) : Generated ByteArray :=
  Charset.randomText g.charset length e

/-- Random bytes. -/
def bytes (_ : Generator) (length : Nat) (e : Entropy) : Generated ByteArray :=
  randomBytes length e

/-- A single value of a kind that has one. -/
def value (g : Generator) (kind : Kind) (length : Nat) (e : Entropy) : Generated ByteArray :=
  match kind with
  | .string => g.text length e
  | .bytes => g.bytes length e
  | .rsa | .ecdsa | .ed25519 => .error (.keypairKind kind)

/-- A single value of the kind would be longer than any memory. Making it ends all work; here it is taken to succeed. -/
def overflows (g : Generator) (kind : Kind) (length : Nat) : Bool :=
  match kind with
  | .string => g.charset ≠ "" && memoryBound ≤ length
  | .bytes => memoryBound ≤ length
  | .rsa | .ecdsa | .ed25519 => false

/-- The key of a request. -/
def key (g : Generator) (request : KeyRequest) (e : Entropy) : Generated PrivateKey :=
  match g.keys request e with
  | some found => .ok found
  | none => .error (.keySearchFailed request.algorithm)

/-- A key with a modulus of some bits, not too few. -/
def rsa (g : Generator) (bits : Nat) (e : Entropy) : Generated PrivateKey :=
  if bits < minRsaBits then .error (.rsaTooSmall bits) else g.key (.rsa bits) e

/-- A key on the curve of a name. -/
def ecdsa (g : Generator) (curve : String) (e : Entropy) : Generated PrivateKey :=
  match NistCurve.parse curve with
  | .ok curve => g.key (.ec curve) e
  | .error complaint => .error complaint

/-- A key of the fixed size of its kind. -/
def ed25519 (g : Generator) (e : Entropy) : Generated PrivateKey :=
  g.key .ed25519 e

end Generator

end SecretRotation
