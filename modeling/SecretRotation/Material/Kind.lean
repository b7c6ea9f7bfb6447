/-!
# Kinds of material

What can be generated: random texts and bytes, which are one value, and three kinds of key pairs, which are a private
and a public one.

## Main definitions

* `Kind`, `NistCurve`: the kinds, and the curves of elliptic-curve keys, with their exact names.
* `GeneratorError`: why nothing is generated.
-/

namespace SecretRotation

/-- What is generated for a field. -/
inductive Kind where
  /-- Characters of a charset. -/
  | string
  | bytes
  | rsa
  | ecdsa
  | ed25519
deriving DecidableEq

namespace Kind

/-- The name of a kind in annotations and settings. -/
def name : Kind → String
  | string => "string"
  | bytes => "bytes"
  | rsa => "rsa"
  | ecdsa => "ecdsa"
  | ed25519 => "ed25519"

/-- Kinds that make a private and a public entry. -/
def isKeypair : Kind → Bool
  | string | bytes => false
  | rsa | ecdsa | ed25519 => true

/-- The kind of a name; names are exact. -/
def ofName? : String → Option Kind
  | "string" => some string
  | "bytes" => some bytes
  | "rsa" => some rsa
  | "ecdsa" => some ecdsa
  | "ed25519" => some ed25519
  | _ => none

end Kind

/-- The curves of elliptic-curve keys. -/
inductive NistCurve where
  | p256 | p384 | p521
deriving DecidableEq

namespace NistCurve

/-- The name of a curve in annotations and settings. -/
def name : NistCurve → String
  | p256 => "P-256"
  | p384 => "P-384"
  | p521 => "P-521"

/-- The curve of a name; names are exact. -/
def ofName? : String → Option NistCurve
  | "P-256" => some p256
  | "P-384" => some p384
  | "P-521" => some p521
  | _ => none

end NistCurve

/-- The smallest size of a modulus, in bits. -/
def minRsaBits : Nat := 1024

/-- Why nothing is generated. -/
inductive GeneratorError where
  | zeroLength
  | emptyCharset
  | unknownKind (name : String)
  /-- A key pair was asked for where one value is made. -/
  | keypairKind (kind : Kind)
  | rsaTooSmall (bits : Nat)
  | unsupportedCurve (name : String)
  /-- No key was found within the effort allowed. -/
  | keySearchFailed (algorithm : String)
deriving DecidableEq

/-- The complaint of the generator. -/
def GeneratorError.message : GeneratorError → String
  | .zeroLength => "length must be positive, got 0"
  | .emptyCharset => "charset must not be empty"
  | .unknownKind name => s!"unknown generation type: {name}"
  | .keypairKind kind => s!"keypair type {kind.name} must be generated using its dedicated keypair method"
  | .rsaTooSmall bits => s!"RSA key size must be at least {minRsaBits} bits, got {bits}"
  | .unsupportedCurve name => s!"unsupported ECDSA curve: '{name}', must be 'P-256', 'P-384', or 'P-521'"
  | .keySearchFailed algorithm => s!"failed to generate {algorithm} key: search exhausted"

/-- The kind of a name, or the complaint about it. -/
def Kind.parse (name : String) : Except GeneratorError Kind :=
  match Kind.ofName? name with
  | some kind => .ok kind
  | none => .error (.unknownKind name)

/-- The curve of a name, or the complaint about it. -/
def NistCurve.parse (name : String) : Except GeneratorError NistCurve :=
  match NistCurve.ofName? name with
  | some curve => .ok curve
  | none => .error (.unsupportedCurve name)

theorem Kind.ofName?_name (k : Kind) : Kind.ofName? k.name = some k := by cases k <;> rfl

theorem NistCurve.ofName?_name (c : NistCurve) : NistCurve.ofName? c.name = some c := by cases c <;> rfl

end SecretRotation
