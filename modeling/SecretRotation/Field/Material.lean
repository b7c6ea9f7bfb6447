import SecretRotation.Field.Spec
import SecretRotation.Material.Generator

/-!
# The material of a field

A field gets one value, or a key pair. A pair fills two entries: the private half goes under the name of the field and the
public half beside it.

## Main definitions

* `Material`: what was generated.
* `Material.entries`: the entries that it fills.
* `Generator.produce`: material by the settings of a field.
-/

namespace SecretRotation

/-- What was generated for a field. -/
inductive Material where
  | value (bytes : ByteArray)
  | pair (key : PrivateKey)

/-- The entries that are filled, in the order in which they are written. -/
def Material.entries (field : String) : Material → List (String × SecretBytes)
  | .value bytes => [(field, ⟨bytes⟩)]
  | .pair key =>
    [(field, .ofText key.privatePem.expose), (Annotations.publicEntry field, .ofText key.publicPem)]

/-- Turns what was generated into material. -/
def Generated.map {α β : Type} (f : α → β) : Generated α → Generated β
  | .ok (a, rest) => .ok (f a, rest)
  | .error cause => .error cause

/-- Material by the settings of a field. -/
def Generator.produce (g : Generator) (spec : FieldSpec) (e : Entropy) : Generated Material :=
  match spec.kind with
  | .error cause => .error cause
  | .ok .string => (g.text spec.length e).map .value
  | .ok .bytes => (g.bytes spec.length e).map .value
  | .ok .rsa => (g.rsa spec.length e).map .pair
  | .ok .ecdsa => (g.ecdsa spec.curve e).map .pair
  | .ok .ed25519 => (g.ed25519 e).map .pair

end SecretRotation
