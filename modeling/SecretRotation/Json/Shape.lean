import SecretRotation.Instant.Stamp
import SecretRotation.Json.Binary

/-!
# Shapes of JSON values

A shape says what a value must look like, and reading a value by its shape leaves only what the shape knows: unknown members
and members without a value are dropped.

## Main definitions

* `Json.Scalar`, `Json.Shape`: the shapes.
* `Json.Scalar.read?`, `Json.Shape.read?`: the value by its shape, or nothing if it does not fit.
-/

namespace SecretRotation.Json

/-- The shape of a single value. -/
inductive Scalar where
  | text
  | flag
  /-- An integer that fits into 64 bits with a sign. -/
  | integer
  /-- A point in time, which is written in universal time at whole seconds. -/
  | instant
  | any
deriving DecidableEq

/-- A single value by its shape. -/
def Scalar.read? : Scalar → Json → Option Json
  | .text, j => j.text?.map string
  | .flag, j => j.flag?.map bool
  | .integer, j => j.signedWord?.map ofInt
  | .instant, j => (j.text?.bind Instant.parseLoose?).map fun t => string t.format
  | .any, j => some j.held

/-- What is known of a member of a record. -/
structure MemberRule where
  name : String
  /-- A required member without a value is written as the empty text. -/
  required : Bool
  scalar : Scalar
deriving DecidableEq

/-- The shape of a member. -/
inductive Shape where
  | scalar (s : Scalar)
  /-- A list of texts. -/
  | texts
  /-- An object whose members are all texts. -/
  | textMap
  /-- A list of objects with known members. -/
  | records (rules : List MemberRule)
deriving DecidableEq

/-- The value of a member by its rule: nothing to write if it has none, and a failure if it does not fit. -/
def MemberRule.read? (r : MemberRule) (j : Json) : Option (Option (String × Json)) :=
  match j.member? r.name with
  | some v => (r.scalar.read? v).map fun v => some (r.name, v)
  | none => some (if r.required then some (r.name, string "") else none)

/-- An object with known members. -/
def readRecord? (rules : List MemberRule) (j : Json) : Option Json := do
  let _ ← j.members?
  let found ← rules.mapM (·.read? j)
  pure (object (found.filterMap id))

/-- A value by its shape. -/
def Shape.read? : Shape → Json → Option Json
  | .scalar s, j => s.read? j
  | .texts, j => do
    let items ← (← j.items?).mapM Scalar.text.read?
    pure (array items)
  | .textMap, j => do
    let members ← (← j.members?).mapM fun (name, value) => (Scalar.text.read? value).map (name, ·)
    pure (object members)
  | .records rules, j => do
    let items ← (← j.items?).mapM (readRecord? rules)
    pure (array items)

/-- The members of an object that are known, by their shapes. -/
def readKnown? (known : List (String × Shape)) (j : Json) : Option (List (String × Json)) := do
  let found ← known.mapM fun (name, shape) =>
    match j.member? name with
    | some v => (shape.read? v).map fun v => some (name, v)
    | none => some none
  pure (found.filterMap id)

end SecretRotation.Json
