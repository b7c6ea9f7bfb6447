import SecretRotation.Annotations
import SecretRotation.Instant.Stamp
import SecretRotation.Secret

/-!
# Managed objects

A managed object has a name within a namespace, annotations, and entries that hold secret bytes. Which of its fields are to
be filled, and when they were last written, is told by its annotations.

## Main definitions

* `ObjectKey`: the name of an object.
* `ManagedObject`: an object as it was read.
* `ManagedObject.fields`, `ManagedObject.hasValue`: the fields to fill, and those that are filled.
* `ManagedObject.baseline?`: the time from which the age of a field counts.
-/

namespace SecretRotation

/-- The name of an object within its namespace. -/
structure ObjectKey where
  space : String
  name : String
deriving DecidableEq, Inhabited

/-- The key in one text. -/
def ObjectKey.render (k : ObjectKey) : String := k.space ++ "/" ++ k.name

/-- The entries of an object. -/
abbrev Entries := Std.ExtTreeMap String SecretBytes

/-- An object as it was read from a store. -/
structure ManagedObject where
  key : ObjectKey
  /-- The version that a store gave to the object, for telling whether it has changed since. -/
  version : Option String
  annotations : Annotations
  data : Entries

namespace ManagedObject

/-- The value of an annotation, unless it is empty. -/
def annotation? (o : ManagedObject) (key : String) : Option String :=
  Annotations.value? o.annotations key

/-- The fields to fill, in the order of the list. -/
def fields (o : ManagedObject) : List String :=
  ((o.annotation? Annotations.autogenerate).map Annotations.fieldNames).getD []

/-- A field is filled when its entry is not empty. -/
def hasValue (o : ManagedObject) (field : String) : Bool :=
  o.data[field]?.any fun value => value.expose.size != 0

/-- The time of the last write to the object. A stamp that cannot be read is as good as none. -/
def stamp? (o : ManagedObject) : Option Instant :=
  (o.annotation? Annotations.generatedAt).bind Instant.parse?

/-- The time of the last write to a field, as far as the field has a stamp of its own. -/
def fieldStamp? (o : ManagedObject) (field : String) : Option Instant :=
  (o.annotation? (Annotations.fieldKey Annotations.generatedAt field)).bind Instant.parse?

/-- The time from which the age of a field counts: its own stamp, or else that of the object. -/
def baseline? (o : ManagedObject) (field : String) : Option Instant :=
  o.fieldStamp? field <|> o.stamp?

/-- The object as logs show it, with its entries hidden. -/
def shown (o : ManagedObject) : Shown :=
  .record "ManagedObject" [
    .labelled "namespace" (.text o.key.space),
    .labelled "name" (.text o.key.name),
    .labelled "resource_version" (.optional (o.version.map Shown.text)),
    .labelled "annotations" (.mapping (o.annotations.toList.map fun (k, v) => .labelled (Text.quoted k) (.text v))),
    .labelled "data" (.mapping (o.data.toList.map fun (k, v) => .labelled (Text.quoted k) v.shown))]

end ManagedObject

end SecretRotation
