import SecretRotation.ManagedObject

/-!
# Stamping

After a write the object's stamp moves to the present. Fields that were not written, but whose age counted from that stamp,
must not become younger by this: the old stamp is pinned to them as their own.

## Main definitions

* `ManagedObject.leansOnStamp`: the age of a field counts from the object's stamp.
* `ManagedObject.pinned`: the annotations with the old stamp pinned to fields.
* `ManagedObject.stamped`: the annotations after a write.
-/

namespace SecretRotation.ManagedObject

/-- A filled field without a readable stamp of its own. -/
def leansOnStamp (o : ManagedObject) (field : String) : Bool :=
  o.hasValue field && (o.fieldStamp? field).isNone

/-- Gives fields a stamp of their own. -/
def stampFields (annotations : Annotations) (fields : List String) (stamp : String) : Annotations :=
  fields.foldl (fun found field => found.insert (Annotations.fieldKey Annotations.generatedAt field) stamp) annotations

/-- The annotations with the object's old stamp pinned to the fields that lean on it and are not written. -/
def pinned (o : ManagedObject) (fields written : List String) : Annotations :=
  match o.stamp? with
  | some previous =>
    stampFields o.annotations (fields.filter fun field => !written.contains field && o.leansOnStamp field) previous.format
  | none => o.annotations

/-- The annotations after a write of some of the listed fields. -/
def stamped (o : ManagedObject) (fields written : List String) (now : Instant) : Annotations :=
  (stampFields (o.pinned fields written) written now.format).insert Annotations.generatedAt now.format

end SecretRotation.ManagedObject
