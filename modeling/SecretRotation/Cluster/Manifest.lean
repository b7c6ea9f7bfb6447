import SecretRotation.Json.Shape
import SecretRotation.ManagedObject
import SecretRotation.Text.Base64

/-!
# Manifests

A secret as a cluster keeps it: the parts that a managed object is made of, and all else that a manifest may hold, which is
left as it is.

## Main definitions

* `Manifest`: the secret of a cluster.
* `Manifest.ofJson?`, `Manifest.toJson`: its document.
* `Manifest.object`, `Manifest.apply`: the managed object of a manifest, and the manifest with the contents of a managed object.
-/

namespace SecretRotation

/-- A secret as a cluster keeps it. -/
structure Manifest where
  space : Option String
  name : Option String
  version : Option String
  annotations : Option Annotations
  data : Option Entries
  /-- The other members of its metadata. -/
  metadata : List (String × Json)
  /-- The other members of the document. -/
  members : List (String × Json)

namespace Manifest

/-- The other members that metadata may have. -/
def knownMetadata : List (String × Json.Shape) := [
  ("creationTimestamp", .scalar .instant),
  ("deletionGracePeriodSeconds", .scalar .integer),
  ("deletionTimestamp", .scalar .instant),
  ("finalizers", .texts),
  ("generateName", .scalar .text),
  ("generation", .scalar .integer),
  ("labels", .textMap),
  ("managedFields", .records [
    ⟨"apiVersion", false, .text⟩, ⟨"fieldsType", false, .text⟩, ⟨"fieldsV1", false, .any⟩, ⟨"manager", false, .text⟩,
    ⟨"operation", false, .text⟩, ⟨"subresource", false, .text⟩, ⟨"time", false, .instant⟩]),
  ("ownerReferences", .records [
    ⟨"apiVersion", true, .text⟩, ⟨"blockOwnerDeletion", false, .flag⟩, ⟨"controller", false, .flag⟩,
    ⟨"kind", true, .text⟩, ⟨"name", true, .text⟩, ⟨"uid", true, .text⟩]),
  ("selfLink", .scalar .text),
  ("uid", .scalar .text)]

/-- The other members that the document may have. -/
def knownMembers : List (String × Json.Shape) := [
  ("immutable", .scalar .flag),
  ("stringData", .textMap),
  ("type", .scalar .text)]

/-- A member with a fixed text may be missing, but it may not say anything else. -/
def checkFixed (j : Json) (name text : String) : Option Unit :=
  match (j.members?.getD []).lookup name with
  | some (.string found) => if found = text then some () else none
  | some _ => none
  | none => some ()

/-- An optional member with a text. -/
def text? (j : Json) (name : String) : Option (Option String) :=
  match j.member? name with
  | some v => v.text?.map some
  | none => some none

/-- Annotations from a document. -/
def readAnnotations? (j : Json) : Option Annotations := do
  let members ← (← j.members?).mapM fun (name, value) => value.text?.map (name, ·)
  pure (.ofList members)

/-- One entry, whose bytes are written in base 64. An entry without a value has no bytes. -/
def readValue? : Json → Option SecretBytes
  | .null => some ⟨.empty⟩
  | j => do
    let bytes ← Base64.decode? (← j.text?).toList
    pure ⟨bytes.toByteArray⟩

/-- Entries from a document. -/
def readEntries? (j : Json) : Option Entries := do
  let members ← (← j.members?).mapM fun (name, value) => (readValue? value).map (name, ·)
  pure (.ofList members)

/-- An optional member that is read in some way. -/
def part? {α : Type} (read? : Json → Option α) (j : Json) (name : String) : Option (Option α) :=
  match j.member? name with
  | some v => (read? v).map some
  | none => some none

/-- The manifest of a document. -/
def ofJson? (j : Json) : Option Manifest := do
  let _ ← j.members?
  checkFixed j "apiVersion" "v1"
  checkFixed j "kind" "Secret"
  let metadata := (j.member? "metadata").getD (.object [])
  let _ ← metadata.members?
  pure {
    space := ← text? metadata "namespace",
    name := ← text? metadata "name",
    version := ← text? metadata "resourceVersion",
    annotations := ← part? readAnnotations? metadata "annotations",
    data := ← part? readEntries? j "data",
    metadata := ← Json.readKnown? knownMetadata metadata,
    members := ← Json.readKnown? knownMembers j }

/-- A member for a value that is there. -/
def member (name : String) : Option Json → List (String × Json)
  | some v => [(name, v)]
  | none => []

/-- The document of annotations. -/
def annotationsJson (annotations : Annotations) : Json :=
  .object (annotations.toList.map fun (k, v) => (k, .string v))

/-- The document of entries. -/
def entriesJson (data : Entries) : Json :=
  .object (data.toList.map fun (k, v) => (k, .string (String.ofList (Base64.encode v.expose.toList))))

/-- The document of a manifest. -/
def toJson (m : Manifest) : Json :=
  .object ([("apiVersion", .string "v1"), ("kind", .string "Secret"),
    ("metadata", .object (member "annotations" (m.annotations.map annotationsJson) ++ member "name" (m.name.map .string) ++
      member "namespace" (m.space.map .string) ++ member "resourceVersion" (m.version.map .string) ++ m.metadata))] ++
    member "data" (m.data.map entriesJson) ++ m.members)

/-- The key under which a manifest is kept. -/
def key (m : Manifest) : ObjectKey := ⟨m.space.getD "", m.name.getD ""⟩

/-- The managed object of a manifest. -/
def object (m : Manifest) : ManagedObject :=
  { key := m.key, version := m.version, annotations := m.annotations.getD ∅, data := m.data.getD ∅ }

/-- A manifest with the version, the annotations and the entries of a managed object. All else stays. -/
def apply (m : Manifest) (o : ManagedObject) : Manifest :=
  { m with version := o.version, annotations := some o.annotations, data := some o.data }

end Manifest

end SecretRotation
