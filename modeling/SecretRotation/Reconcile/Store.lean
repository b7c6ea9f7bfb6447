import SecretRotation.ManagedObject
import SecretRotation.Text.Numeral

/-!
# The store in memory

A store that keeps objects by their keys and gives each write a version of its own. An object is only written over the
version that it was read with, so that nobody's change is lost unseen. Versions are counted in 64 bits, and after the last
one the count starts over.

## Main definitions

* `StoreError`: why a store refuses.
* `Store`: the objects, and the count of versions.
* `Store.get`, `Store.insert`, `Store.update`: reading, and writing without and with a look at the version.
-/

namespace SecretRotation

/-- Why a store refuses. -/
inductive StoreError where
  /-- The object has changed since it was read. -/
  | conflict (key : String)
  | backend (message : String)
deriving DecidableEq

/-- The complaint of a store. -/
def StoreError.message : StoreError → String
  | .conflict key => s!"conflict updating {key}: the object has been modified"
  | .backend message => s!"store error: {message}"

/-- Objects by their keys. -/
structure Store where
  objects : ObjectKey → Option ManagedObject
  /-- The last version given out. -/
  version : UInt64
  /-- The number of successful updates. -/
  updates : UInt64
  /-- The answer that the next update is to get, for trying out failures. -/
  nextFailure : Option StoreError

namespace Store

/-- The store without objects. -/
def empty : Store := ⟨fun _ => none, 0, 0, none⟩

instance : Inhabited Store := ⟨empty⟩

/-- The text of a version. -/
def versionText (n : UInt64) : String := String.ofList (Text.decimal n.toNat)

/-- The object under a key. -/
def get (s : Store) (key : ObjectKey) : Option ManagedObject := s.objects key

/-- Keeps an object under its key, as the next version. -/
def put (s : Store) (o : ManagedObject) : ManagedObject × Store :=
  let stored := { o with version := some (versionText (s.version + 1)) }
  (stored, { s with
    objects := fun key => if key = o.key then some stored else s.objects key,
    version := s.version + 1 })

/-- Keeps an object, whatever was there before. -/
def insert (s : Store) (o : ManagedObject) : Store := (s.put o).2

/-- Keeps an object in place of the version that it was read with. -/
def update (s : Store) (o : ManagedObject) : Except StoreError ManagedObject × Store :=
  match s.nextFailure with
  | some failure => (.error failure, { s with nextFailure := none })
  | none =>
    match s.objects o.key with
    | none => (.error (.backend s!"{o.key.render} not found"), s)
    | some current =>
      if current.version = o.version then
        let (stored, s) := s.put o
        (.ok stored, { s with updates := s.updates + 1 })
      else (.error (.conflict o.key.render), s)

/-- Lets the next update fail. -/
def failNextUpdate (s : Store) (failure : StoreError) : Store :=
  { s with nextFailure := some failure }

end Store

end SecretRotation
