import SecretRotation.Cluster.Server
import SecretRotation.Reconcile.Basic

/-!
# Cluster clients

A cluster as a place for managed objects. To write an object, its manifest is fetched anew and gets the object's contents and
version, so that everything else in the manifest stays, and the server sees whether the object has changed in between. The
server may be any that answers requests for manifests; what others do to it between two requests is not up to the client.

Events are reported to the server. A repeated event is reported as a change of the first one, with the words of the first.

## Main definitions

* `ClusterError`: why a request came to nothing.
* `SecretApi`: a server, with `SecretApi.read` and `SecretApi.update`.
* `SecretApi.backend`: a server as a place for cycles.
* `Recorder`: the events reported so far.
* `Cluster`: the server in memory and a recorder, with `Cluster.get`, `Cluster.update` and `Cluster.publish`.
* `Cluster.backend`: the cluster in memory as such a place.
-/

namespace SecretRotation

/-- Why a request came to nothing. -/
inductive ClusterError where
  | api (message : String)
  | notFound (key : ObjectKey)
  | conflict (key : ObjectKey)
  /-- There is no cluster to talk to. -/
  | setup (message : String)
deriving DecidableEq

namespace ClusterError

/-- The complaint. -/
def message : ClusterError → String
  | api message => s!"K8s API error: {message}"
  | notFound key => s!"Secret not found: {key.render}"
  | conflict key => s!"Secret {key.render} was modified concurrently"
  | setup message => s!"Failed to build K8s client: {message}"

/-- The complaint of a store of managed objects. -/
def toStoreError : ClusterError → StoreError
  | conflict key => .conflict key.render
  | other => .backend other.message

/-- The complaint about a status that has no meaning of its own. One that is no error is read as a manifest, up to the member
that says that it is none. -/
def ofStatus (s : ApiStatus) : ClusterError :=
  .api (if s.isError then s.describe else s.misread)

end ClusterError

/-- A server that keeps manifests by the paths that lead to them. It answers requests for a manifest, and for one to be put
in place of another. -/
structure SecretApi (σ : Type) where
  get : String → σ → Except ApiStatus Manifest × σ
  put : String → Manifest → σ → Except ApiStatus Manifest × σ

namespace SecretApi

variable {σ : Type} (api : SecretApi σ)

/-- The manifest under a key, if there is one. A refusal says by its reason that there is none, whatever its code. -/
def fetch (key : ObjectKey) (s : σ) : Except ClusterError (Option Manifest) × σ :=
  match Target.secret? key with
  | .error cause => (.error (.api cause.message), s)
  | .ok path =>
    match api.get path s with
    | (.ok m, s) => (.ok (some m), s)
    | (.error status, s) =>
      (if status.isError ∧ status.reason = ApiStatus.notFoundReason then .ok none else .error (.ofStatus status), s)

/-- Stores a manifest under a key. A refusal says by its code that the manifest has changed, whatever its reason. -/
def replace (key : ObjectKey) (m : Manifest) (s : σ) : Except ClusterError Manifest × σ :=
  match Target.secret? key with
  | .error cause => (.error (.api cause.message), s)
  | .ok path =>
    match api.put path m s with
    | (.ok m, s) => (.ok m, s)
    | (.error status, s) => (.error (if status.code = 409 then .conflict key else .ofStatus status), s)

/-- The managed object under a key. -/
def read (key : ObjectKey) (s : σ) : Except ClusterError (Option ManagedObject) × σ :=
  match api.fetch key s with
  | (.ok m, s) => (.ok (m.map Manifest.object), s)
  | (.error cause, s) => (.error cause, s)

/-- Writes a managed object into the manifest that was found for it. -/
def writeBack (o : ManagedObject) (found : Except ClusterError (Option Manifest)) (s : σ) :
    Except ClusterError ManagedObject × σ :=
  match found with
  | .error cause => (.error cause, s)
  | .ok none => (.error (.notFound o.key), s)
  | .ok (some m) =>
    match api.replace o.key (m.apply o) s with
    | (.ok stored, s) => (.ok stored.object, s)
    | (.error cause, s) => (.error cause, s)

/-- Writes a managed object into its manifest, which is fetched first. -/
def update (o : ManagedObject) (s : σ) : Except ClusterError ManagedObject × σ :=
  let (found, s) := api.fetch o.key s
  api.writeBack o found s

/-- A server as a place for cycles, with an ear for messages and a clock. -/
def backend (publish : ManagedObject → Notification → σ → σ) (now : σ → Instant) : Backend σ where
  get key s :=
    let (answer, s) := api.read key s
    (answer.mapError ClusterError.toStoreError, s)
  update o s :=
    let (answer, s) := api.update o s
    (answer.mapError ClusterError.toStoreError, s)
  publish := publish
  now := now

end SecretApi

/-- The events that were reported and kept, one of each kind, as they were last sent. -/
abbrev Recorder := List EventRecord

namespace Recorder

/-- The event to send: the given one, or a repetition of the one of its kind that was kept. -/
def next (r : Recorder) (e : EventRecord) : EventRecord :=
  match r.find? (·.kind = e.kind) with
  | some known => { known with count := some (known.count.elim 2 (· + 1)) }
  | none => e

/-- Remembers an event in place of the one of its kind. -/
def keep (r : Recorder) (e : EventRecord) : Recorder :=
  e :: r.filter (·.kind ≠ e.kind)

end Recorder

/-- A server, the events reported to it, and who reports them. -/
structure Cluster where
  server : Server
  recorder : Recorder
  reporter : String
  now : Instant

namespace Cluster

/-- The reporter that stands in the events of a machine whose name is not known. -/
def controller : String := "warden"

/-- The server in memory. -/
def api : SecretApi Cluster where
  get path c :=
    let (answer, server) := c.server.get path
    (answer, { c with server })
  put path m c :=
    let (answer, server) := c.server.put path m
    (answer, { c with server })

/-- The managed object under a key. -/
def get (c : Cluster) (key : ObjectKey) : Except ClusterError (Option ManagedObject) × Cluster := api.read key c

/-- Writes a managed object into its manifest. -/
def update (c : Cluster) (o : ManagedObject) : Except ClusterError ManagedObject × Cluster := api.update o c

/-- Reports a message about an object. Only an event that was sent and that the server has kept is remembered. -/
def publish (c : Cluster) (o : ManagedObject) (n : Notification) : Cluster :=
  let event := c.recorder.next {
    name := EventRecord.nameAt o.key c.now,
    kind := ⟨n.severity, n.reason, ⟨o.key, o.version⟩⟩,
    note := n.message,
    reporter := c.reporter,
    count := none }
  match event.path? with
  | .error _ => c
  | .ok path =>
    match c.server.record path event with
    | (true, server) => { c with server, recorder := c.recorder.keep event }
    | (false, server) => { c with server }

/-- The cluster as a place for cycles. Messages are reported as events, or else to nobody. -/
def backend (report : Bool) : Backend Cluster :=
  api.backend (fun o n c => if report then c.publish o n else c) now

end Cluster

end SecretRotation
