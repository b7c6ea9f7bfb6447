import SecretRotation.Cluster.Manifest
import SecretRotation.Cluster.Target
import SecretRotation.Cycle.Notification

/-!
# The server in memory

A stand-in for the server of a cluster. It keeps manifests by the paths that lead to them, gives every stored one a version
of its own, and refuses a manifest with another version than the stored one. It writes down each request, and it can be told
to fail.

## Main definitions

* `ApiStatus`: the server's refusal of a request.
* `EventRecord`: an event as it is sent to the server.
* `Request`, `Verb`: what the server is asked.
* `Server`: its state, with `Server.get`, `Server.put` and `Server.record`.
-/

namespace SecretRotation

/-- The refusal of a request. -/
structure ApiStatus where
  code : Nat
  message : String
  reason : String
deriving DecidableEq

namespace ApiStatus

/-- The refusal as a log shows it, after the words that say it plainly. -/
def describe (s : ApiStatus) : String :=
  s!"ApiError: {s.message}: {s.reason} (" ++
    (Shown.record "ErrorResponse" [
      .labelled "status" (.text "Failure"),
      .labelled "message" (.text s.message),
      .labelled "reason" (.text s.reason),
      .labelled "code" (.atom (toString s.code))]).inline ++ ")"

/-- The complaint of a reader that expects a manifest: the sort of the document is not that of one. The place of the complaint
is the end of the member with the sort, which comes after the version of the document and the code. -/
def misread (s : ApiStatus) : String :=
  let read := "\x7b\"apiVersion\":\"v1\",\"code\":" ++ toString s.code ++ ",\"kind\":\"Status\""
  "Error deserializing response: invalid value: string \"Status\", expected Secret at line 1 column " ++ toString read.length

/-- The reason of a refusal for what is not there. -/
def notFoundReason : String := "NotFound"

/-- What was asked for is not there. -/
def notFound (path : String) : ApiStatus := ⟨404, s!"secrets \"{Target.secretAt path}\" not found", notFoundReason⟩

/-- The manifest has changed since it was read. -/
def conflict (path : String) : ApiStatus :=
  ⟨409, s!"Operation cannot be fulfilled on secrets \"{Target.secretAt path}\"", "Conflict"⟩

/-- The code is one of an error. A status with any other code stands in for what was asked for, and cannot be read as that. -/
def isError (s : ApiStatus) : Bool := 400 ≤ s.code && s.code < 600

end ApiStatus

/-- What an event is about: a version of an object. -/
structure EventSubject where
  key : ObjectKey
  version : Option String
deriving DecidableEq

/-- Events that differ in none of these parts are repetitions of each other. -/
structure EventKind where
  severity : Severity
  reason : Reason
  subject : EventSubject
deriving DecidableEq

/-- The activity that an event belongs to. -/
def Reason.action : Reason → String
  | .generationSucceeded | .generationFailed => "Generate"
  | .rotationSucceeded | .rotationFailed => "Rotate"

/-- An event as it is sent to the server. -/
structure EventRecord where
  /-- The name under which the server keeps it. -/
  name : String
  kind : EventKind
  note : String
  /-- Who reports. -/
  reporter : String
  /-- How often the event has happened by now, from its second time on. -/
  count : Option Nat
deriving DecidableEq

namespace EventRecord

/-- The name of an event that happens to an object: that of the object and the time in nanoseconds, in base sixteen. -/
def nameAt (key : ObjectKey) (now : Instant) : String :=
  key.name ++ "." ++ String.ofList (Nat.toDigits 16 (now.seconds * Duration.perSecond + now.nanos).toNat)

/-- The path to which an event is sent. The second and later reports of an event change the first. -/
def path? (e : EventRecord) : Except TargetError String :=
  if e.count.isSome then Target.event? e.kind.subject.key.space e.name else Target.events? e.kind.subject.key.space

end EventRecord

/-- What the server is asked, with the path of what it is asked for. -/
inductive Request where
  | get (path : String)
  | put (path : String) (version : Option String)
  | event (path : String) (record : EventRecord)
deriving DecidableEq

/-- The sorts of requests. -/
inductive Verb where
  | get | put | event
deriving DecidableEq

namespace Request

/-- The sort of a request. -/
def verb : Request → Verb
  | get _ => .get
  | put .. => .put
  | event .. => .event

/-- The method of a request. -/
def method : Request → String
  | get _ => "GET"
  | put .. => "PUT"
  | event _ record => if record.count.isSome then "PATCH" else "POST"

/-- The path of a request as it is shown. The name of an event depends on the time and stands here as a star. -/
def shownPath : Request → String
  | get path => path
  | put path _ => path
  | event path record => if record.count.isSome then Target.starred path else path

end Request

/-- The state of the server. -/
structure Server where
  /-- The manifests by their paths. -/
  secrets : Std.ExtTreeMap String Manifest
  /-- Failures to come: the first one for the verb of a request is taken. One with the code zero lets the request pass. -/
  failures : List (Verb × ApiStatus)
  /-- The requests so far. -/
  log : List Request

namespace Server

/-- A server with some secrets and failures to come. -/
def start (secrets : List Manifest) (failures : List (Verb × ApiStatus)) : Server :=
  ⟨.ofList (secrets.map fun m => (Target.ofSecret m.key, m)), failures, []⟩

/-- Writes a request down and takes the failure that is meant for it. -/
def receive (s : Server) (request : Request) : Option ApiStatus × Server :=
  let s := { s with log := s.log ++ [request] }
  match s.failures.find? (·.1 == request.verb) with
  | some failure =>
    (if failure.2.code = 0 then none else some failure.2,
      { s with failures := s.failures.eraseP (·.1 == request.verb) })
  | none => (none, s)

/-- The manifest at the end of a path. -/
def get (s : Server) (path : String) : Except ApiStatus Manifest × Server :=
  match s.receive (.get path) with
  | (some status, s) => (.error status, s)
  | (none, s) =>
    match s.secrets[path]? with
    | some m => (.ok m, s)
    | none => (.error (.notFound path), s)

/-- The version after a version. A version that is no number of 64 bits counts as zero. -/
def nextVersion (version : Option String) : String :=
  let number := (version.bind fun v => Text.unsigned? Text.wordBound v.toList).getD 0
  String.ofList (Text.decimal ((number + 1) % Text.wordBound))

/-- A manifest that carries a version is only stored over a manifest with the same one. -/
def mayReplace (stored m : Manifest) : Bool :=
  match m.version with
  | some version => stored.version == some version
  | none => true

/-- Stores a manifest at the end of a path, as the next version. -/
def put (s : Server) (path : String) (m : Manifest) : Except ApiStatus Manifest × Server :=
  match s.receive (.put path m.version) with
  | (some status, s) => (.error status, s)
  | (none, s) =>
    match s.secrets[path]? with
    | none => (.error (.notFound path), s)
    | some stored =>
      if mayReplace stored m then
        let m := { m with version := some (nextVersion stored.version) }
        (.ok m, { s with secrets := s.secrets.insert path m })
      else (.error (.conflict path), s)

/-- Takes an event, and says whether it was kept. -/
def record (s : Server) (path : String) (e : EventRecord) : Bool × Server :=
  let (status, s) := s.receive (.event path e)
  (status.isNone, s)

end Server

end SecretRotation
