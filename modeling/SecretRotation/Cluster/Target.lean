import SecretRotation.ManagedObject

/-!
# Request targets

The target of a request is a path, and a query after a question mark. A target is checked before anything is sent: both parts
are made of certain characters only. A number sign begins a fragment, which is neither checked nor sent.

## Main definitions

* `TargetError`: why a request is not sent.
* `Target.path?`: the path of a target.
* `Target.secret?`, `Target.events?`, `Target.event?`: the paths of secrets and events.
-/

namespace SecretRotation

/-- Why a request is not sent. -/
inductive TargetError where
  /-- The last part of the path has no name in it. -/
  | unnamed
  | badCharacter
  | tooLong
deriving DecidableEq

/-- The complaint. -/
def TargetError.message : TargetError → String
  | unnamed => "Failed to build request: failed to validate request: A non-empty name is required"
  | badCharacter => "Failed to build request: failed to build request: invalid uri character"
  | tooLong => "Failed to build request: failed to build request: uri too long"

namespace Target

/-- The bytes of the longest target. -/
def longest : Nat := 65534

/-- The characters of a path: neither blanks nor control characters, nor one of three others. Characters beyond ASCII may
all be there. -/
def isPathChar (c : Char) : Bool :=
  0x20 < c.toNat && c.toNat != 0x7F && c != '<' && c != '>' && c != '\x60'

/-- The characters of a query. -/
def isQueryChar (c : Char) : Bool :=
  0x20 < c.toNat && c.toNat != 0x7F && c != '<' && c != '>' && c != '"'

/-- The path of a target. It ends before the query, or before the fragment if there is no query. -/
def path? (target : String) : Except TargetError String :=
  let sent := target.toList.takeWhile (· != '#')
  let path := sent.takeWhile (· != '?')
  if longest < target.utf8ByteSize then .error .tooLong
  else if path.all isPathChar && (sent.drop path.length).all isQueryChar then .ok (String.ofList path)
  else .error .badCharacter

/-- Where the secrets of all namespaces are. -/
def namespaces : String := "/api/v1/namespaces/"

/-- Where a secret is. -/
def ofSecret (key : ObjectKey) : String := s!"{namespaces}{key.space}/secrets/{key.name}"

/-- The key of the secret that is at the end of a path, in one text. -/
def secretAt (path : String) : String :=
  match (String.ofList (path.toList.drop namespaces.length)).splitOn "/secrets/" with
  | [] => ""
  | space :: name => space ++ "/" ++ "/secrets/".intercalate name

/-- Where the events of all namespaces are. -/
def eventNamespaces : String := "/apis/events.k8s.io/v1/namespaces/"

/-- Where the events of a namespace are. -/
def ofEvents (space : String) : String := s!"{eventNamespaces}{space}/events"

/-- The path of a request for a secret. Its query is empty, here as below. -/
def secret? (key : ObjectKey) : Except TargetError String :=
  if key.name = "" then .error .unnamed else path? (ofSecret key ++ "?")

/-- The path of a request for a new event. -/
def events? (space : String) : Except TargetError String := path? (ofEvents space ++ "?")

/-- The path of a request for an event with a name. -/
def event? (space name : String) : Except TargetError String := path? (ofEvents space ++ "/" ++ name ++ "?")

/-- A path with a star in place of the name of an event. The namespace of the event may itself be called `events`, so the
name is looked for behind the part that all paths of events begin with. -/
def starred (path : String) : String :=
  match (String.ofList (path.toList.drop eventNamespaces.length)).splitOn "/events/" with
  | space :: _ :: _ => ofEvents space ++ "/*"
  | _ => path

end Target

end SecretRotation
