import SecretRotation.Settings.Document
import SecretRotation.Settings.Environment

/-!
# Sources of settings

Settings come from built-in values, from a file and from the environment. The sources are ordered by their ranks, each is
laid over those before it, and the first one that cannot be read is the one that is complained about.

## Main definitions

* `Precedence`: the ranks of sources.
* `FileContent`, `Layer.ofFile`: a file, and its layer.
* `Source`: a rank and what the source gives.
* `Settings.load`: the settings from several sources.
* `Settings.fromFile`: the settings from the usual ones.
-/

namespace SecretRotation

/-- The ranks of sources. -/
inductive Precedence where
  | builtIn
  | file
  | environment
deriving DecidableEq

/-- The place of a rank. -/
def Precedence.rank : Precedence → Nat
  | builtIn => 10
  | file => 20
  | environment => 50

/-- What stands under a path. -/
inductive FileContent where
  | missing
  | directory
  /-- The file may not be read. -/
  | denied
  | bytes (content : ByteArray)

/-- The layer of a file. A missing file says nothing. -/
def Layer.ofFile (path : String) : FileContent → Except ConfigError Layer
  | .missing => .ok .empty
  | .directory => .error (.unreadable path .isDirectory)
  | .denied => .error (.unreadable path .denied)
  | .bytes content =>
    match String.fromUTF8? content with
    | none => .error (.unreadable path .notText)
    | some text =>
      match (Toml.parse? text).bind Layer.ofEntries? with
      | some layer => .ok layer
      | none => .error (.malformed path)

/-- A source of settings. -/
structure Source where
  precedence : Precedence
  layer : Except ConfigError Layer

namespace Source

/-- The built-in values. -/
def builtIn : Source := ⟨.builtIn, .ok .empty⟩

/-- A file. -/
def file (path : String) (content : FileContent) : Source := ⟨.file, Layer.ofFile path content⟩

/-- The environment. -/
def environment (env : Environment) : Source := ⟨.environment, Layer.ofEnvironment env⟩

/-- Sources by their ranks. Those of one rank stay in their order. -/
def ordered (sources : List Source) : List Source :=
  sources.mergeSort fun a b => a.precedence.rank ≤ b.precedence.rank

/-- The layers of sources, one over the other, over a layer at the bottom. -/
def stack : Layer → List Source → Except ConfigError Layer
  | bottom, [] => .ok bottom
  | bottom, source :: sources =>
    match source.layer with
    | .ok layer => stack (layer.atop bottom) sources
    | .error cause => .error cause

end Source

namespace Settings

/-- The settings from several sources. -/
def load (sources : List Source) : Except ConfigError Settings :=
  match Source.stack .empty (Source.ordered sources) with
  | .ok layer => layer.finalize
  | .error cause => .error cause

/-- The path of the file that is read unless another one is named. -/
def systemPath : String := "/etc/warden/config.toml"

/-- The settings from built-in values, a file and the environment. -/
def fromFile (path : String) (content : FileContent) (env : Environment) : Except ConfigError Settings :=
  load [.builtIn, .file path content, .environment env]

end Settings

end SecretRotation
