import SecretRotation.Cycle.Report
import SecretRotation.Duration.Reader
import SecretRotation.Material.Charset

/-!
# Settings

The settings of a process, with every one of them filled in, and the checks that they have to pass. Settings that pass are
ones that a cycle can work with.

## Main definitions

* `LogFormat`: the forms of log lines.
* `DefaultsSettings`, `RotationSettings`, `LoggingSettings`, `Settings`: the settings, section by section.
* `ConfigError`: why settings are refused.
* `Settings.engineConfig`: the settings of a cycle, as far as all checks are passed.
-/

namespace SecretRotation

/-- The forms of log lines. -/
inductive LogFormat where
  | pretty | compact | json
deriving DecidableEq

namespace LogFormat

/-- The name of a form. -/
def name : LogFormat → String
  | pretty => "pretty"
  | compact => "compact"
  | json => "json"

/-- The form of an exact name. -/
def ofName? : String → Option LogFormat
  | "pretty" => some pretty
  | "compact" => some compact
  | "json" => some json
  | _ => none

end LogFormat

/-- What may be wrong with a single setting. -/
inductive SettingFault where
  | generator (cause : GeneratorError)
  | duration (cause : DurationError)
  | mustBePositive
  | tooSmall (least found : Nat)
  | notANumber (text : String)
  | unknownLogFormat (name : String)
deriving DecidableEq

/-- The complaint about a setting. -/
def SettingFault.message : SettingFault → String
  | generator cause => cause.message
  | duration cause => cause.message
  | mustBePositive => "must be positive"
  | tooSmall least found => s!"must be at least {least}, got {found}"
  | notANumber text => s!"invalid usize value '{text}'"
  | unknownLogFormat name => s!"unknown log format '{name}', expected pretty, compact or json"

/-- The form of a name in any case. -/
def LogFormat.parse (name : String) : Except SettingFault LogFormat :=
  match LogFormat.ofName? name.toLower with
  | some format => .ok format
  | none => .error (.unknownLogFormat name.toLower)

/-- Why a file cannot be read. -/
inductive FileFault where
  | isDirectory
  | denied
  | notText
deriving DecidableEq

/-- The complaint about a file. -/
def FileFault.message : FileFault → String
  | isDirectory => "Is a directory (os error 21)"
  | denied => "Permission denied (os error 13)"
  | notText => "stream did not contain valid UTF-8"

/-- Why settings are refused. -/
inductive ConfigError where
  | unreadable (path : String) (fault : FileFault)
  /-- The file does not say what settings can be made of. -/
  | malformed (path : String)
  | invalid (key : String) (fault : SettingFault)
  | windows (cause : WindowError)
  | emptyCharset
deriving DecidableEq

/-- The complaint about settings. What is wrong with a malformed file is not told. -/
def ConfigError.message : ConfigError → String
  | unreadable path fault => s!"failed to read config file {path}: {fault.message}"
  | malformed path => s!"failed to parse config file {path}"
  | invalid key fault => s!"invalid value for {key}: {fault.message}"
  | windows cause => s!"invalid maintenance windows configuration: {cause.message}"
  | emptyCharset => "configuration validation failed: the default charset is empty: " ++
      "enable at least one of uppercase, lowercase, numbers or special_chars"

/-- The settings are not complained about: their reader broke down. -/
def ConfigError.isBreakdown : ConfigError → Bool
  | invalid _ (.duration cause) => cause.isBreakdown
  | _ => false

/-- What applies to fields without annotations. -/
structure DefaultsSettings where
  kindName : String
  length : Nat
  rsaBits : Nat
  curve : String
  uppercase : Bool
  lowercase : Bool
  numbers : Bool
  specials : Bool
  /-- The special characters, if there are to be any. -/
  allowedSpecials : String
deriving DecidableEq

namespace DefaultsSettings

/-- The charset of random texts. -/
def charset (s : DefaultsSettings) : String :=
  (if s.lowercase then Charset.lowercase else "") ++ (if s.uppercase then Charset.uppercase else "") ++
    (if s.numbers then Charset.digits else "") ++ (if s.specials then s.allowedSpecials else "")

/-- The defaults of a cycle. Settings are looked at in a fixed order, and the first fault counts. -/
def generation (s : DefaultsSettings) : Except ConfigError GenerationDefaults :=
  match Kind.parse s.kindName with
  | .error cause => .error (.invalid "defaults.type" (.generator cause))
  | .ok kind =>
    if s.length = 0 then .error (.invalid "defaults.length" .mustBePositive)
    else if s.rsaBits < minRsaBits then .error (.invalid "defaults.rsa_bits" (.tooSmall minRsaBits s.rsaBits))
    else
      match NistCurve.parse s.curve with
      | .error cause => .error (.invalid "defaults.curve" (.generator cause))
      | .ok _ =>
        if s.charset = "" then .error .emptyCharset
        else .ok { kind, length := s.length, rsaBits := s.rsaBits, curve := s.curve }

end DefaultsSettings

/-- When values are replaced. -/
structure RotationSettings where
  /-- The shortest interval allowed, as it was written. -/
  minimum : String
  /-- Successful replacements are told. -/
  announce : Bool
  gate : GateText
deriving DecidableEq

/-- The policy of a cycle. -/
def RotationSettings.policy (s : RotationSettings) : Except ConfigError RotationPolicy :=
  match Duration.parse s.minimum with
  | .ok minimum => .ok ⟨minimum, s.announce⟩
  | .error cause => .error (.invalid "rotation.min_interval" (.duration cause))

/-- What logs are like. -/
structure LoggingSettings where
  level : String
  format : LogFormat
deriving DecidableEq

/-- All settings. -/
structure Settings where
  defaults : DefaultsSettings
  rotation : RotationSettings
  logging : LoggingSettings
deriving DecidableEq

/-- The settings of a cycle. -/
def Settings.engineConfig (s : Settings) : Except ConfigError EngineConfig := do
  let defaults ← s.defaults.generation
  let rotation ← s.rotation.policy
  let gate ← s.rotation.gate.build.mapError .windows
  pure { defaults, rotation, gate }

end SecretRotation
