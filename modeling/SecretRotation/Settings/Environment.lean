import SecretRotation.Settings.Layer

/-!
# Settings in the environment

The layer that environment variables describe. An empty variable says nothing.

## Main definitions

* `Environment`: the variables.
* `Layer.ofEnvironment`: their layer.
-/

namespace SecretRotation

/-- Variables by their names. -/
abbrev Environment := String → Option String

namespace Environment

/-- The variables that settings are read from, and those that commands look at. -/
def names : List String := [
  "WARDEN_CONFIG", "HOSTNAME", "WARDEN_DEFAULT_TYPE", "WARDEN_DEFAULT_LENGTH", "WARDEN_DEFAULT_RSA_BITS",
  "WARDEN_DEFAULT_CURVE", "WARDEN_CHARSET_UPPERCASE", "WARDEN_CHARSET_LOWERCASE", "WARDEN_CHARSET_NUMBERS",
  "WARDEN_CHARSET_SPECIAL_CHARS", "WARDEN_CHARSET_ALLOWED_SPECIAL_CHARS", "WARDEN_ROTATION_MIN_INTERVAL",
  "WARDEN_ROTATION_CREATE_EVENTS", "WARDEN_MAINTENANCE_WINDOWS_ENABLED", "WARDEN_LOG_LEVEL", "WARDEN_LOG_FORMAT"]

/-- The variables of a list. -/
def ofList (pairs : List (String × String)) : Environment := fun name => pairs.lookup name

/-- The value of a variable, unless it is empty. -/
def value? (env : Environment) (name : String) : Option String :=
  (env name).filter (· ≠ "")

/-- A truth value: `true` in any case, or `1`. All else is false. -/
def flag? (env : Environment) (name : String) : Option Bool :=
  (env.value? name).map fun text => text.toLower == "true" || text == "1"

/-- A number of 64 bits. -/
def number? (env : Environment) (name : String) : Except ConfigError (Option Nat) :=
  match env.value? name with
  | none => .ok none
  | some text =>
    match Text.unsigned? Text.wordBound text.toList with
    | some n => .ok (some n)
    | none => .error (.invalid name (.notANumber text))

/-- A form of log lines. -/
def logFormat? (env : Environment) (name : String) : Except ConfigError (Option LogFormat) :=
  match env.value? name with
  | none => .ok none
  | some text =>
    match LogFormat.parse text with
    | .ok format => .ok (some format)
    | .error fault => .error (.invalid name fault)

end Environment

/-- The layer of environment variables, with all sections in it. Windows themselves are not among the variables, and their
section is there only if it is said whether they are in force. -/
def Layer.ofEnvironment (env : Environment) : Except ConfigError Layer := do
  let length ← env.number? "WARDEN_DEFAULT_LENGTH"
  let rsaBits ← env.number? "WARDEN_DEFAULT_RSA_BITS"
  let format ← env.logFormat? "WARDEN_LOG_FORMAT"
  pure {
    defaults := some {
      kindName := env.value? "WARDEN_DEFAULT_TYPE",
      length, rsaBits,
      curve := env.value? "WARDEN_DEFAULT_CURVE",
      uppercase := env.flag? "WARDEN_CHARSET_UPPERCASE",
      lowercase := env.flag? "WARDEN_CHARSET_LOWERCASE",
      numbers := env.flag? "WARDEN_CHARSET_NUMBERS",
      specials := env.flag? "WARDEN_CHARSET_SPECIAL_CHARS",
      allowedSpecials := env.value? "WARDEN_CHARSET_ALLOWED_SPECIAL_CHARS" },
    rotation := some {
      minimum := env.value? "WARDEN_ROTATION_MIN_INTERVAL",
      announce := env.flag? "WARDEN_ROTATION_CREATE_EVENTS",
      windows := (env.flag? "WARDEN_MAINTENANCE_WINDOWS_ENABLED").map fun enabled =>
        { enabled := some enabled, windows := none } },
    logging := some { level := env.value? "WARDEN_LOG_LEVEL", format } }

end SecretRotation
