import SecretRotation.Settings.Basic

/-!
# Layers

A layer is what one source says about the settings: each of them is there or is left open, and so is each section of them.
Layers are laid over each other, section by section, and what the upper one leaves open shines through from below. What no
layer says has a built-in value.

## Main definitions

* `Layer`: some of the settings.
* `Layer.atop`: one layer over another.
* `Layer.resolve`: the settings, with what was left open filled in.
* `Layer.finalize`: the settings, if they pass all checks.
-/

namespace SecretRotation

/-- What a source says about defaults. -/
structure DefaultsLayer where
  kindName : Option String
  length : Option Nat
  rsaBits : Option Nat
  curve : Option String
  uppercase : Option Bool
  lowercase : Option Bool
  numbers : Option Bool
  specials : Option Bool
  allowedSpecials : Option String
deriving DecidableEq, Inhabited

/-- What a source says about windows. Their list is one setting: windows are not added up. -/
structure WindowsLayer where
  enabled : Option Bool
  windows : Option (List WindowText)
deriving DecidableEq, Inhabited

/-- What a source says about rotation. -/
structure RotationLayer where
  minimum : Option String
  announce : Option Bool
  windows : Option WindowsLayer
deriving DecidableEq, Inhabited

/-- What a source says about logs. -/
structure LoggingLayer where
  level : Option String
  format : Option LogFormat
deriving DecidableEq, Inhabited

/-- What a source says about settings. A section that it does not mention is missing. -/
structure Layer where
  defaults : Option DefaultsLayer
  rotation : Option RotationLayer
  logging : Option LoggingLayer
deriving DecidableEq, Inhabited

/-- One layer over another. -/
def DefaultsLayer.atop (upper lower : DefaultsLayer) : DefaultsLayer where
  kindName := upper.kindName.or lower.kindName
  length := upper.length.or lower.length
  rsaBits := upper.rsaBits.or lower.rsaBits
  curve := upper.curve.or lower.curve
  uppercase := upper.uppercase.or lower.uppercase
  lowercase := upper.lowercase.or lower.lowercase
  numbers := upper.numbers.or lower.numbers
  specials := upper.specials.or lower.specials
  allowedSpecials := upper.allowedSpecials.or lower.allowedSpecials

/-- One layer over another. -/
def WindowsLayer.atop (upper lower : WindowsLayer) : WindowsLayer where
  enabled := upper.enabled.or lower.enabled
  windows := upper.windows.or lower.windows

/-- One layer over another. -/
def RotationLayer.atop (upper lower : RotationLayer) : RotationLayer where
  minimum := upper.minimum.or lower.minimum
  announce := upper.announce.or lower.announce
  windows := Option.merge WindowsLayer.atop upper.windows lower.windows

/-- One layer over another. -/
def LoggingLayer.atop (upper lower : LoggingLayer) : LoggingLayer where
  level := upper.level.or lower.level
  format := upper.format.or lower.format

/-- The defaults, with built-in values for what was left open. -/
def DefaultsLayer.resolve (l : DefaultsLayer) : DefaultsSettings where
  kindName := l.kindName.getD Kind.string.name
  length := l.length.getD 32
  rsaBits := l.rsaBits.getD 2048
  curve := l.curve.getD NistCurve.p256.name
  uppercase := l.uppercase.getD true
  lowercase := l.lowercase.getD true
  numbers := l.numbers.getD true
  specials := l.specials.getD false
  allowedSpecials := l.allowedSpecials.getD Charset.specials

/-- The windows, none of them in force unless that was said. -/
def WindowsLayer.resolve (l : WindowsLayer) : GateText where
  enabled := l.enabled.getD false
  windows := l.windows.getD []

/-- The rotation settings, with built-in values for what was left open. -/
def RotationLayer.resolve (l : RotationLayer) : RotationSettings where
  minimum := l.minimum.getD "5m"
  announce := l.announce.getD false
  gate := (l.windows.getD default).resolve

/-- The log settings, with built-in values for what was left open. -/
def LoggingLayer.resolve (l : LoggingLayer) : LoggingSettings where
  level := l.level.getD "info"
  format := l.format.getD .compact

namespace Layer

/-- The layer that leaves everything open. -/
def empty : Layer := default

/-- One layer over another: what the upper one leaves open is taken from the lower one. A section that both mention is merged,
and not replaced. -/
def atop (upper lower : Layer) : Layer where
  defaults := Option.merge DefaultsLayer.atop upper.defaults lower.defaults
  rotation := Option.merge RotationLayer.atop upper.rotation lower.rotation
  logging := Option.merge LoggingLayer.atop upper.logging lower.logging

/-- The settings, with built-in values for what was left open. -/
def resolve (l : Layer) : Settings where
  defaults := (l.defaults.getD default).resolve
  rotation := (l.rotation.getD default).resolve
  logging := (l.logging.getD default).resolve

/-- The settings, if a cycle can work with them. -/
def finalize (l : Layer) : Except ConfigError Settings :=
  match l.resolve.engineConfig with
  | .ok _ => .ok l.resolve
  | .error cause => .error cause

end Layer

/-- The settings that hold if nothing is said. -/
def Settings.builtIn : Settings := Layer.empty.resolve

end SecretRotation
