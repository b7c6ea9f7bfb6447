import SecretRotation.Settings.Layer
import SecretRotation.Toml.Reader

/-!
# Settings in documents

The layer that a configuration document describes. Each section is a table with known keys, and nothing else may stand in
it. In place of the table there may be a list with the values of the keys, in their order.

## Main definitions

* `Toml.Section`: the values of a section by their keys.
* `Layer.ofEntries?`: the layer of a document.
-/

namespace SecretRotation

namespace Toml

/-- The values of a section, in the order of its keys. A section that is written as a list may have more items than there
are keys, and the others do not matter. -/
def section? (keys : List String) : Value → Option (List (Option Value))
  | .table _ entries =>
    if entries.all fun (key, _) => keys.contains key then some (keys.map fun key => entries.lookup key) else none
  | value => value.items?.map fun items => (List.range keys.length).map (items[·]?)

namespace Value

/-- A text. -/
def text? : Value → Option String
  | string text => some text
  | _ => none

/-- A truth value. -/
def flag? : Value → Option Bool
  | boolean b => some b
  | _ => none

/-- A number that is not negative. -/
def natural? : Value → Option Nat
  | integer n => if 0 ≤ n then some n.toNat else none
  | _ => none

/-- Nothing is in it. -/
def isVoid : Value → Bool
  | array items => items.isEmpty
  | table _ entries => entries.isEmpty
  | _ => false

/-- A form of log lines: its name, or a table with the name as its one key. -/
def logFormat? : Value → Option LogFormat
  | string text => LogFormat.ofName? text
  | table _ [(key, value)] => if value.isVoid then LogFormat.ofName? key else none
  | _ => none

/-- A list of values that are all read in the same way. -/
def list? {α : Type} (read? : Value → Option α) (value : Value) : Option (List α) := do
  let items ← value.items?
  items.mapM read?

end Value

/-- A value that may be missing, but must fit if it is there. -/
def optional? {α : Type} (read? : Value → Option α) : Option Value → Option (Option α)
  | some value => (read? value).map some
  | none => some none

/-- The value of a key among the values of a section. -/
def at? (values : List (Option Value)) (place : Nat) : Option Value := (values[place]?).join

/-- A window. What is missing is empty. -/
def window? (value : Value) : Option WindowText := do
  let values ← section? ["name", "days", "start_time", "end_time", "timezone"] value
  pure {
    name := ← optional? Value.text? (at? values 0),
    days := (← optional? (Value.list? Value.text?) (at? values 1)).getD [],
    start := (← optional? Value.text? (at? values 2)).getD "",
    stop := (← optional? Value.text? (at? values 3)).getD "",
    zone := (← optional? Value.text? (at? values 4)).getD "" }

/-- The section about windows. -/
def windows? (value : Value) : Option WindowsLayer := do
  let values ← section? ["enabled", "windows"] value
  pure {
    enabled := ← optional? Value.flag? (at? values 0),
    windows := ← optional? (Value.list? window?) (at? values 1) }

/-- The section about defaults. -/
def defaults? (value : Value) : Option DefaultsLayer := do
  let values ← section? ["type", "length", "rsa_bits", "curve", "uppercase", "lowercase", "numbers", "special_chars",
    "allowed_special_chars"] value
  pure {
    kindName := ← optional? Value.text? (at? values 0),
    length := ← optional? Value.natural? (at? values 1),
    rsaBits := ← optional? Value.natural? (at? values 2),
    curve := ← optional? Value.text? (at? values 3),
    uppercase := ← optional? Value.flag? (at? values 4),
    lowercase := ← optional? Value.flag? (at? values 5),
    numbers := ← optional? Value.flag? (at? values 6),
    specials := ← optional? Value.flag? (at? values 7),
    allowedSpecials := ← optional? Value.text? (at? values 8) }

/-- The section about rotation. -/
def rotation? (value : Value) : Option RotationLayer := do
  let values ← section? ["min_interval", "create_events", "maintenance_windows"] value
  pure {
    minimum := ← optional? Value.text? (at? values 0),
    announce := ← optional? Value.flag? (at? values 1),
    windows := ← optional? windows? (at? values 2) }

/-- The section about logs. -/
def logging? (value : Value) : Option LoggingLayer := do
  let values ← section? ["level", "format"] value
  pure {
    level := ← optional? Value.text? (at? values 0),
    format := ← optional? Value.logFormat? (at? values 1) }

end Toml

/-- The layer of a document. Sections that are not in it are missing. -/
def Layer.ofEntries? (entries : Toml.Entries) : Option Layer := do
  let values ← Toml.section? ["defaults", "rotation", "logging"] (.table .header entries)
  pure {
    defaults := ← Toml.optional? Toml.defaults? (Toml.at? values 0),
    rotation := ← Toml.optional? Toml.rotation? (Toml.at? values 1),
    logging := ← Toml.optional? Toml.logging? (Toml.at? values 2) }

end SecretRotation
