import SecretRotation.Calendar
import SecretRotation.Text.Numeral
import SecretRotation.Zone.Basic

/-!
# Maintenance windows

A maintenance window is a stretch of the day, from a start up to but not including an end, on some days of the week, on
the clocks of one time zone.

## Main definitions

* `Window`: a window; its days are not empty and have no repeats, and its end is after its start on the same day.
* `WindowError`: why a description makes no window or no gate.
* `Window.render`: the window in one line.
-/

namespace SecretRotation

/-- The minutes of a day. -/
def minutesPerDay : Nat := 1440

/-- A weekly maintenance window on the clocks of a zone. -/
structure Window where
  name : Option String
  /-- The days in the order in which they were named. -/
  days : List Weekday
  /-- The first minute of the day that belongs to the window. -/
  start : Nat
  /-- The first minute of the day after the window. -/
  stop : Nat
  zone : Zone
  days_ne_nil : days ≠ []
  nodup_days : days.Nodup
  start_lt_stop : start < stop
  stop_lt : stop < minutesPerDay
deriving DecidableEq

/-- What is wrong with a written time of day. -/
inductive TimeFault where
  | empty
  | badFormat (text : String)
  | badHour (text : String)
  | badMinute (text : String)
  | hourOutOfRange (hour : Int)
  | minuteOutOfRange (minute : Int)
deriving DecidableEq

/-- The complaint about a time of day. -/
def TimeFault.message : TimeFault → String
  | .empty => "time cannot be empty"
  | .badFormat text => s!"invalid time format '{text}', expected HH:MM"
  | .badHour text => s!"invalid hour in '{text}'"
  | .badMinute text => s!"invalid minute in '{text}'"
  | .hourOutOfRange hour => s!"hour must be between 0 and 23, got {hour}"
  | .minuteOutOfRange minute => s!"minute must be between 0 and 59, got {minute}"

/-- What a written time of day is meant for. -/
inductive TimeRole where
  | plain | start | stop
deriving DecidableEq

/-- The word for the role of a time. -/
def TimeRole.word : TimeRole → String
  | .plain => "time"
  | .start => "startTime"
  | .stop => "endTime"

/-- A window is referred to by its name, or by its place in the list if it has none. -/
inductive WindowLabel where
  | named (name : String)
  | numbered (index : Nat)
deriving DecidableEq

/-- The text of a reference. -/
def WindowLabel.text : WindowLabel → String
  | .named name => s!"window '{name}'"
  | .numbered index => s!"window[{index}]"

/-- The reference to a window of a list; an empty name is none. -/
def WindowLabel.of (name : Option String) (index : Nat) : WindowLabel :=
  match name.filter (· ≠ "") with
  | some name => .named name
  | none => .numbered index

/-- Why a description makes no window or no gate. -/
inductive WindowError where
  /-- A gate that is in force has no windows. -/
  | noWindows
  | noDays
  | invalidDay (text : String)
  | invalidTime (role : TimeRole) (fault : TimeFault)
  | endNotAfterStart (start stop : String)
  | missingZone
  | unknownZone (name : String)
  /-- One window of a list is wrong. -/
  | inWindow (label : WindowLabel) (cause : WindowError)
deriving DecidableEq

/-- The complaint about a window or a gate. -/
def WindowError.message : WindowError → String
  | .noWindows => "at least one maintenance window must be defined when enabled"
  | .noDays => "at least one day must be specified"
  | .invalidDay text =>
    s!"invalid day: '{text}', must be one of: sunday, monday, tuesday, wednesday, thursday, friday, saturday"
  | .invalidTime role fault => s!"invalid {role.word}: {fault.message}"
  | .endNotAfterStart start stop => s!"endTime ({stop}) must be after startTime ({start})"
  | .missingZone => "timezone must be specified"
  | .unknownZone name => s!"invalid timezone '{name}': failed to parse timezone"
  | .inWindow label cause => s!"{label.text}: {cause.message}"

namespace Window

/-- A minute of the day as hours and minutes. -/
def clockText (minute : Nat) : String :=
  String.ofList (Text.padded 2 (minute / 60) ++ [':'] ++ Text.padded 2 (minute % 60))

/-- Days, times and zone in one line, with the name after them if there is one. -/
def render (w : Window) : String :=
  let days := ",".intercalate (w.days.map Weekday.short)
  let times := clockText w.start ++ "-" ++ clockText w.stop
  let name := match w.name with
    | some name => s!" ({name})"
    | none => ""
  s!"{days} {times} {w.zone.name}" ++ name

end Window

end SecretRotation
