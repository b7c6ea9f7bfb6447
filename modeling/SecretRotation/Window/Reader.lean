import SecretRotation.Text.Blank
import SecretRotation.Window.Basic
import SecretRotation.Zone.Table

/-!
# Describing windows

A window is described by texts: English names of days, two times of day and the name of a zone. The first fault found,
in this order, is the one reported.

## Main definitions

* `Weekday.parse`, `TimeOfDay.parse`: the readers of the parts.
* `WindowText`: a window as it was written.
* `WindowText.build`: the window that it describes.
-/

namespace SecretRotation

/-- The day of an English name. Case and blanks at either end do not matter. -/
def Weekday.parse (text : String) : Except WindowError Weekday :=
  match String.ofList ((Text.trim text.toList).map Char.toLower) with
  | "sunday" => .ok .sunday
  | "monday" => .ok .monday
  | "tuesday" => .ok .tuesday
  | "wednesday" => .ok .wednesday
  | "thursday" => .ok .thursday
  | "friday" => .ok .friday
  | "saturday" => .ok .saturday
  | _ => .error (.invalidDay text)

/-- A time of day to the minute. -/
structure TimeOfDay where
  hour : Nat
  minute : Nat
  hour_lt : hour < 24
  minute_lt : minute < 60
deriving DecidableEq

namespace TimeOfDay

/-- The minutes since midnight. -/
def minutes (t : TimeOfDay) : Nat := t.hour * 60 + t.minute

theorem minutes_lt (t : TimeOfDay) : t.minutes < minutesPerDay := by
  have := t.hour_lt
  have := t.minute_lt
  simp only [minutes, minutesPerDay]
  omega

/-- Reads hours and minutes with one colon between them. Blanks around either number do not matter. -/
def parse (text : String) : Except TimeFault TimeOfDay :=
  if text = "" then .error .empty
  else
    match text.toList.splitOn ':' with
    | [hourText, minuteText] =>
      match Text.signed? Text.signedBound (Text.trim hourText) with
      | none => .error (.badHour text)
      | some hour =>
        match Text.signed? Text.signedBound (Text.trim minuteText) with
        | none => .error (.badMinute text)
        | some minute =>
          if hour_range : 0 ≤ hour ∧ hour < 24 then
            if minute_range : 0 ≤ minute ∧ minute < 60 then
              .ok ⟨hour.toNat, minute.toNat, by omega, by omega⟩
            else .error (.minuteOutOfRange minute)
          else .error (.hourOutOfRange hour)
    | _ => .error (.badFormat text)

end TimeOfDay

/-- A window as it was written. -/
structure WindowText where
  name : Option String
  days : List String
  start : String
  stop : String
  zone : String
deriving DecidableEq, Inhabited

namespace WindowText

/-- Each day at its first place. -/
def distinct : List Weekday → List Weekday
  | [] => []
  | d :: ds => d :: (distinct ds).filter (· ≠ d)

theorem nodup_distinct (ds : List Weekday) : (distinct ds).Nodup := by
  induction ds with
  | nil => exact List.nodup_nil
  | cons d ds ih =>
    rw [distinct, List.nodup_cons]
    exact ⟨by simp, ih.filter _⟩

theorem distinct_ne_nil {ds : List Weekday} (h : ds ≠ []) : distinct ds ≠ [] := by
  cases ds with
  | nil => exact absurd rfl h
  | cons d ds => simp [distinct]

/-- The zone of a text that is not blank. -/
def readZone (text : String) : Except WindowError Zone :=
  if Text.allBlank text then .error .missingZone
  else
    match Zone.find? (Text.trimmed text) with
    | some zone => .ok zone
    | none => .error (.unknownZone text)

/-- The window of a description. -/
def build (w : WindowText) : Except WindowError Window := do
  if w.days = [] then throw .noDays
  let days ← w.days.mapM Weekday.parse
  let start ← (TimeOfDay.parse w.start).mapError (.invalidTime .start)
  let stop ← (TimeOfDay.parse w.stop).mapError (.invalidTime .stop)
  if start_lt : start.minutes < stop.minutes then
    let zone ← readZone w.zone
    if days_ne : days ≠ [] then
      pure {
        name := w.name.filter (· ≠ "")
        days := distinct days
        start := start.minutes
        stop := stop.minutes
        zone
        days_ne_nil := distinct_ne_nil days_ne
        nodup_days := nodup_distinct days
        start_lt_stop := start_lt
        stop_lt := stop.minutes_lt
      }
    else throw .noDays
  else throw (.endNotAfterStart w.start w.stop)

end WindowText

end SecretRotation
