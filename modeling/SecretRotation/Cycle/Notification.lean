/-!
# Notifications

What is told about an object, to those who watch it. The texts never hold generated material.

## Main definitions

* `Severity`, `Reason`: how bad, and what happened.
* `Notification`: a single message.
-/

namespace SecretRotation

/-- How bad. -/
inductive Severity where
  | normal
  | warning
deriving DecidableEq

/-- The name of a severity. -/
def Severity.name : Severity → String
  | normal => "Normal"
  | warning => "Warning"

/-- What happened. -/
inductive Reason where
  | generationSucceeded
  | generationFailed
  | rotationSucceeded
  | rotationFailed
deriving DecidableEq

/-- The name of a reason. -/
def Reason.name : Reason → String
  | generationSucceeded => "GenerationSucceeded"
  | generationFailed => "GenerationFailed"
  | rotationSucceeded => "RotationSucceeded"
  | rotationFailed => "RotationFailed"

/-- A message about an object. -/
structure Notification where
  severity : Severity
  reason : Reason
  message : String
deriving DecidableEq

/-- The message is a warning. -/
def Notification.isWarning (n : Notification) : Bool := n.severity == .warning

end SecretRotation
