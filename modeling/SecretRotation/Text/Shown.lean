import SecretRotation.Text.Quoted

/-!
# Shown values

The text of a structured value as a log shows it: in one line, or with each part on a line of its own.

## Main definitions

* `Shown`: what there is to show.
* `Shown.inline`, `Shown.indented`: the two forms.
-/

namespace SecretRotation

/-- A value to be shown. -/
inductive Shown where
  /-- A text that is shown as it stands. -/
  | atom (text : String)
  /-- A part with its label. -/
  | labelled (label : String) (value : Shown)
  /-- A name and the parts in parentheses after it. -/
  | tuple (name : String) (parts : List Shown)
  /-- A name and its labelled parts between braces. -/
  | record (name : String) (parts : List Shown)
  /-- Labelled parts between braces. -/
  | mapping (parts : List Shown)

namespace Shown

mutual

/-- The value in one line. -/
def inline : Shown → String
  | .atom text => text
  | .labelled label value => label ++ ": " ++ inline value
  | .tuple name parts => name ++ "(" ++ ", ".intercalate (inlineParts parts) ++ ")"
  | .record name parts => name ++ " \x7b " ++ ", ".intercalate (inlineParts parts) ++ " \x7d"
  | .mapping parts => "\x7b" ++ ", ".intercalate (inlineParts parts) ++ "\x7d"

/-- Each part in one line. -/
def inlineParts : List Shown → List String
  | [] => []
  | part :: parts => inline part :: inlineParts parts

end

/-- A new line, `depth` steps of four spaces in. -/
def newLine (depth : Nat) : String :=
  String.ofList ('\n' :: List.replicate (4 * depth) ' ')

mutual

/-- The value with each part on a line of its own, one step further in and with a comma after it. -/
def indented (depth : Nat) : Shown → String
  | .atom text => text
  | .labelled label value => label ++ ": " ++ indented depth value
  | .tuple name parts => name ++ "(" ++ indentedParts (depth + 1) parts ++ newLine depth ++ ")"
  | .record name parts => name ++ " \x7b" ++ indentedParts (depth + 1) parts ++ newLine depth ++ "\x7d"
  | .mapping parts => "\x7b" ++ indentedParts (depth + 1) parts ++ newLine depth ++ "\x7d"

/-- The lines of the parts. -/
def indentedParts (depth : Nat) : List Shown → String
  | [] => ""
  | part :: parts => newLine depth ++ indented depth part ++ "," ++ indentedParts depth parts

end

/-- A text in quotes. -/
def text (s : String) : Shown := .atom (Text.quoted s)

/-- A value that may be missing. -/
def optional : Option Shown → Shown
  | none => .atom "None"
  | some value => .tuple "Some" [value]

end Shown

end SecretRotation
