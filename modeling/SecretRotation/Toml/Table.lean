import SecretRotation.Toml.Basic

/-!
# Filling tables

Headers and dotted keys lead through tables to the place of a value, and make the tables that are missing on their way. No
entry is ever given twice, a table between braces is closed, and neither a header nor a dotted key opens a table again that
was given by the other.

## Main definitions

* `Toml.descend?`: changes the table at the end of a path.
* `Toml.insertDotted?`: an entry with a dotted key.
* `Toml.openTable?`, `Toml.openElement?`: the headers of tables, and of tables that share a header.
-/

namespace SecretRotation.Toml

/-- Changes the table at the end of a path. Tables on the way are made with a kind, and only tables of some kinds may be
passed; of tables that share a header it is the last. -/
def descend? (made : TableKind) (passes : TableKind → Bool) (change : TableKind → Entries → Option Entries) :
    List String → TableKind → Entries → Option Entries
  | [], kind, entries => change kind entries
  | key :: path, _, entries =>
    match entries.lookup key with
    | none => (descend? made passes change path made []).map fun inner => set entries key (.table made inner)
    | some (.table kind inner) =>
      if passes kind then
        (descend? made passes change path kind inner).map fun inner => set entries key (.table kind inner)
      else none
    | some (.tables elements) =>
      match elements.getLast? with
      | none => none
      | some last =>
        (descend? made passes change path .header last).map fun last =>
          set entries key (.tables (elements.dropLast ++ [last]))
    | some _ => none

/-- An entry that is not there yet. -/
def insertNew? (key : String) (value : Value) (entries : Entries) : Option Entries :=
  if (entries.lookup key).isSome then none else some (set entries key value)

/-- An entry with a dotted key. Its table is one that dotted keys have made, if it is not the table at hand. -/
def insertDotted? (path : List String) (key : String) (value : Value) (kind : TableKind) (entries : Entries) :
    Option Entries :=
  descend? .dotted (fun kind => kind = .implied || kind = .dotted)
    (fun kind entries => if path = [] ∨ kind = .dotted then insertNew? key value entries else none) path kind entries

/-- What a header does below the tables on its way. -/
def underHeader? (path : List String) (change : Entries → Option Entries) (entries : Entries) : Option Entries :=
  descend? .implied (· ≠ .inline) (fun _ entries => change entries) path .header entries

/-- The header of a table. A table that was only named on the way to others gets its header now. -/
def openTable? (path : List String) (key : String) (entries : Entries) : Option Entries :=
  underHeader? path (fun entries =>
    match entries.lookup key with
    | none => some (set entries key (.table .header []))
    | some (.table .implied inner) => some (set entries key (.table .header inner))
    | some _ => none) entries

/-- The header of one more of the tables that share it. -/
def openElement? (path : List String) (key : String) (entries : Entries) : Option Entries :=
  underHeader? path (fun entries =>
    match entries.lookup key with
    | none => some (set entries key (.tables [[]]))
    | some (.tables elements) => some (set entries key (.tables (elements ++ [[]])))
    | some _ => none) entries

/-- An entry below a header. -/
def insertUnder? (header path : List String) (key : String) (value : Value) (entries : Entries) : Option Entries :=
  underHeader? header (insertDotted? path key value .header) entries

end SecretRotation.Toml
