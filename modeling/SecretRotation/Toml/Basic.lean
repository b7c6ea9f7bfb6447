/-!
# TOML values

The values of configuration documents. Tables remember how they came about, because that decides whether they may still be
added to.

## Main definitions

* `Toml.Value`, `Toml.TableKind`: the values.
* `Toml.Entries`: the entries of a table, with `Toml.set`.
-/

namespace SecretRotation.Toml

/-- How a table came about. -/
inductive TableKind where
  /-- The table has a header of its own, or is the document. -/
  | header
  /-- The table was named on the way to a header below it. -/
  | implied
  /-- The table was named on the way to a value. -/
  | dotted
  /-- The table stands between braces. -/
  | inline
deriving DecidableEq

/-- A value of a document. Floats and points in time are told apart from other values, but no setting uses them. -/
inductive Value where
  | string (text : String)
  | integer (n : Int)
  | boolean (b : Bool)
  | float
  | moment
  | array (items : List Value)
  | table (kind : TableKind) (entries : List (String × Value))
  /-- Tables that share a header, each with its entries. -/
  | tables (elements : List (List (String × Value)))

/-- The entries of a table. -/
abbrev Entries := List (String × Value)

/-- Puts an entry in place of the one with the same key, or after all others. -/
def set (entries : Entries) (key : String) (value : Value) : Entries :=
  match entries with
  | [] => [(key, value)]
  | (k, v) :: rest => if k = key then (k, value) :: rest else (k, v) :: set rest key value

namespace Value

/-- The items of a list of values or of tables. -/
def items? : Value → Option (List Value)
  | array items => some items
  | tables elements => some (elements.map (table .header))
  | _ => none

/-- The entries of a table. -/
def entries? : Value → Option Entries
  | table _ entries => some entries
  | _ => none

end Value

end SecretRotation.Toml
