import SecretRotation.Text.Numeral

/-!
# JSON values

The values of JSON documents. A number keeps the text it was written with, and an object keeps its members in order.

## Main definitions

* `Json`: the values.
* `Json.member?`: the member of an object with a given name.
* `Json.text?`, `Json.flag?`, `Json.natural?`, `Json.integer?`, `Json.signedWord?`, `Json.items?`, `Json.members?`: views of
  a value as one of its kinds.
-/

namespace SecretRotation

/-- A JSON value. -/
inductive Json where
  | null
  | bool (value : Bool)
  /-- A number, as it is written. -/
  | number (literal : String)
  | string (value : String)
  | array (items : List Json)
  | object (members : List (String × Json))

namespace Json

instance : Inhabited Json := ⟨null⟩

/-- A natural number. -/
def ofNat (n : Nat) : Json := number (String.ofList (Text.decimal n))

/-- An integer. -/
def ofInt : Int → Json
  | .ofNat n => ofNat n
  | .negSucc n => number (String.ofList ('-' :: Text.decimal (n + 1)))

/-- A text, or null. -/
def ofText? : Option String → Json
  | some s => string s
  | none => null

/-- The text of a string. -/
def text? : Json → Option String
  | string s => some s
  | _ => none

/-- The value of a truth value. -/
def flag? : Json → Option Bool
  | bool b => some b
  | _ => none

/-- The value of a number that is written with digits alone. -/
def natural? : Json → Option Nat
  | number literal => Text.natural? literal.toList
  | _ => none

/-- The value of a number that is written with digits and at most a sign in front of them. -/
def integer? : Json → Option Int
  | number literal =>
    match literal.toList with
    | '-' :: digits => (Text.natural? digits).map fun n => -(n : Int)
    | digits => (Text.natural? digits).map Int.ofNat
  | _ => none

/-- An integer that fits into 64 bits with a sign. Zero with a sign in front of it is no integer. -/
def signedWord? (j : Json) : Option Int :=
  match j with
  | number "-0" => none
  | j => j.integer?.filter fun n => -(Text.signedBound : Int) ≤ n && n < Text.signedBound

/-- The items of an array. -/
def items? : Json → Option (List Json)
  | array items => some items
  | _ => none

/-- The members of an object. -/
def members? : Json → Option (List (String × Json))
  | object members => some members
  | _ => none

/-- Whether a value is there at all. -/
def isNull : Json → Bool
  | null => true
  | _ => false

/-- The member of an object with a given name, unless it is null. -/
def member? (j : Json) (name : String) : Option Json :=
  (((members? j).getD []).lookup name).filter (!isNull ·)

end Json

end SecretRotation
