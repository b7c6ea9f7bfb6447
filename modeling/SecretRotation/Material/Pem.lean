import SecretRotation.Text.Base64

/-!
# Armoured texts

Binary data in base 64 between two lines that carry a label. Lines in between are sixty-four characters wide, the last
one shorter if need be, and the text ends with a line break.
-/

namespace SecretRotation.Pem

/-- The width of a line. -/
def width : Nat := 64

/-- Cuts a text into lines of full width and one shorter line. -/
def lines (cs : List Char) : List (List Char) :=
  if _h : cs = [] then [] else cs.take width :: lines (cs.drop width)
termination_by cs.length
decreasing_by
  simp only [List.length_drop, width]
  have := List.length_pos_iff.mpr _h
  omega

/-- A closing or opening line with its label. -/
def boundary (word label : String) : List Char :=
  ("-----" ++ word ++ " " ++ label ++ "-----").toList

/-- Data under a label. -/
def encode (label : String) (data : List UInt8) : String :=
  let body := (lines (Base64.encode data)).flatMap (· ++ ['\n'])
  String.ofList (boundary "BEGIN" label ++ '\n' :: body ++ boundary "END" label ++ ['\n'])

end SecretRotation.Pem
