/-!
# Tagged encodings

The nested binary form of keys: every element is a tag, a length and the content.

## Main definitions

* `Der.element`, `Der.sequence`, `Der.natural`, `Der.octets`, `Der.bits`: the elements.
-/

namespace SecretRotation.Der

/-- The bytes of a number in base 256, the first one counting most; none for zero. -/
def base256 (n : Nat) : List UInt8 :=
  if _h : n = 0 then [] else base256 (n / 256) ++ [UInt8.ofNat (n % 256)]
termination_by n
decreasing_by exact Nat.div_lt_self (Nat.pos_of_ne_zero _h) (by decide)

/-- The bytes of a number in base 256, filled up with leading zeros. -/
def fixed (width n : Nat) : List UInt8 :=
  let bytes := base256 n
  List.replicate (width - bytes.length) 0 ++ bytes

/-- A length: one byte below 128, else the number of its bytes and then the bytes. -/
def lengthBytes (n : Nat) : List UInt8 :=
  if n < 128 then [UInt8.ofNat n]
  else
    let bytes := base256 n
    UInt8.ofNat (128 + bytes.length) :: bytes

/-- An element with a given tag. -/
def element (tag : UInt8) (content : List UInt8) : List UInt8 :=
  tag :: lengthBytes content.length ++ content

/-- A row of elements. -/
def sequence (elements : List (List UInt8)) : List UInt8 := element 0x30 elements.flatten

/-- A number that is not negative: its first bit is zero. -/
def natural (n : Nat) : List UInt8 :=
  match base256 n with
  | [] => element 0x02 [0]
  | b :: bytes => element 0x02 (if b < 128 then b :: bytes else 0 :: b :: bytes)

/-- A string of bytes. -/
def octets (bytes : List UInt8) : List UInt8 := element 0x04 bytes

/-- The content of a string of bits that fills its bytes. -/
def bitContent (bytes : List UInt8) : List UInt8 := 0 :: bytes

/-- A string of bits that fills its bytes. -/
def bits (bytes : List UInt8) : List UInt8 := element 0x03 (bitContent bytes)

/-- An object identifier, already encoded. -/
def identifier (bytes : List UInt8) : List UInt8 := element 0x06 bytes

end SecretRotation.Der
