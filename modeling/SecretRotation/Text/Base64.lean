/-!
# Base64

The standard alphabet with padding: three bytes to four characters, the last group filled up with `=`. Reading is
strict: a text is read only if it is what `encode` writes, so every byte string has one written form.

## Main definitions

* `Base64.encode`, `Base64.decode?`.
-/

namespace SecretRotation.Base64

/-- The sixty-four digits in the order of their values. -/
def alphabet : List Char :=
  "ABCDEFGHIJKLMNOPQRSTUVWXYZabcdefghijklmnopqrstuvwxyz0123456789+/".toList

/-- The character of a six-bit value. -/
def digit (n : Nat) : Char :=
  alphabet.getD n '='

/-- The six-bit value of a character. -/
def value? (c : Char) : Option Nat :=
  alphabet.idxOf? c

/-- Four characters for each three bytes. -/
def encode : List UInt8 → List Char
  | [] => []
  | [a] =>
    let n := a.toNat * 16
    [digit (n / 64), digit (n % 64), '=', '=']
  | [a, b] =>
    let n := (a.toNat * 256 + b.toNat) * 4
    [digit (n / 4096), digit (n / 64 % 64), digit (n % 64), '=']
  | a :: b :: c :: rest =>
    let n := (a.toNat * 256 + b.toNat) * 256 + c.toNat
    digit (n / 262144) :: digit (n / 4096 % 64) :: digit (n / 64 % 64) :: digit (n % 64) :: encode rest

/-- Reads groups of four characters. Padding ends the text, and the bits that it leaves over are zero. -/
def decode? : List Char → Option (List UInt8)
  | [] => some []
  | [w, x, '=', '='] => do
    let n := (← value? w) * 64 + (← value? x)
    if n % 16 == 0 then pure [UInt8.ofNat (n / 16)] else none
  | [w, x, y, '='] => do
    let n := ((← value? w) * 64 + (← value? x)) * 64 + (← value? y)
    if n % 4 == 0 then pure [UInt8.ofNat (n / 1024), UInt8.ofNat (n / 4 % 256)] else none
  | w :: x :: y :: z :: rest => do
    let n := (((← value? w) * 64 + (← value? x)) * 64 + (← value? y)) * 64 + (← value? z)
    let bytes ← decode? rest
    pure (UInt8.ofNat (n / 65536) :: UInt8.ofNat (n / 256 % 256) :: UInt8.ofNat (n % 256) :: bytes)
  | _ => none

end SecretRotation.Base64
