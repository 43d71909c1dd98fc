/-!
Octet strings: big-endian numbers and lowercase hexadecimal text.
-/

set_option autoImplicit false

namespace RadioLink

abbrev Bytes := List UInt8

namespace Bytes

/-- The number written by the octets, most significant first. -/
def toNatBE (bytes : Bytes) : Nat :=
  bytes.foldl (fun acc b => acc * 256 + b.toNat) 0

/-- The `width` low octets of a number, most significant first. -/
def ofNatBE (width : Nat) (n : Nat) : Bytes :=
  match width with
  | 0 => []
  | w + 1 => UInt8.ofNat (n / Nat.pow 256 w) :: ofNatBE w n

/-- The `width` low octets of a number, least significant first. -/
def ofNatLE (width : Nat) (n : Nat) : Bytes :=
  (ofNatBE width n).reverse

@[simp] theorem length_ofNatBE (width n : Nat) : (ofNatBE width n).length = width := by
  induction width with
  | zero => rfl
  | succ w ih => simp [ofNatBE, ih]

/-- The lowercase digit of a number below sixteen. -/
def hexDigit (n : Nat) : Char :=
  if n < 10 then Char.ofNat (48 + n) else Char.ofNat (87 + n)

/-- The value of a hexadecimal digit of either case. -/
def hexValue? (c : Char) : Option Nat :=
  if '0' ≤ c ∧ c ≤ '9' then some (c.toNat - 48)
  else if 'a' ≤ c ∧ c ≤ 'f' then some (c.toNat - 87)
  else if 'A' ≤ c ∧ c ≤ 'F' then some (c.toNat - 55)
  else none

/-- Two lowercase hexadecimal digits an octet. -/
def hexChars (bytes : Bytes) : List Char :=
  bytes.flatMap fun b => [hexDigit (b.toNat / 16), hexDigit (b.toNat % 16)]

/-- The octets as lowercase hexadecimal text. -/
def toHex (bytes : Bytes) : String :=
  String.ofList (hexChars bytes)

/-- The octets written by pairs of hexadecimal digits; `none` for anything else. -/
def ofHexChars? : List Char → Option Bytes
  | [] => some []
  | a :: b :: rest => do
    let high ← hexValue? a
    let low ← hexValue? b
    let bytes ← ofHexChars? rest
    return UInt8.ofNat (16 * high + low) :: bytes
  | [_] => none

def ofString (text : String) : Bytes :=
  text.toUTF8.toList

end Bytes

end RadioLink
