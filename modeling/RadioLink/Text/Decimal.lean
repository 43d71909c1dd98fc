import RadioLink.Bytes

/-!
Numbers in text: decimal and hexadecimal digits without leading zeros, and reading them back.
-/

set_option autoImplicit false

namespace RadioLink.Text

def decimalDigit (n : Nat) : Char :=
  Char.ofNat (48 + n)

/-- The decimal digits of a number, most significant first. -/
def decimalDigits (n : Nat) : List Char :=
  if n < 10 then [decimalDigit n] else decimalDigits (n / 10) ++ [decimalDigit (n % 10)]

/-- The hexadecimal digits of a number, most significant first and in lowercase. -/
def hexDigits (n : Nat) : List Char :=
  if n < 16 then [Bytes.hexDigit n] else hexDigits (n / 16) ++ [Bytes.hexDigit (n % 16)]

def decimal (n : Nat) : String :=
  String.ofList (decimalDigits n)

/-- An integer in decimal, with a minus sign below zero. -/
def signedDecimal : Int → String
  | .ofNat n => decimal n
  | .negSucc n => String.ofList ('-' :: decimalDigits (n + 1))

/-- Whether a character is an ASCII decimal digit. -/
def isDecimalDigit (c : Char) : Bool :=
  '0' ≤ c && c ≤ '9'

def digitValue (c : Char) : Nat :=
  c.toNat - 48

/-- The number that decimal digits write; leading zeros are allowed. -/
def decimalValue (digits : List Char) : Nat :=
  digits.foldl (fun n c => 10 * n + digitValue c) 0

/-- The number that a non-empty text of decimal digits writes. -/
def readDecimal? (text : List Char) : Option Nat :=
  if !text.isEmpty && text.all isDecimalDigit then some (decimalValue text) else none

/-- The number that a non-empty text of at most `limit` hexadecimal digits writes. -/
def readHex? (limit : Nat) (text : List Char) : Option Nat :=
  if text.isEmpty || limit < text.length then none
  else text.foldlM (fun n c => (Bytes.hexValue? c).map (16 * n + ·)) 0

/-- The text padded on the left with zeros to the given width. -/
def zeroPadded (width : Nat) (digits : List Char) : List Char :=
  List.replicate (width - digits.length) '0' ++ digits

end RadioLink.Text
