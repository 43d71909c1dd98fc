import RadioLink.Text.Decimal

/-!
Compact JSON text: no blanks, members in the order given, and only quotes, backslashes and control
characters escaped.
-/

set_option autoImplicit false

namespace RadioLink.Json

def escapedChar (c : Char) : List Char :=
  if c = '"' then ['\\', '"']
  else if c = '\\' then ['\\', '\\']
  else if c = '\x08' then ['\\', 'b']
  else if c = '\x0c' then ['\\', 'f']
  else if c = '\n' then ['\\', 'n']
  else if c = '\r' then ['\\', 'r']
  else if c = '\t' then ['\\', 't']
  else if c.toNat < 0x20 then
    ['\\', 'u', '0', '0', Bytes.hexDigit (c.toNat / 16), Bytes.hexDigit (c.toNat % 16)]
  else [c]

def writeString (text : List Char) : List Char :=
  '"' :: text.flatMap escapedChar ++ ['"']

/-- Members of an object, each a key and a written value, with commas between them. -/
def writeMembers : List (String × List Char) → List Char
  | [] => []
  | [(key, value)] => writeString key.toList ++ ':' :: value
  | (key, value) :: rest => writeString key.toList ++ ':' :: value ++ ',' :: writeMembers rest

def writeObject (fields : List (String × List Char)) : List Char :=
  '\x7b' :: writeMembers fields ++ ['\x7d']

def writeOptional {α : Type} (write : α → List Char) : Option α → List Char
  | none => ['n', 'u', 'l', 'l']
  | some value => write value

def writeBool : Bool → List Char
  | true => ['t', 'r', 'u', 'e']
  | false => ['f', 'a', 'l', 's', 'e']

def writeInt (n : Int) : List Char :=
  (Text.signedDecimal n).toList

end RadioLink.Json
