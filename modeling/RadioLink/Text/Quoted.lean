import RadioLink.Text.Decimal

/-!
Text quoted inside error messages: between double quotes, with a backslash before quotes and
backslashes and code point escapes for characters that would not show.
-/

set_option autoImplicit false

namespace RadioLink.Text.Quoted

/-- Ranges of characters that do not show or attach to their neighbour: controls, format
characters, separators other than the space, private use, and the blocks of combining marks. -/
private def hiddenRanges : List (Nat × Nat) :=
  [(0x00, 0x1f), (0x7f, 0xa0), (0xad, 0xad), (0x300, 0x36f), (0x483, 0x489), (0x591, 0x5bd),
   (0x600, 0x605), (0x610, 0x61a), (0x61c, 0x61c), (0x64b, 0x65f), (0x6dd, 0x6dd), (0x70f, 0x70f),
   (0x1680, 0x1680), (0x180b, 0x180f), (0x1ab0, 0x1aff), (0x1dc0, 0x1dff), (0x2000, 0x200f),
   (0x2028, 0x202f), (0x205f, 0x206f), (0x20d0, 0x20f0), (0x302a, 0x302f), (0x3000, 0x3000),
   (0x3099, 0x309a), (0xe000, 0xf8ff), (0xfe00, 0xfe0f), (0xfe20, 0xfe2f), (0xfeff, 0xfeff),
   (0xff9e, 0xff9f), (0xfff0, 0xfffb), (0xfffe, 0xffff), (0xe0000, 0x10ffff)]

/-- Whether a character is written as an escape of its code point. -/
private def isHidden (c : Char) : Bool :=
  hiddenRanges.any fun (low, high) => low ≤ c.toNat && c.toNat ≤ high

/-- One character as it stands between the quotes. -/
private def escaped (c : Char) : List Char :=
  if c = '"' then ['\\', '"']
  else if c = '\\' then ['\\', '\\']
  else if c = '\n' then ['\\', 'n']
  else if c = '\r' then ['\\', 'r']
  else if c = '\t' then ['\\', 't']
  else if c.toNat = 0 then ['\\', '0']
  else if isHidden c then ['\\', 'u', '\x7b'] ++ hexDigits c.toNat ++ ['\x7d']
  else [c]

def quote (text : String) : String :=
  String.ofList ('"' :: text.toList.flatMap escaped ++ ['"'])

end RadioLink.Text.Quoted
