import RadioLink.Text.Decimal

/-!
Universally unique identifiers: sixteen octets, printed in hyphenated lowercase form and read from
the plain, hyphenated, braced and URN forms.
-/

set_option autoImplicit false

namespace RadioLink

structure Uuid where
  octets : Bytes
  length_eq : octets.length = 16
  deriving DecidableEq

namespace Uuid

/-- The identifier whose octets write the number, most significant first. -/
def ofNat (n : Nat) : Uuid :=
  ⟨Bytes.ofNatBE 16 n, by simp⟩

instance : Inhabited Uuid := ⟨ofNat 0⟩

/-- The identifier with the given octets, if there are sixteen. -/
def ofBytes? (octets : Bytes) : Option Uuid :=
  if h : octets.length = 16 then some ⟨octets, h⟩ else none

/-- The sizes in octets of the hyphenated groups. -/
def groupSizes : List Nat := [4, 2, 2, 2, 6]

/-- Groups of hexadecimal digits joined by hyphens. -/
def printGroups : List Nat → Bytes → List Char
  | [], _ => []
  | [n], octets => Bytes.hexChars (octets.take n)
  | n :: sizes, octets => Bytes.hexChars (octets.take n) ++ '-' :: printGroups sizes (octets.drop n)

def chars (u : Uuid) : List Char :=
  printGroups groupSizes u.octets

protected def toString (u : Uuid) : String :=
  String.ofList u.chars

instance : ToString Uuid := ⟨Uuid.toString⟩

/-- The octets of hyphen-separated groups of the given sizes. -/
def readGroups? : List Nat → List Char → Option Bytes
  | [], text => if text.isEmpty then some [] else none
  | [n], text => if text.length = 2 * n then Bytes.ofHexChars? text else none
  | n :: sizes, text => do
    let octets ← Bytes.ofHexChars? (text.take (2 * n))
    match text.drop (2 * n) with
    | '-' :: rest => return octets ++ (← readGroups? sizes rest)
    | _ => none

def readHyphenated? (text : List Char) : Option Uuid :=
  (readGroups? groupSizes text).bind ofBytes?

/-- Reads an identifier: 32 digits, the hyphenated form, and the hyphenated form in braces or after
`urn:uuid:`. Letters of either case are accepted. -/
def ofChars? (text : List Char) : Option Uuid :=
  if text.length = 32 then (Bytes.ofHexChars? text).bind ofBytes?
  else if text.length = 36 then readHyphenated? text
  else if text.length = 38 then
    match text with
    | '\x7b' :: rest => if rest.getLast? = some '\x7d' then readHyphenated? rest.dropLast else none
    | _ => none
  else if text.length = 45 then
    if (text.take 9).map Char.toLower = "urn:uuid:".toList then readHyphenated? (text.drop 9)
    else none
  else none

def ofString? (text : String) : Option Uuid :=
  ofChars? text.toList

/-- The groups of a text, without the braces or the prefix around them, how many characters stand
ahead of them, and whether they stand alone. -/
private def unwrap (text : List Char) : List Char × Nat × Bool :=
  let alone := (text, 0, true)
  match text with
  | '\x7b' :: rest => if rest.getLast? = some '\x7d' then (rest.dropLast, 1, false) else alone
  | _ => if text.take 9 = "urn:uuid:".toList then (text.drop 9, 9, false) else alone

/-- The first of five groups whose length is wrong, by the places of the hyphens between them, and
that length. -/
private def wrongGroup (length : Nat) (hyphens : List Nat) : Nat × Nat :=
  let ends := (hyphens.zip [(0, 8), (9, 13), (14, 18), (19, 23)]).zipIdx
  match ends.find? fun ((place, _, due), _) => place ≠ due with
  | some ((place, start, _), group) => (group, place - start)
  | none => (4, length - 24)

/-- What is wrong with a text that is read as no identifier. -/
def fault (text : String) : String :=
  let (groups, ahead, alone) := unwrap text.toList
  let isForeign (c : Char) : Bool := c ≠ '-' && (Bytes.hexValue? c).isNone
  let hyphens := groups.zipIdx.filterMap fun (c, place) => if c = '-' then some place else none
  match groups.zipIdx.find? fun (c, _) => isForeign c with
  | some (c, place) =>
    "invalid character: expected an optional prefix of `urn:uuid:` followed by [0-9a-fA-F-], found `"
      ++ c.toString ++ "` at " ++ Text.decimal (place + ahead + 1)
  | none =>
    if hyphens.isEmpty && alone then
      "invalid length: expected length 32 for simple format, found " ++ Text.decimal groups.length
    else if hyphens.length ≠ 4 then
      "invalid group count: expected 5, found " ++ Text.decimal (hyphens.length + 1)
    else
      let (group, found) := wrongGroup text.length hyphens
      "invalid group length in group " ++ Text.decimal group ++ ": expected "
        ++ Text.decimal (2 * groupSizes.getD group 0) ++ ", found " ++ Text.decimal found

end Uuid

end RadioLink
