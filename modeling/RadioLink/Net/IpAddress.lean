import RadioLink.Text.Blank
import RadioLink.Text.Decimal

/-!
Internet addresses in text. IPv4 is four decimal numbers; IPv6 is eight hexadecimal groups of which
one run of zeros may be left out, and its last two groups may be written as an IPv4 address.
-/

set_option autoImplicit false

namespace RadioLink.Net

structure Ipv4 where
  a : UInt8
  b : UInt8
  c : UInt8
  d : UInt8
  deriving DecidableEq, Repr

structure Ipv6 where
  groups : List UInt16
  length_eq : groups.length = 8
  deriving DecidableEq

inductive IpAddress where
  | v4 (address : Ipv4)
  | v6 (address : Ipv6)
  deriving DecidableEq

namespace Ipv4

/-- The address that stands for every interface. -/
def unspecified : Ipv4 := ⟨0, 0, 0, 0⟩

def chars (ip : Ipv4) : List Char :=
  Text.decimalDigits ip.a.toNat ++ '.' :: Text.decimalDigits ip.b.toNat ++
    '.' :: Text.decimalDigits ip.c.toNat ++ '.' :: Text.decimalDigits ip.d.toNat

/-- Reads one of the four numbers: at most three digits, no leading zero, at most 255. -/
def readOctet? (text : List Char) : Option UInt8 :=
  if 3 < text.length || (text.head? = some '0' && 1 < text.length) then none
  else (Text.readDecimal? text).bind fun n => if n < 256 then some (UInt8.ofNat n) else none

def ofChars? (text : List Char) : Option Ipv4 :=
  match Text.pieces '.' text with
  | [a, b, c, d] => do
    return ⟨← readOctet? a, ← readOctet? b, ← readOctet? c, ← readOctet? d⟩
  | _ => none

end Ipv4

namespace Ipv6

/-- The address with the given groups, if there are eight. -/
def ofGroups? (groups : List UInt16) : Option Ipv6 :=
  if h : groups.length = 8 then some ⟨groups, h⟩ else none

def zeroRun (groups : List UInt16) : Nat :=
  (groups.takeWhile (· = 0)).length

/-- The start and the length of the first longest run of zero groups at or behind an index. -/
def longestZeros (index : Nat) : List UInt16 → Nat × Nat
  | [] => (index, 0)
  | g :: rest =>
    let later := longestZeros (index + 1) rest
    let here := zeroRun (g :: rest)
    if later.2 ≤ here then (index, here) else later

def joinGroups : List UInt16 → List Char
  | [] => []
  | [g] => Text.hexDigits g.toNat
  | g :: rest => Text.hexDigits g.toNat ++ ':' :: joinGroups rest

/-- The IPv4 address that an address of the block `::ffff:0:0/96` maps. -/
def mapped? (ip : Ipv6) : Option Ipv4 :=
  match ip.groups with
  | [0, 0, 0, 0, 0, 0xffff, g, h] =>
    some ⟨(g >>> 8).toUInt8, g.toUInt8, (h >>> 8).toUInt8, h.toUInt8⟩
  | _ => none

/-- The shortest form: the first longest run of two or more zero groups is left out, and a mapped
address ends in dotted form. -/
def chars (ip : Ipv6) : List Char :=
  match ip.mapped? with
  | some v4 => "::ffff:".toList ++ v4.chars
  | none =>
    let (start, length) := longestZeros 0 ip.groups
    if 1 < length then
      joinGroups (ip.groups.take start) ++ "::".toList
        ++ joinGroups (ip.groups.drop (start + length))
    else joinGroups ip.groups

/-- Reads one group: at most four hexadecimal digits. -/
def readGroup? (text : List Char) : Option UInt16 :=
  (Text.readHex? 4 text).map UInt16.ofNat

/-- The two groups that a dotted address stands for. -/
def groupsOfIpv4 (ip : Ipv4) : List UInt16 :=
  [ip.a.toUInt16 <<< 8 ||| ip.b.toUInt16, ip.c.toUInt16 <<< 8 ||| ip.d.toUInt16]

/-- Reads groups of which the last may be a dotted address. -/
def readTail? : List (List Char) → Option (List UInt16)
  | [] => some []
  | [last] =>
    match readGroup? last with
    | some g => some [g]
    | none => (Ipv4.ofChars? last).map groupsOfIpv4
  | piece :: rest => do return (← readGroup? piece) :: (← readTail? rest)

/-- Reads groups before the gap, which hold no dotted address. -/
def readHead? (pieces : List (List Char)) : Option (List UInt16) :=
  pieces.mapM readGroup?

/-- Fills the gap between the groups before and behind it; it stands for one zero group or more. -/
def fillGap? (front back : List UInt16) : Option Ipv6 :=
  if front.length + back.length ≤ 7 then
    ofGroups? (front ++ List.replicate (8 - front.length - back.length) 0 ++ back)
  else none

/-- Reads an IPv6 address from its pieces between colons. An empty piece is the gap; at either end
of the text the gap shows as two empty pieces. -/
def ofPieces? (pieces : List (List Char)) : Option Ipv6 :=
  let (front, behind) := pieces.span (!·.isEmpty)
  match behind with
  | [] => (readTail? front).bind ofGroups?
  | _ :: rest =>
    if front.isEmpty then
      match rest with
      | [] :: [[]] => fillGap? [] []
      | [] :: back => do fillGap? [] (← readTail? back)
      | _ => none
    else if rest = [[]] then do fillGap? (← readHead? front) []
    else if rest.isEmpty then none
    else do fillGap? (← readHead? front) (← readTail? rest)

def ofChars? (text : List Char) : Option Ipv6 :=
  ofPieces? (Text.pieces ':' text)

end Ipv6

namespace IpAddress

def chars : IpAddress → List Char
  | .v4 ip => ip.chars
  | .v6 ip => ip.chars

protected def toString (ip : IpAddress) : String :=
  String.ofList ip.chars

instance : ToString IpAddress := ⟨IpAddress.toString⟩

def isIpv4 : IpAddress → Bool
  | .v4 _ => true
  | .v6 _ => false

def ofChars? (text : List Char) : Option IpAddress :=
  match Ipv4.ofChars? text with
  | some ip => some (.v4 ip)
  | none => (Ipv6.ofChars? text).map .v6

def ofString? (text : String) : Option IpAddress :=
  ofChars? text.toList

end IpAddress

end RadioLink.Net
