import RadioLink.Device
import RadioLink.Net.IpAddress

/-!
Services that radios announce on the local network, the labels shown for them, and the devices they
stand for.
-/

set_option autoImplicit false

namespace RadioLink

/-- An announced service whose host and port are known. -/
structure Announcement where
  name : String
  hostname : String
  addresses : List Net.IpAddress
  port : UInt16
  /-- Short name of the node, if the service says it. -/
  shortName : Option String
  /-- Identifier of the node, if the service says it. -/
  nodeId : Option String
  hasProperties : Bool
  deriving DecidableEq

namespace Announcement

def ipv4? (a : Announcement) : Option Net.IpAddress :=
  a.addresses.find? (·.isIpv4)

/-- The host name without dots at its end. -/
def host (a : Announcement) : String :=
  String.ofList (Text.dropTrailing '.' a.hostname.toList)

/-- The first IPv4 address in text, or a remark that there is none. -/
def ipText (a : Announcement) : String :=
  match a.ipv4? with
  | some ip => toString ip
  | none => "Unknown IP"

/-- The last four characters of a longer identifier. -/
private def lastFour (id : String) : List Char :=
  if 4 < id.toList.length then id.toList.drop (id.toList.length - 4) else []

/-- The short name and the end of the node's identifier, joined by a low line. -/
private def propertyLabel (a : Announcement) : List Char :=
  let short := (a.shortName.getD "").toList
  let tail := (a.nodeId.map lastFour).getD []
  if short.isEmpty || tail.isEmpty then short ++ tail else short ++ '_' :: tail

/-- The label for people: from the service's properties if they say a name, else the instance and
its address. -/
def label (a : Announcement) : String :=
  if a.hasProperties && !a.propertyLabel.isEmpty then String.ofList a.propertyLabel
  else a.name ++ " (" ++ a.ipText ++ ")"

/-- The text that the device's identifier is derived from. -/
def identity (a : Announcement) : String :=
  a.name ++ ":" ++ a.host ++ ":" ++ a.ipText ++ ":" ++ Text.decimal a.port.toNat

/-- The address to dial; a literal address is preferred to a name. -/
def address (a : Announcement) : String :=
  match a.ipv4? with
  | some ip => toString ip
  | none => a.host

/-- The device that the announcement describes. -/
def toDevice (a : Announcement) : Device :=
  .discovered (.ofText a.identity) a.label .tcp
    (a.address ++ ":" ++ Text.decimal a.port.toNat)

/-- The text in front of an ending, if it ends so. -/
private def beforeSuffix? (suffix text : List Char) : Option (List Char) :=
  if suffix.isSuffixOf text then some (text.take (text.length - suffix.length)) else none

/-- The instance in a full service name: what stands in front of the service type without dots at
its end, or else the first label. -/
def instanceName (fullName serviceType : String) : String :=
  let front := (beforeSuffix? serviceType.toList fullName.toList).map (Text.dropTrailing '.')
  match front with
  | some (c :: rest) => String.ofList (c :: rest)
  | _ => String.ofList (Text.splitOn '.' fullName.toList).1

end Announcement

end RadioLink
