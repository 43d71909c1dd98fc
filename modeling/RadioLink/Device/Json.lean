import RadioLink.Device
import RadioLink.Json.Record
import RadioLink.Json.Writer

/-!
Devices in JSON, as they are stored between sessions.
-/

set_option autoImplicit false

namespace RadioLink.Device

structure Draft where
  id : Option DeviceId
  name : Option String
  medium : Option Medium
  identifier : Option String
  isManual : Option Bool
  /-- The signal strength; none stands for one that was left out too. -/
  rssi : Option Int16

def Draft.empty : Draft := ⟨none, none, none, none, none, none⟩

def Draft.toDevice? (draft : Draft) : Option Device := do
  return ⟨← draft.id, ← draft.name, ← draft.medium, ← draft.identifier, ← draft.isManual,
    draft.rssi⟩

def mediumName : Medium → String
  | .ble => "Ble"
  | .tcp => "Tcp"

def readMediumName : Json.Reader Medium := do
  let name ← Json.string "variant identifier"
  match [Medium.ble, Medium.tcp].find? (mediumName · = name) with
  | some medium => return medium
  | none => .fail (.unknownVariant name ([.ble, .tcp].map mediumName))

/-- Reads a medium: its name, or an object whose only key is the name and whose value is `null`. -/
def readMedium : Json.Reader Medium := do
  match ← Json.peek with
  | none => .fail .endInValue
  | some '"' => readMediumName
  | some '\x7b' =>
    Json.advance
    let medium ← readMediumName
    Json.colon
    match ← Json.peek with
    | some 'n' => Json.advance; Json.ident "ull"
    | none => .fail .endInValue
    | some _ => Json.refuse "unit"
    match ← Json.peek with
    | some '\x7d' => Json.advance; return medium
    | some _ => .fail .expectedValue
    | none => .fail .endInObject
  | some _ => .fail .expectedValue

def readId : Json.Reader DeviceId :=
  Json.parsed "a UUID string" fun text =>
    match Uuid.ofString? text with
    | some uuid => .ok ⟨uuid⟩
    | none => .error ("UUID parsing failed: " ++ Uuid.fault text)

/-- The fields of a stored device; an object may leave out the signal strength only. -/
def schema : Json.Schema Draft where
  title := "struct Device"
  arrayTitle := "struct Device with 6 elements"
  fields := [
    ⟨"id", fun d => return { d with id := some (← readId) }, true, false⟩,
    ⟨"name", fun d => return { d with name := some (← Json.string "a string") }, true, false⟩,
    ⟨"transport_type", fun d => return { d with medium := some (← readMedium) }, true, false⟩,
    ⟨"identifier", fun d => return { d with identifier := some (← Json.string "a string") },
      true, false⟩,
    ⟨"is_manual", fun d => return { d with isManual := some (← Json.boolean) }, true, false⟩,
    ⟨"rssi", fun d => return { d with rssi := ← Json.optional Json.int16 }, false, false⟩]

def reader : Json.Reader Device := do
  match (← Json.record schema Draft.empty).toDevice? with
  | some device => return device
  | none => .fail (.missingField "id")

def ofJson (text : String) : Except Json.Error Device :=
  reader.run text

private def jsonChars (device : Device) : List Char :=
  Json.writeObject [
    ("id", Json.writeString device.id.uuid.chars),
    ("name", Json.writeString device.name.toList),
    ("transport_type", Json.writeString (mediumName device.medium).toList),
    ("identifier", Json.writeString device.identifier.toList),
    ("is_manual", Json.writeBool device.isManual),
    ("rssi", Json.writeOptional (fun n => Json.writeInt n.toInt) device.rssi)]

def toJson (device : Device) : String :=
  String.ofList device.jsonChars

end RadioLink.Device
