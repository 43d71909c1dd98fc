import RadioLink.Error
import RadioLink.Message.Wire
import RadioLink.Text.Utf8

/-!
Messages that ride on a link. A format turns messages into payloads and payloads into messages; the
link itself never looks inside a payload.
-/

set_option autoImplicit false

namespace RadioLink

/-- How messages of one kind are written into payloads and read from them. -/
structure Format (M : Type) where
  encode : M → Bytes
  decode : Bytes → Except LinkError M

def Format.raw : Format Bytes := ⟨id, .ok⟩

namespace Wire

/-- A known field of a message: its number, its name in errors, and how its value is read into the
message. -/
structure Field (M : Type) where
  tag : Nat
  name : String
  merge : Kind → M → Bytes → Except Fault (M × Bytes)

/-- A number of 32 bits; higher bits are dropped. -/
private def uint32Field {M : Type} (tag : Nat) (name : String) (set : M → UInt32 → M) :
    Field M where
  tag := tag
  name := name
  merge kind message bytes := do
    expect kind .varint
    let (value, rest) ← readVarint bytes
    return (set message (UInt32.ofNat value), rest)

private def stringField {M : Type} (tag : Nat) (name : String) (set : M → String → M) :
    Field M where
  tag := tag
  name := name
  merge kind message bytes := do
    expect kind .lengthDelimited
    let (value, rest) ← readDelimited bytes
    match Text.Utf8.strict? value with
    | some text => return (set message text, rest)
    | none => throw .invalidText

/-- The wording of a fault in a message, or in one of its fields. -/
private def decodeError (path : String) (fault : Fault) : LinkError :=
  .decode ("failed to decode Protobuf message: " ++ path ++ fault.message)

/-- Reads fields until the octets end; later values win and unknown fields are skipped. A field
drops an octet at least, which bounds their number. -/
private def mergeFields {M : Type} (title : String) (fields : List (Field M)) :
    Nat → M → Bytes → Except LinkError M
  | 0, message, _ => .ok message
  | _ + 1, message, [] => .ok message
  | fuel + 1, message, bytes => do
    let (tag, kind, rest) ← (readKey bytes).mapError (decodeError "")
    match fields.find? (·.tag = tag) with
    | some field =>
      let (message, rest) ← (field.merge kind message rest).mapError
        (decodeError (title ++ "." ++ field.name ++ ": "))
      mergeFields title fields fuel message rest
    | none =>
      let rest ← (skip tag kind rest).mapError (decodeError "")
      mergeFields title fields fuel message rest

/-- Reads a message whose fields start out as given. -/
private def decodeMessage {M : Type} (title : String) (fields : List (Field M)) (start : M)
    (bytes : Bytes) : Except LinkError M :=
  mergeFields title fields (bytes.length + 1) start bytes

/-- A number field; zero is not written. -/
private def writeUInt32 (tag : Nat) (value : UInt32) : Bytes :=
  if value = 0 then [] else writeKey tag .varint ++ writeVarint value.toNat

/-- A text field; the empty text is not written. -/
private def writeString (tag : Nat) (value : String) : Bytes :=
  let text := Bytes.ofString value
  if text.isEmpty then []
  else writeKey tag .lengthDelimited ++ writeVarint text.length ++ text

/-- The payload of a message, provided that it fits into a buffer. -/
def encodeInto (capacity : Nat) (payload : Bytes) : Except LinkError Bytes :=
  if payload.length ≤ capacity then .ok payload
  else .error (.encode (
    "failed to encode Protobuf message; insufficient buffer capacity (required: "
    ++ Text.decimal payload.length ++ ", remaining: " ++ Text.decimal capacity ++ ")"))

end Wire

structure Telemetry where
  battery : UInt32
  deriving DecidableEq, Repr, Inhabited

namespace Telemetry

private def fields : List (Wire.Field Telemetry) :=
  [Wire.uint32Field 1 "battery" fun _ value => ⟨value⟩]

def format : Format Telemetry where
  encode t := Wire.writeUInt32 1 t.battery
  decode := Wire.decodeMessage "Telemetry" fields ⟨0⟩

end Telemetry

structure Heartbeat where
  nonce : UInt32
  note : String
  deriving DecidableEq, Repr, Inhabited

namespace Heartbeat

private def fields : List (Wire.Field Heartbeat) :=
  [Wire.uint32Field 1 "nonce" fun h value => { h with nonce := value },
   Wire.stringField 2 "note" fun h value => { h with note := value }]

def format : Format Heartbeat where
  encode h := Wire.writeUInt32 1 h.nonce ++ Wire.writeString 2 h.note
  decode := Wire.decodeMessage "Heartbeat" fields ⟨0, ""⟩

end Heartbeat

end RadioLink
