import RadioLink.Operation
import RadioLink.SystemError
import RadioLink.Text.Decimal

/-!
The errors of links and updates, each a cause with its code, its wording, and whether trying again
can help.
-/

set_option autoImplicit false

namespace RadioLink

inductive LinkError where
  | discoveryFailed (reason : String)
  | connectionFailed (reason : String)
  | connectionTimeout (millis : Nat)
  /-- A connection string that is not `host[:port]`. -/
  | invalidConnectionString (input : String)
  | deviceNotFound (id : String)
  | payloadTooLarge (size max : Nat)
  | decode (reason : String)
  | encode (reason : String)
  | disconnected (reason : String)
  | eventStreamCancelled
  | notConnected
  | bluetoothUnavailable (reason : String)
  | scanTimeout (millis : Nat)
  | serviceMissing (service : String)
  | characteristicMissing (characteristic : String)
  | operationInProgress (kind : OperationKind)
  | bluetooth (reason : String)
  | deviceReportedError
  | handshakeTimeout (millis : Nat)
  | authenticationRequired
  | updateInProgress
  | transferInFlight
  | cancelled
  | invalidFirmware (reason : String)
  | invalidConfig (reason : String)
  | channelClosed
  /-- A bounded wait ended without an answer. -/
  | timeout
  | system (error : SystemError)
  deriving DecidableEq, Repr

namespace LinkError

def code : LinkError → String
  | .discoveryFailed _ => "DISCOVERY_FAILED"
  | .connectionFailed _ => "CONNECTION_FAILED"
  | .connectionTimeout _ => "CONNECTION_TIMEOUT"
  | .invalidConnectionString _ => "INVALID_CONNECTION_STRING"
  | .deviceNotFound _ => "DEVICE_NOT_FOUND"
  | .payloadTooLarge .. => "PAYLOAD_TOO_LARGE"
  | .decode _ => "DECODE"
  | .encode _ => "ENCODE"
  | .disconnected _ => "DISCONNECTED"
  | .eventStreamCancelled => "EVENT_STREAM_CANCELLED"
  | .notConnected => "NOT_CONNECTED"
  | .bluetoothUnavailable _ => "BLUETOOTH_UNAVAILABLE"
  | .scanTimeout _ => "SCAN_TIMEOUT"
  | .serviceMissing _ => "SERVICE_MISSING"
  | .characteristicMissing _ => "CHARACTERISTIC_MISSING"
  | .operationInProgress _ => "OPERATION_IN_PROGRESS"
  | .bluetooth _ => "BLUETOOTH"
  | .deviceReportedError => "DEVICE_REPORTED_ERROR"
  | .handshakeTimeout _ => "HANDSHAKE_TIMEOUT"
  | .authenticationRequired => "AUTHENTICATION_REQUIRED"
  | .updateInProgress => "UPDATE_IN_PROGRESS"
  | .transferInFlight => "TRANSFER_IN_FLIGHT"
  | .cancelled => "CANCELLED"
  | .invalidFirmware _ => "INVALID_FIRMWARE"
  | .invalidConfig _ => "INVALID_CONFIG"
  | .channelClosed => "CHANNEL_CLOSED"
  | .timeout => "TIMEOUT"
  | .system _ => "IO_ERROR"

def message : LinkError → String
  | .discoveryFailed reason => "Discovery failed: " ++ reason
  | .connectionFailed reason => "Connection failed: " ++ reason
  | .connectionTimeout millis => "Connection timeout after " ++ Text.decimal millis ++ "ms"
  | .invalidConnectionString input => "Invalid connection string: " ++ input
  | .deviceNotFound id => "Device not found: " ++ id
  | .payloadTooLarge size max =>
    "Payload too large: " ++ Text.decimal size ++ " bytes exceeds frame maximum of "
      ++ Text.decimal max ++ " bytes"
  | .decode reason => "Message decode error: " ++ reason
  | .encode reason => "Message encode error: " ++ reason
  | .disconnected reason => "Disconnected: " ++ reason
  | .eventStreamCancelled => "Event stream cancelled"
  | .notConnected => "Not connected"
  | .bluetoothUnavailable reason => "Bluetooth unavailable: " ++ reason
  | .scanTimeout millis => "Scan timed out after " ++ Text.decimal millis ++ "ms"
  | .serviceMissing service => "Service missing: " ++ service
  | .characteristicMissing characteristic => "Characteristic missing: " ++ characteristic
  | .operationInProgress kind => "Operation already in progress: " ++ kind.name
  | .bluetooth reason => "Bluetooth error: " ++ reason
  | .deviceReportedError => "Device reported an error"
  | .handshakeTimeout millis =>
    "Device failed to respond in time (" ++ Text.decimal millis ++ "ms)"
  | .authenticationRequired => "Device requires authentication but no password was provided"
  | .updateInProgress => "An update is already in progress"
  | .transferInFlight => "Cannot cancel while the transfer is in flight"
  | .cancelled => "Update cancelled"
  | .invalidFirmware reason => "Invalid firmware image: " ++ reason
  | .invalidConfig reason => "Invalid configuration: " ++ reason
  | .channelClosed => "Channel closed"
  | .timeout => "Operation timed out"
  | .system error => "IO error: " ++ error.message

def isRetriable : LinkError → Bool
  | .connectionTimeout _ | .connectionFailed _ | .disconnected _ | .scanTimeout _ | .decode _
  | .timeout | .system _ => true
  | _ => false

/-- Whether the device sent or asked for something that the protocol does not allow. -/
def isProtocolError : LinkError → Bool
  | .decode _ | .payloadTooLarge .. | .deviceReportedError => true
  | _ => false

end LinkError

end RadioLink
