import RadioLink.Device
import RadioLink.Duration
import RadioLink.Frame
import RadioLink.Link.Session
import RadioLink.Message

/-!
Links over TCP: messages ride in frames on a byte stream. The end of the stream, a failure to read
or to write, and a frame that is no message each end the link.
-/

set_option autoImplicit false

namespace RadioLink.Link.Tcp

inductive Incoming where
  | octets (data : Bytes)
  /-- The end of the peer's octets. -/
  | ended
  | failed (error : SystemError)
  deriving DecidableEq

inductive Operation where
  | write (data : Bytes)
  | shutdown
  deriving DecidableEq

structure Fault where
  /-- Octets written ahead of the failure. -/
  written : Nat
  error : SystemError
  deriving DecidableEq

/-- The messages of some payloads up to the first that is none, and why it is none. -/
def messages {M : Type} (format : Format M) : List Bytes → List (LinkEvent M) × Option LinkError
  | [] => ([], none)
  | payload :: payloads =>
    match format.decode payload with
    | .error error => ([], some error)
    | .ok message =>
      let (events, error) := messages format payloads
      (.message message :: events, error)

def receive {M : Type} (format : Format M) (decoder : Frame.Decoder) :
    Incoming → Reaction M Operation × Frame.Decoder
  | .octets data =>
    let (payloads, decoder) := (decoder.feed data).drain
    match messages format payloads with
    | (events, none) => (⟨events, .wait⟩, decoder)
    | (events, some error) => (⟨events, .stop ⟨some error, true⟩⟩, decoder)
  | .ended => (⟨[], .stop ⟨some (.disconnected "connection closed by peer"), true⟩⟩, decoder)
  | .failed error => (⟨[], .stop ⟨some (.system error), true⟩⟩, decoder)

def protocol {M : Type} (format : Format M) : Protocol M where
  Op := Operation
  Answer := Except Fault Unit
  Signal := Incoming
  Memory := Frame.Decoder
  opening := .wait
  receive := receive format
  resume decoder _ := (⟨[], .wait⟩, decoder)
  pack := Frame.encode
  write := .write
  failure?
    | .ok () => none
    | .error fault =>
      some (.disconnected fault.error.message, ⟨some (.system fault.error), true⟩)
  release _ := [.shutdown]

inductive Dialled where
  | connected
  | failed (error : SystemError)
  | timedOut
  /-- The socket is connected, but cannot be told to send without delay. -/
  | untuned (error : SystemError)
  deriving DecidableEq

/-- Why an attempt to connect failed, if it did. -/
def dialError? (target : Target) (allowed : Duration) : Dialled → Option LinkError
  | .connected => none
  | .failed error => some (.connectionFailed (target.normalized ++ ": " ++ error.message))
  | .timedOut => some (.connectionTimeout allowed.toMillis)
  | .untuned error => some (.system error)

end RadioLink.Link.Tcp
