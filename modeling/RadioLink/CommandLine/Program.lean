import RadioLink.CommandLine.Arguments
import RadioLink.CommandLine.Manual
import RadioLink.Config.Json
import RadioLink.Network.Connecting
import RadioLink.Network.Updating
import RadioLink.Text.Utf8
import RadioLink.Transport

/-!
The program behind the command line, as a function of its words, the files that it may read, and the
network: what it prints, and with which code it exits.
-/

set_option autoImplicit false

namespace RadioLink.CommandLine

structure Environment where
  file : String → Except SystemError Bytes
  network : Network

structure Outcome where
  code : Nat
  output : String
  errors : String
  deriving DecidableEq, Repr

structure Failure where
  message : String
  /-- What made it fail, if that is known. -/
  cause : Option String
  deriving DecidableEq, Repr

namespace Failure

private def plain (message : String) : Failure := ⟨message, none⟩

/-- A failure of a link or an update. A failure of the system is its own cause. -/
private def ofError (error : LinkError) : Failure :=
  match error with
  | .system cause => ⟨error.message, some cause.message⟩
  | _ => plain error.message

private def reading (path cause : String) : Failure := ⟨"reading " ++ path, some cause⟩

private def withoutBluetooth : Failure :=
  plain "built without Bluetooth support; rebuild with --features ble"

private def text (f : Failure) : String :=
  "Error: " ++ f.message ++ "\n" ++
    match f.cause with
    | none => ""
    | some cause => "\nCaused by:\n    " ++ cause ++ "\n"

end Failure

private def shownOctets : Nat := 32

/-- The front of a frame in hexadecimal, and its length if that is not all. -/
private def preview (frame : Bytes) : String :=
  Bytes.toHex (frame.take shownOctets) ++
    if shownOctets < frame.length then "... (" ++ Text.decimal frame.length ++ " bytes)" else ""

/-- The line for an event; the end of a link has none. -/
private def lineOf? : LinkEvent Bytes → Option String
  | .message frame => some ("<< " ++ preview frame ++ "\n")
  | .log line => some ("log: " ++ String.ofList (Text.trimEnd line.toList) ++ "\n")
  | _ => none

private def readFile (env : Environment) (path : String) : Except Failure Bytes :=
  (env.file path).mapError fun e => .reading path e.message

private def readConfig (env : Environment) : Option String → Except Failure Config
  | none => .ok {}
  | some path => do
    match Text.Utf8.strict? (← readFile env path) with
    | some text => (Config.ofJson text).mapError .ofError
    | none => throw (.reading path "stream did not contain valid UTF-8")

/-- Connects over TCP and prints what comes in. -/
private def connect (env : Environment) (config : Config) (input : String) :
    Except Failure String := do
  let some device := Transport.tcpManualDevice? config.tcp input
    | throw (.plain ("invalid connection string: " ++ input))
  let target ← (Transport.tcpTarget config.tcp device).mapError .ofError
  let (result, link) := (Network.Connecting.start .raw env.network target).connect
  result.mapError .ofError
  let events := (link.settle.takeEvents.1.map (·.1)).getD []
  return String.join (events.filterMap lineOf?)

private def updateWifi (env : Environment) (config : Config) (host firmware : String)
    (password : Option String) : Except Failure String := do
  let image ← readFile env firmware
  let updating := Network.Updating.start env.network config.wifiUpdate
  (updating.runToEnd host image password).1.mapError .ofError
  return "Update complete\n"

private def obey (env : Environment) (request : Request) : Except Failure String := do
  let config ← readConfig env request.config
  match request.command with
  | .discover .tcp _ => return ""
  | .discover .ble _ => throw .withoutBluetooth
  | .connect .tcp target => connect env config target
  | .connect .ble _ => throw .withoutBluetooth
  | .updateWifi host firmware password => updateWifi env config host firmware password
  | .updateBle _ => throw .withoutBluetooth

def run (env : Environment) (words : List String) : Outcome :=
  match readRequest words with
  | .error (.help none) => ⟨0, programPage, ""⟩
  | .error (.help (some form)) => ⟨0, form.page, ""⟩
  | .error .misuse => ⟨2, "", programPage⟩
  | .ok request =>
    match obey env request with
    | .ok output => ⟨0, output, ""⟩
    | .error failure => ⟨1, "", failure.text⟩

/-- The files that the program may read for its words. -/
def files (words : List String) : List String :=
  match readRequest words with
  | .error _ => []
  | .ok request =>
    request.config.toList ++ match request.command with
      | .updateWifi _ firmware _ => [firmware]
      | _ => []

end RadioLink.CommandLine
