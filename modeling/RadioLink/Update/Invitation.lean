import RadioLink.Digest.Md5
import RadioLink.Text.Blank
import RadioLink.Text.Decimal
import RadioLink.Text.Utf8

/-!
The invitation that opens an update, and the replies of a device to it.
-/

set_option autoImplicit false

namespace RadioLink.Update

/-- An invitation: words for the command, the port to connect to, the size and the digest of the
image, and the answer to a challenge. -/
structure Invitation where
  command : UInt8
  /-- Port that the device connects to; zero where it does not. -/
  port : UInt16
  size : Nat
  digest : String
  answer : Option String
  deriving DecidableEq, Repr

namespace Invitation

def flashCommand : UInt8 := 0

def flash (port : UInt16) (size : Nat) (digest : String) : Invitation :=
  ⟨flashCommand, port, size, digest, none⟩

/-- The same invitation with an answer to a challenge, in place of an earlier one. -/
def withAnswer (invitation : Invitation) (answer : String) : Invitation :=
  { invitation with answer := some answer }

/-- The words of the invitation with spaces between them. -/
def text (i : Invitation) : String :=
  let front := Text.decimal i.command.toNat ++ " " ++ Text.decimal i.port.toNat ++ " "
    ++ Text.decimal i.size ++ " " ++ i.digest
  match i.answer with
  | none => front
  | some answer => front ++ " " ++ answer

def toBytes (i : Invitation) : Bytes :=
  Bytes.ofString i.text

end Invitation

def md5Hex (data : Bytes) : String :=
  Bytes.toHex (Digest.md5 data)

def sha256Hex (data : Bytes) : String :=
  Bytes.toHex (Digest.sha256 data)

/-- The answer to a challenge: the first half of the SHA-256 digest of the password and the nonce,
in hexadecimal. -/
def challengeAnswer (password nonce : String) : String :=
  Bytes.toHex ((Digest.sha256 (Bytes.ofString password ++ Bytes.ofString nonce)).take 16)

inductive Reply where
  | accepted
  | challenge (nonce : String)
  | erasing
  | other (text : String)
  deriving DecidableEq, Repr

def Reply.ofBytes (datagram : Bytes) : Reply :=
  let text := Text.trim (Text.Utf8.lossy datagram)
  if text = "OK".toList then .accepted
  else if text = "ERASE".toList then .erasing
  else match Text.words text with
    | first :: nonce :: _ =>
      if first = "AUTH".toList then .challenge (String.ofList nonce)
      else .other (String.ofList text)
    | _ => .other (String.ofList text)

end RadioLink.Update
