import RadioLink.Proofs.Link.Media
import RadioLink.Proofs.Link.Parting
import RadioLink.Proofs.Link.Setup

/-!
How a link over Bluetooth is let go. Whatever befalls the task, it switches off the notifications
that were switched on and drops the link, and only then tells anybody that the link is over.
-/

set_option autoImplicit false
set_option relaxedAutoImplicit false

namespace RadioLink.Link

variable {M : Type}

namespace Ble

/-- The operations of a link that goes on: the mailbox is read, and messages are written. -/
def Works (op : Gatt.Operation) : Prop :=
  op = .read Gatt.fromRadio ∨ ∃ bytes, op = .write Gatt.toRadio bytes .withResponse

theorem trades (format : Format M) : (Ble.protocol format).Trades Works where
  opening := by
    rintro op hop
    exact .inl (Next.run.inj hop).symm
  receive := by
    intro hasLog notification op hop
    simp only [protocol, takeNotification] at hop
    split at hop
    · cases hop
    · split_ifs at hop
      exact .inl (Next.run.inj hop).symm
  resume := by
    intro hasLog answer op hop
    simp only [protocol, takePacket] at hop
    split at hop
    · cases hop
    · split_ifs at hop
      split at hop
      · exact .inl (Next.run.inj hop).symm
      · cases hop
  write := fun bytes => .inr ⟨bytes, rfl⟩
  received := fun _ _ => rfl
  resumed := fun _ _ => rfl

end Ble

namespace Opening

def refused : Opening (Ble.protocol Format.raw) where
  connection := .initial _
  memory := true
  actions := [.advance, .answer (Except.error .timeout : Gatt.Answer), .advance,
    .answer (Except.error .timeout : Gatt.Answer)]

example :
    let fails : Sign (Ble.protocol Format.raw) := .took (Except.error .timeout : Gatt.Answer)
    refused.passed =
      [.showed (.run (.read Gatt.fromRadio)), fails,
        .showed (.run (.unsubscribe Gatt.packetCounter)), fails,
        .showed (.run (.unsubscribe Gatt.logLine))] := rfl

end Opening

end RadioLink.Link
