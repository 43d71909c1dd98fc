import RadioLink.Link.Ble
import RadioLink.Link.Tcp
import RadioLink.Proofs.Link.Progress

/-!
The two media. Over either, no reaction of the task holds an event that ends the link, and some
answer lets the task rest.
-/

set_option autoImplicit false
set_option relaxedAutoImplicit false

namespace RadioLink.Link

variable {M : Type}

def protocolOver (format : Format M) : Medium → Protocol M
  | .tcp => Tcp.protocol format
  | .ble => Ble.protocol format

private theorem isTerminal_of_mem_messages (format : Format M) (payloads : List Bytes) :
    ∀ event ∈ (Tcp.messages format payloads).1, event.isTerminal = false := by
  induction payloads with
  | nil => simp [Tcp.messages]
  | cons payload payloads ih =>
    intro event he
    simp only [Tcp.messages] at he
    cases hdecode : format.decode payload with
    | error error => simp [hdecode] at he
    | ok message =>
      rw [hdecode] at he
      rcases List.mem_cons.mp he with rfl | he
      · rfl
      · exact ih event he

theorem mild_tcp (format : Format M) : (Tcp.protocol format).Mild := by
  refine ⟨?_, by simp [Tcp.protocol]⟩
  intro decoder incoming event he
  cases incoming with
  | ended | failed => simp [Tcp.protocol, Tcp.receive] at he
  | octets data =>
    refine isTerminal_of_mem_messages format (decoder.feed data).drain.1 event ?_
    simp only [Tcp.protocol, Tcp.receive] at he
    rcases hmessages : Tcp.messages format (decoder.feed data).drain.1 with ⟨events, error⟩
    rw [hmessages] at he
    cases error <;> exact he

theorem mild_ble (format : Format M) : (Ble.protocol format).Mild := by
  constructor
  · intro hasLog notification event he
    simp only [Ble.protocol, Ble.takeNotification] at he
    split at he
    · simp at he
    · split_ifs at he <;> simp_all [LinkEvent.isTerminal]
  · intro hasLog answer event he
    simp only [Ble.protocol, Ble.takePacket] at he
    split at he
    · simp at he
    · split_ifs at he
      · simp at he
      · split at he <;> simp_all [LinkEvent.isTerminal]

theorem mild_protocolOver (format : Format M) (medium : Medium) :
    (protocolOver format medium).Mild := by
  cases medium with
  | tcp => exact mild_tcp format
  | ble => exact mild_ble format

theorem restful_protocolOver (format : Format M) (medium : Medium) :
    (protocolOver format medium).Restful := by
  cases medium with
  | tcp => exact ⟨Except.ok (), by simp [protocolOver, Tcp.protocol]⟩
  | ble => exact ⟨Except.ok .nothing, by simp [protocolOver, Ble.protocol, Ble.takePacket,
      Gatt.Yield.bytes]⟩

end RadioLink.Link
