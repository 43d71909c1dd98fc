import RadioLink.Proofs.Frame.Noise
import RadioLink.Proofs.Link.Media
import RadioLink.Proofs.Link.Usage
import RadioLink.Proofs.Link.Writes
import RadioLink.Slots

/-!
What goes out over either medium. A socket takes the frames of the sends, whole and in order, and at
the most a part of one last frame; a radio that has one slot for writes never has to refuse one.
-/

set_option autoImplicit false
set_option relaxedAutoImplicit false

namespace RadioLink

namespace Slots

variable {α : Type} {s slots : Slots α} {kind : OperationKind} {number : Nat}

private theorem begin_of_not_pending (free : s.isPending kind = false) :
    ∃ slots, s.begin kind = .ok (s.next, slots) ∧ slots.holder kind = some s.next := by
  simp [begin, free, setHolder]

private theorem isPending_leave (holder : s.holder kind = some number) :
    (s.leave number).isPending kind = false := by
  have hfind : (s.leave number).find? number = none := by
    refine List.find?_eq_none.mpr fun waiter mem => ?_
    simpa using (List.mem_filter.mp mem).2
  have hholder : (s.leave number).holder kind = some number := holder
  rw [isPending, hholder, Option.any_some, hfind]
  rfl

end Slots

namespace Link

variable {M : Type}

/-! ### Over TCP -/

/-- The sending side of a socket: what it has taken of the writes that have ended, and the data of
the write that is under way. -/
structure Socket where
  octets : Bytes
  pending : Option Bytes

namespace Socket

def fresh : Socket := ⟨[], none⟩

/-- What gets out of some data that is written. A write fails while something of it is left. -/
def put (data : Bytes) : Except Tcp.Fault Unit → Bytes
  | .ok () => data
  | .error fault => data.dropLast.take fault.written

def ask (s : Socket) : Tcp.Operation → Socket
  | .write data => { s with pending := some data }
  | .shutdown => s

def finish (s : Socket) (answer : Except Tcp.Fault Unit) : Socket :=
  ⟨s.octets ++ s.pending.elim [] (put · answer), none⟩

def meet {format : Format M} (s : Socket) : Exchange (Tcp.protocol format) → Socket
  | .asked op => s.ask op
  | .answered answer => s.finish answer

end Socket

/-- What got out of the frame whose write failed, if one did. -/
private def Ledger.cut {format : Format M} (l : Ledger (Tcp.protocol format)) : Bytes :=
  l.failed.elim [] fun failed => Socket.put failed.1.bytes failed.2

variable {format : Format M}

/-- The socket has taken what the ledger says, and is at the write that the ledger says. -/
structure Socket.Fits (l : Ledger (Tcp.protocol format)) (s : Socket) : Prop where
  octets : s.octets = (l.written.map Sending.bytes).flatten ++ l.cut
  pending : s.pending = l.current.map Sending.bytes
  faulty : ∀ sending answer, l.failed = some (sending, answer) → ∃ fault, answer = .error fault

private def Tcp.IsWrite (op : Tcp.Operation) : Prop := ∃ data, op = .write data

private theorem Tcp.apart (format : Format M) : (Tcp.protocol format).Apart Tcp.IsWrite where
  opening op h := by cases h
  receive decoder incoming op h := by
    cases incoming with
    | ended | failed => simp [protocol, Tcp.receive] at h
    | octets data =>
      simp only [protocol, Tcp.receive] at h
      rcases hmessages : messages format (decoder.feed data).drain.1 with ⟨events, _ | error⟩ <;>
        simp [hmessages] at h
  resume decoder answer op h := by cases h
  release decoder op mem := by
    obtain rfl : op = Tcp.Operation.shutdown := List.mem_singleton.mp mem
    rintro ⟨data, hdata⟩
    cases hdata

private theorem Socket.follows (format : Format M) :
    Follows (p := Tcp.protocol format) Tcp.IsWrite Socket.meet Socket.Fits where
  other op h free apart := by
    cases op with
    | write data => exact absurd ⟨data, rfl⟩ apart
    | shutdown => exact h
  write sending h free faultless := ⟨h.octets, rfl, h.faulty⟩
  answer := by
    intro ledger s answer h faultless
    have hpending := h.pending
    cases hcurrent : ledger.current with
    | none =>
      rw [hcurrent] at hpending
      rw [Ledger.finish_of_none hcurrent]
      refine ⟨?_, by rw [hcurrent]; rfl, h.faulty⟩
      simpa [meet, finish, hpending] using h.octets
    | some sending =>
      have hnone : ledger.failed = none := faultless (by rw [hcurrent]; rfl)
      have hoctets : s.octets = (ledger.written.map Sending.bytes).flatten := by
        simpa [Ledger.cut, hnone] using h.octets
      rw [hcurrent] at hpending
      cases answer with
      | ok =>
        have hfinish : ledger.finish (Except.ok ()) =
            ⟨ledger.written ++ [sending], ledger.failed, none⟩ := Ledger.finish_well hcurrent rfl
        rw [hfinish]
        refine ⟨?_, rfl, h.faulty⟩
        simp [meet, finish, hpending, put, hoctets, Ledger.cut, hnone]
      | error fault =>
        have hfinish : ledger.finish (Except.error fault) =
            ⟨ledger.written, some (sending, .error fault), none⟩ :=
          Ledger.finish_badly hcurrent rfl
        rw [hfinish]
        refine ⟨?_, rfl, ?_⟩
        · simp [meet, finish, hpending, hoctets, Ledger.cut]
        · intro other answer hfailed
          injection hfailed with hfailed
          injection hfailed with hsending hanswer
          exact ⟨fault, hanswer.symm⟩

/-! ### Over Bluetooth -/

/-- A radio that lets one write be under way at a time, and refuses any other. -/
structure Radio where
  slots : Slots Unit
  /-- The write that is under way, and the waiter that holds its slot. -/
  pending : Option (Gatt.Operation × Nat)
  begun : List Gatt.Operation
  written : List Gatt.Operation
  refused : List LinkError

private def Ble.IsWrite (op : Gatt.Operation) : Prop :=
  ∃ characteristic value kind, op = .write characteristic value kind

namespace Radio

def fresh : Radio := ⟨.empty, none, [], [], []⟩

def beginWrite (r : Radio) (op : Gatt.Operation) : Radio :=
  match r.slots.begin .write with
  | .ok (number, slots) =>
    { r with slots := slots, pending := some (op, number), begun := r.begun ++ [op] }
  | .error error => { r with refused := r.refused ++ [error] }

def ask (r : Radio) : Gatt.Operation → Radio
  | .write characteristic value kind => r.beginWrite (.write characteristic value kind)
  | _ => r

def finish (r : Radio) (answer : Gatt.Answer) : Radio :=
  match r.pending with
  | none => r
  | some (op, number) =>
    { r with
      slots := r.slots.leave number
      pending := none
      written := r.written ++ answer.toOption.toList.map fun _ => op }

def meet {format : Format M} (r : Radio) : Exchange (Ble.protocol format) → Radio
  | .asked op => r.ask op
  | .answered answer => r.finish answer

end Radio

def Sending.operation (sending : Sending) : Gatt.Operation :=
  .write Gatt.toRadio sending.bytes .withResponse

/-- The slot for writes is held by the write that is under way, if any is. -/
private def Radio.Holds (r : Radio) : Option Sending → Prop
  | none => r.pending = none ∧ r.slots.isPending .write = false
  | some sending => ∃ number, r.pending = some (sending.operation, number) ∧
      r.slots.holder .write = some number

/-- The radio has begun and ended the writes that the ledger says, and has refused none. -/
structure Radio.Fits (l : Ledger (Ble.protocol format)) (r : Radio) : Prop where
  begun : r.begun = l.taken.map Sending.operation
  written : r.written = l.written.map Sending.operation
  refused : r.refused = []
  holds : r.Holds l.current

private theorem Ble.apart (format : Format M) : (Ble.protocol format).Apart Ble.IsWrite where
  opening op h := by
    cases h
    rintro ⟨characteristic, value, kind, hop⟩
    cases hop
  receive hasLog notification op h := by
    simp only [protocol, takeNotification] at h
    split at h
    · cases h
    · split_ifs at h
      cases h
      rintro ⟨characteristic, value, kind, hop⟩
      cases hop
  resume hasLog answer op h := by
    simp only [protocol, takePacket] at h
    split at h
    · cases h
    · split_ifs at h
      split at h
      · cases h
        rintro ⟨characteristic, value, kind, hop⟩
        cases hop
      · cases h
  release hasLog op mem := by
    rintro ⟨characteristic, value, kind, rfl⟩
    have mem : .write characteristic value kind ∈ releaseOf hasLog := mem
    simp [releaseOf] at mem

private theorem Radio.follows (format : Format M) :
    Follows (p := Ble.protocol format) Ble.IsWrite Radio.meet Radio.Fits where
  other op h free apart := by
    cases op with
    | write characteristic value kind => exact absurd ⟨characteristic, value, kind, rfl⟩ apart
    | _ => exact h
  write := by
    intro ledger r sending h free faultless
    have hholds := h.holds
    rw [free] at hholds
    obtain ⟨slots, hbegin, hholder⟩ := Slots.begin_of_not_pending hholds.2
    have hmeet : r.meet (.asked ((Ble.protocol format).write sending.bytes)) =
        { r with
          slots := slots
          pending := some (sending.operation, r.slots.next)
          begun := r.begun ++ [sending.operation] } := by
      simp only [meet, ask, Ble.protocol, beginWrite, hbegin]
      rfl
    rw [hmeet]
    refine ⟨?_, h.written, h.refused, r.slots.next, rfl, hholder⟩
    simp [h.begun, Ledger.taken_begin faultless free]
  answer := by
    intro ledger r answer h faultless
    have hholds := h.holds
    cases hcurrent : ledger.current with
    | none =>
      rw [hcurrent] at hholds
      have hmeet : r.meet (.answered answer) = r := by simp only [meet, finish, hholds.1]
      rw [Ledger.finish_of_none hcurrent, hmeet]
      exact h
    | some sending =>
      have hnone : ledger.failed = none := faultless (by rw [hcurrent]; rfl)
      rw [hcurrent] at hholds
      obtain ⟨number, hpending, hholder⟩ := hholds
      have hfree := Slots.isPending_leave hholder
      have hbegun : r.begun = (ledger.finish answer).taken.map Sending.operation :=
        h.begun.trans (by rw [Ledger.taken_finish hnone])
      simp only [meet, finish, hpending]
      cases answer with
      | ok yielded =>
        have hfinish : ledger.finish (Except.ok yielded) =
            ⟨ledger.written ++ [sending], ledger.failed, none⟩ := Ledger.finish_well hcurrent rfl
        refine ⟨hbegun, ?_, h.refused, ?_⟩
        · simp [hfinish, h.written, Except.toOption]
        · rw [hfinish]
          exact ⟨rfl, hfree⟩
      | error error =>
        have hfinish : ledger.finish (Except.error error) =
            ⟨ledger.written, some (sending, .error error), none⟩ :=
          Ledger.finish_badly hcurrent rfl
        refine ⟨hbegun, ?_, h.refused, ?_⟩
        · simp [hfinish, h.written, Except.toOption]
        · rw [hfinish]
          exact ⟨rfl, hfree⟩

/-! ### Usages -/

namespace Usage

/-- The radio under a link, used by nobody else. -/
def radio (u : Usage (Ble.protocol format)) : Radio := u.wire.foldl Radio.meet .fresh

end Usage

end Link

end RadioLink
