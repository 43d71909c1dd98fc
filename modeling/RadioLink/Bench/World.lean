import RadioLink.Bench.Peripheral
import RadioLink.Channel

/-!
A world of peripherals in memory and one adapter, with a clock of its own that counts milliseconds.
Operations are asked for under a ticket and land with their answers; the clock moves only when it
is told to.
-/

set_option autoImplicit false

namespace RadioLink.Bench

abbrev Ticket := Nat

structure Flight where
  ticket : Ticket
  /-- The peripheral that it is about, if it is about one. -/
  target : Option String
  operation : Gatt.Operation
  /-- The number of its waiter in the peripheral's slots, once it has begun. -/
  waiter : Option Nat
  due : Option Nat

/-- The adapter, the peripherals, and the clock. -/
structure World where
  now : Nat
  peripherals : List Peripheral
  advertisements : List Gatt.Advertisement
  sightings : List (Channel Gatt.Advertisement)
  scanner : Option Nat
  scansStarted : Nat
  scansStopped : Nat
  notifications : List (Channel Gatt.Notification)
  faults : Faults
  /-- Operations under way, oldest first. -/
  flights : List Flight
  landed : List (Ticket × Gatt.Answer)
  record : List Gatt.Operation

namespace World

/-- A world with peripherals, advertised under a name or not, and faults of the adapter. Those out
of range are not advertised. -/
def start (peripherals : List (Peripheral × Option String)) (faults : Faults) : World where
  now := 0
  peripherals := peripherals.map (·.1)
  advertisements := (peripherals.filter (·.1.inRange)).map fun (p, name) => ⟨p.id, name, some (-60)⟩
  sightings := []
  scanner := none
  scansStarted := 0
  scansStopped := 0
  notifications := []
  faults := faults
  flights := []
  landed := []
  record := []

def find? (w : World) (id : String) : Option Peripheral :=
  w.peripherals.find? (·.id = id)

def modify (w : World) (id : String) (f : Peripheral → Peripheral) : World :=
  { w with peripherals := w.peripherals.map fun p => if p.id = id then f p else p }

def modifyNotifications (w : World) (number : Nat)
    (f : Channel Gatt.Notification → Channel Gatt.Notification) : World :=
  { w with notifications := w.notifications.modify number f }

def modifySightings (w : World) (number : Nat)
    (f : Channel Gatt.Advertisement → Channel Gatt.Advertisement) : World :=
  { w with sightings := w.sightings.modify number f }

/-- A peripheral pushes a notification: whether it reaches a stream. -/
def notify (w : World) (id : String) (n : Gatt.Notification) : Bool × World :=
  match (w.find? id).bind (·.notifier) with
  | none => (false, w)
  | some number =>
    match w.notifications[number]? with
    | none => (false, w)
    | some channel =>
      let (taken, channel) := channel.send n
      (taken, { w with notifications := w.notifications.set number channel })

/-- A peripheral pushes a notification so many times: how often it reaches a stream. -/
def notifyTimes (w : World) (id : String) (n : Gatt.Notification) : Nat → Nat × World
  | 0 => (0, w)
  | times + 1 =>
    let (taken, w) := w.notify id n
    let (count, w) := w.notifyTimes id n times
    ((if taken then count + 1 else count), w)

def dropLink (w : World) (id : String) : World :=
  match (w.find? id).bind (·.notifier) with
  | none => w
  | some number =>
    (w.modifyNotifications number (·.dropSender)).modify id fun p => { p with notifier := none }

/-- The adapter sees an advertisement: whether it reaches a stream. -/
def advertise (w : World) (adv : Gatt.Advertisement) : Bool × World :=
  match w.scanner with
  | none => (false, w)
  | some number =>
    match w.sightings[number]? with
    | none => (false, w)
    | some channel =>
      let (taken, channel) := channel.send adv
      (taken, { w with sightings := w.sightings.set number channel })

def dropScanner (w : World) : World :=
  match w.scanner with
  | none => w
  | some number => { w.modifySightings number (·.dropSender) with scanner := none }

def stopScan (w : World) : World :=
  { w.dropScanner with scansStopped := w.scansStopped + 1 }

/-- Starts a scan: its stream begins with every advertised peripheral. -/
def startScan (w : World) : World × Gatt.Answer :=
  let number := w.sightings.length
  let channel := w.advertisements.foldl (fun c adv => (c.send adv).2) (Channel.bounded 64)
  let w := w.dropScanner
  ({ w with
      sightings := w.sightings ++ [channel]
      scanner := some number
      scansStarted := w.scansStarted + 1 },
   .ok (.stream number))

/-- Opens the notifications of a peripheral, in place of an earlier stream. -/
def openNotifications (w : World) (id : String) : World × Gatt.Answer :=
  let number := w.notifications.length
  let w := w.dropLink id
  let w := { w with notifications := w.notifications ++ [Channel.bounded 1024] }
  (w.modify id fun p => { p with notifier := some number }, .ok (.stream number))

/-- Takes the oldest value off the mailbox; an empty one yields the empty value. -/
def readMailbox (w : World) (p : Peripheral) (characteristic : Uuid) : World × Gatt.Answer :=
  if p.disconnected then (w, .error .notConnected)
  else if characteristic ≠ Gatt.fromRadio then (w, .ok (.value []))
  else
    (w.modify p.id fun p => { p with mailbox := p.mailbox.drop 1 },
     .ok (.value (p.mailbox.head?.getD [])))

def completeWrite (w : World) (id : String) (written : Written) : World × Gatt.Answer :=
  let answers := ((w.find? id).map fun p => (p.responder.respond written.value).1).getD []
  let w := w.modify id fun p =>
    { p with
      written := p.written ++ [written]
      responder := (p.responder.respond written.value).2 }
  (answers.foldl (fun w b => (w.notify id ⟨Gatt.updateStatus, [b]⟩).2) w, .ok .nothing)

def complete (w : World) (p : Peripheral) : Gatt.Operation → World × Gatt.Answer
  | .write characteristic value kind => w.completeWrite p.id ⟨characteristic, value, kind⟩
  | _ => (w, .ok (.listed (p.services.map (·.1))))

def land (_ : World) (ticket : Ticket) (result : World × Gatt.Answer) : World :=
  { result.1 with landed := result.1.landed ++ [(ticket, result.2)] }

/-- Begins an operation that takes time; refused while another of its kind is under way. -/
def beginSlow (w : World) (ticket : Ticket) (p : Peripheral) (kind : OperationKind)
    (operation : Gatt.Operation) : World :=
  match p.slots.begin kind with
  | .error error => w.land ticket (w, .error error)
  | .ok (waiter, slots) =>
    match p.latency with
    | none => w.land ticket (w.complete p operation)
    | some latency =>
      let w := w.modify p.id fun p => { p with slots := slots }
      { w with
        flights := w.flights ++
          [⟨ticket, some p.id, operation, some waiter, some (w.now + latency)⟩] }

def beginOn (w : World) (ticket : Ticket) (p : Peripheral) (operation : Gatt.Operation) : World :=
  let done := w.land ticket
  match operation with
  | .discoverServices => w.beginSlow ticket p .discoverServices operation
  | .discoverCharacteristics service =>
    match p.services.lookup service with
    | some characteristics => done (w, .ok (.listed characteristics))
    | none => done (w, .error (.serviceMissing (toString service)))
  | .openNotifications => done (w.openNotifications p.id)
  | .subscribe characteristic =>
    done (w.modify p.id fun p => { p with subscribed := characteristic :: p.subscribed },
      .ok .nothing)
  | .unsubscribe characteristic =>
    done (w.modify p.id fun p =>
        { p with
          unsubscribes := p.unsubscribes + 1
          subscribed := p.subscribed.filter (· ≠ characteristic) },
      .ok .nothing)
  | .read characteristic => done (w.readMailbox p characteristic)
  | .write .. =>
    if p.disconnected then done (w, .error .notConnected)
    else if p.failsWrites then done (w, .error (.bluetooth "simulated write failure"))
    else w.beginSlow ticket p .write operation
  | .disconnect =>
    done ((w.modify p.id fun p => { p with disconnected := true }).dropLink p.id, .ok .nothing)
  | _ => done (w, .ok .nothing)

def connect (w : World) (id : String) : World × Gatt.Answer :=
  match w.peripherals.find? fun p => p.id = id && p.inRange with
  | some p =>
    (w.modify id fun p => { p with disconnected := false }, .ok (.peripheral p.writeLimit))
  | none => (w, .error (.deviceNotFound id))

def begin (w : World) (ticket : Ticket) (target : Option String) (operation : Gatt.Operation) :
    World :=
  match operation with
  | .powerOn => w.land ticket (w, .ok .nothing)
  | .scan _ => w.land ticket w.startScan
  | .stopScan => w.land ticket (w.stopScan, .ok .nothing)
  | .connect id => w.land ticket (w.connect id)
  | _ =>
    match target.bind w.find? with
    | some p => w.beginOn ticket p operation
    | none => w.land ticket (w, .error .notConnected)

def isAdapters : Gatt.Operation → Bool
  | .powerOn | .scan _ | .stopScan | .connect _ => true
  | _ => false

/-- The fault that an operation meets, and the world without it. -/
def meetFault (w : World) (target : Option String) (operation : Gatt.Operation) : Fault × World :=
  let name := operationName operation
  if isAdapters operation then
    let (fault, faults) := nextFault name w.faults
    (fault, { w with faults := faults })
  else
    match target.bind w.find? with
    | none => (.pass, w)
    | some p =>
      let (fault, faults) := nextFault name p.faults
      (fault, w.modify p.id fun p => { p with faults := faults })

/-- Asks for an operation: it is recorded, meets the next fault in store for it, and begins. -/
def ask (w : World) (ticket : Ticket) (target : Option String) (operation : Gatt.Operation) :
    World :=
  let (fault, w) := w.meetFault target operation
  let w := { w with record := w.record ++ [operation] }
  let held (due : Option Nat) : World :=
    { w with flights := w.flights ++ [⟨ticket, target, operation, none, due⟩] }
  match fault with
  | .pass => w.begin ticket target operation
  | .fail error => w.land ticket (w, .error error)
  | .hang => held none
  | .delay millis => held (some (w.now + millis))

def leaveSlot (w : World) (target : Option String) (waiter : Option Nat) : World :=
  match target, waiter with
  | some id, some number => w.modify id fun p => { p with slots := p.slots.leave number }
  | _, _ => w

def resume (w : World) (flight : Flight) : World :=
  match flight.waiter with
  | none => w.begin flight.ticket flight.target flight.operation
  | some _ =>
    match flight.target.bind w.find? with
    | some p =>
      (w.land flight.ticket (w.complete p flight.operation)).leaveSlot flight.target flight.waiter
    | none => w

/-- Gives an operation up: its answer will not come. -/
def giveUp (w : World) (ticket : Ticket) : World :=
  let (gone, flights) := w.flights.partition (·.ticket = ticket)
  let w := { w with flights := flights, landed := w.landed.filter (·.1 ≠ ticket) }
  gone.foldl (fun w flight => w.leaveSlot flight.target flight.waiter) w

def answer? (w : World) (ticket : Ticket) : Option Gatt.Answer :=
  w.landed.lookup ticket

/-- The world without the answer of a ticket. -/
def collect (w : World) (ticket : Ticket) : World :=
  { w with landed := w.landed.filter (·.1 ≠ ticket) }

def nextDue? (w : World) : Option Nat :=
  (w.flights.filterMap (·.due)).min?

/-- Sets the clock, and lets go on what is due. -/
def setClock (w : World) (now : Nat) : World :=
  let w := { w with now := now }
  let (due, flights) := w.flights.partition fun flight => flight.due.any (· ≤ now)
  due.foldl resume { w with flights := flights }

/-- What a stream of notifications holds ready. -/
def notification? (w : World) (number : Nat) : Option (Option Gatt.Notification × World) :=
  match w.notifications[number]? with
  | none => none
  | some channel =>
    match channel.receive with
    | (.value n, channel) =>
      some (some n, { w with notifications := w.notifications.set number channel })
    | (.ended, _) => some (none, w)
    | (.pending, _) => none

def sighting? (w : World) (number : Nat) : Option (Option Gatt.Advertisement × World) :=
  match w.sightings[number]? with
  | none => none
  | some channel =>
    match channel.receive with
    | (.value adv, channel) =>
      some (some adv, { w with sightings := w.sightings.set number channel })
    | (.ended, _) => some (none, w)
    | (.pending, _) => none

def takeRecord (w : World) : List Gatt.Operation × World :=
  (w.record, { w with record := [] })

end World

end RadioLink.Bench
