import RadioLink.Network

/-!
An updater over WiFi on a network. Its operations are answered at once; a run goes on until it ends
or waits for a device.
-/

set_option autoImplicit false

namespace RadioLink.Network

open Update (WifiUpdater)

structure Updating where
  network : Network
  updater : WifiUpdater
  result : Option (Except LinkError Unit)

namespace Updating

def start (network : Network) (settings : Config.WifiUpdate) : Updating :=
  ⟨network, .initial settings, none⟩

/-- Takes what the updater lets the others see. -/
private def takeOutput (b : Updating) : WifiUpdater.Output → Updating
  | .finished result => { b with result := some result }
  | _ => b

/-- The operation that is asked for, if one is. -/
private def asked? (outputs : List WifiUpdater.Output) : Option Update.NetOperation :=
  outputs.findSome? fun
    | .run operation => some operation
    | _ => none

/-- Answers operations one behind the other, as long as one is asked for and at most so many. -/
private def perform (b : Updating) : Nat → List WifiUpdater.Output → Updating
  | 0, _ => b
  | fuel + 1, outputs =>
    let b := outputs.foldl takeOutput b
    match asked? outputs with
    | none => b
    | some operation =>
      let (updater, outputs) := b.updater.step (.answer (b.network.answer operation))
      { b with updater := updater }.perform fuel outputs

/-- Something happens to the updater, and the operations that follow are answered. A run asks for
as many operations as its image has chunks, and a few more. -/
private def act (b : Updating) (action : WifiUpdater.Action) : Updating :=
  let (updater, outputs) := b.updater.step action
  let image := (updater.run.map (·.image)).getD []
  { b with updater := updater }.perform (image.length + 10) outputs

def run (b : Updating) (host : String) (image : Bytes) (password : Option String) :
    Updating :=
  { b with result := none }.act (.start host image password)

/-- Starts a run and waits for its result, past the time allowed for a device that stays silent. The
result of an earlier run stays what it was. -/
def runToEnd (b : Updating) (host : String) (image : Bytes) (password : Option String) :
    Except LinkError Unit × Updating :=
  let ended := (b.run host image password).act .timeout
  (ended.result.getD (.error .timeout), { ended with result := b.result })

def cancel (b : Updating) : Except LinkError Unit × Updating :=
  (b.updater.session.cancel.1, (b.act .cancel).act .noticeCancel)

def abort (b : Updating) : Updating :=
  { b.act .drop with result := none }

end Updating

end RadioLink.Network
