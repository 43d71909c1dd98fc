import RadioLink.Proofs.Update.Sessions
import RadioLink.Update.WifiUpdater

/-!
What an updater over WiFi does, said once: every step is one of a list of moves.
-/

set_option autoImplicit false
set_option relaxedAutoImplicit false

namespace RadioLink.Update

def WifiStage.isTransfer : WifiStage → Bool
  | .sending .. | .flushing | .settling | .closing => true
  | _ => false

namespace WifiUpdater

def runEach (u : WifiUpdater) (actions : List Action) : WifiUpdater × List Output :=
  actEach step u actions

inductive Fails (u : WifiUpdater) (run : WifiRun) : Action → LinkError → List Output → Prop
  | operation (error : SystemError)
      (stage : ∀ base current sending, run.stage ≠ .inviting base current sending ∧
        run.stage ≠ .accepting ∧ run.stage ≠ .settling ∧ run.stage ≠ .closing) :
      Fails u run (.answer (.error error)) (.system error) []
  | unresolved (stage : run.stage = .resolving) :
      Fails u run (.answer (.ok .noAddress)) (.connectionFailed ("cannot resolve " ++ run.host)) []
  | invitation {base current sending : Invitation} (error : SystemError)
      (stage : run.stage = .inviting base current (some sending))
      (other : error.isRefusal = false) :
      Fails u run (.invite (.error error)) (.system error) [.send sending.toBytes]
  | datagram {base current : Invitation} {sending : Option Invitation} (error : SystemError)
      (stage : run.stage = .inviting base current sending) (other : error.isRefusal = false) :
      Fails u run (.datagram (.error error)) (.system error) []
  | challenged {base current : Invitation} {sending : Option Invitation} {data : Bytes}
      {nonce : String} (stage : run.stage = .inviting base current sending)
      (reply : Reply.ofBytes (data.take datagramLimit) = .challenge nonce)
      (open_ : run.password = none) :
      Fails u run (.datagram (.ok data)) .authenticationRequired []
  | accepted (error : SystemError) (stage : run.stage = .accepting) :
      Fails u run (.accepted (.error error)) (.system error) []
  | unanswered {base current : Invitation} {sending : Option Invitation}
      (stage : run.stage = .inviting base current sending) :
      Fails u run .timeout (.handshakeTimeout u.settings.handshakeTimeout.toMillis) []
  | unconnected (stage : run.stage = .accepting) :
      Fails u run .timeout (.connectionTimeout u.settings.acceptTimeout.toMillis) []
  | cancelled (requested : u.session.cancelRequested = true)
      (stage : (∃ base current sending, run.stage = .inviting base current sending) ∨
        run.stage = .accepting) :
      Fails u run .noticeCancel .cancelled []

/-- All that a step of an updater can be. -/
inductive Moves : WifiUpdater → Action → WifiUpdater → List Output → Prop
  | idle (u : WifiUpdater) (action : Action) : Moves u action u []
  | refuse {u : WifiUpdater} (host : String) (image : Bytes) (password : Option String)
      (running : u.session.running = true) :
      Moves u (.start host image password) u [.finished (.error .updateInProgress)]
  | begin {u : WifiUpdater} (host : String) {image : Bytes} (password : Option String)
      (idle : u.session.running = false) (nonempty : image ≠ []) :
      Moves u (.start host image password)
        { u with session := .claimed, run := some ⟨image, password, host, .resolving⟩ }
        [.run (.resolve host u.settings.devicePort)]
  | reject {u : WifiUpdater} (host : String) (password : Option String)
      (idle : u.session.running = false) :
      Moves u (.start host [] password)
        ({ u with session := .claimed }.finish (.error (.invalidFirmware "image is empty"))).1
        [.finished (.error (.invalidFirmware "image is empty"))]
  | cancel (u : WifiUpdater) :
      Moves u .cancel { u with session := u.session.cancel.2 } [.cancelled u.session.cancel.1]
  | drop {u : WifiUpdater} {run : WifiRun} (current : u.run = some run) :
      Moves u .drop { u with session := u.session.release, run := none } []
  | listen {u : WifiUpdater} {run : WifiRun} {yielded : NetYield} (current : u.run = some run)
      (stage : run.stage = .resolving) (resolved : yielded ≠ .noAddress) :
      Moves u (.answer (.ok yielded)) (u.enter run .openingPort)
        [.run (.listen u.settings.bindAddress)]
  | openDatagrams {u : WifiUpdater} {run : WifiRun} (port : UInt16) (current : u.run = some run)
      (stage : run.stage = .openingPort) :
      Moves u (.answer (.ok (.port port)))
        ((u.present .waitingForConnection "Waiting for device. This can take a while...").enter run
          (.openingDatagrams (.flash port run.image.length (md5Hex run.image))))
        [.run .openDatagrams]
  | opened {u : WifiUpdater} {run : WifiRun} {base : Invitation} (yielded : NetYield)
      (current : u.run = some run) (stage : run.stage = .openingDatagrams base) :
      Moves u (.answer (.ok yielded)) (u.enter run (.inviting base base none)) []
  | compose {u : WifiUpdater} {run : WifiRun} {base invitation : Invitation}
      (current : u.run = some run) (stage : run.stage = .inviting base invitation none) :
      Moves u .compose (u.enter run (.inviting base invitation (some invitation))) []
  | invite {u : WifiUpdater} {run : WifiRun} {base invitation sending : Invitation}
      {result : Except SystemError Unit} (current : u.run = some run)
      (stage : run.stage = .inviting base invitation (some sending))
      (sent : ∀ error, result = .error error → error.isRefusal = true) :
      Moves u (.invite result) (u.enter run (.inviting base invitation none))
        [.send sending.toBytes]
  | answerChallenge {u : WifiUpdater} {run : WifiRun} {base invitation : Invitation}
      {sending : Option Invitation} {data : Bytes} {nonce password : String}
      (current : u.run = some run) (stage : run.stage = .inviting base invitation sending)
      (reply : Reply.ofBytes (data.take datagramLimit) = .challenge nonce)
      (secret : run.password = some password) :
      Moves u (.datagram (.ok data))
        (u.enter run
          (.inviting base (base.withAnswer (challengeAnswer password nonce)) sending)) []
  | prepare {u : WifiUpdater} {run : WifiRun} {base invitation : Invitation}
      {sending : Option Invitation} {data : Bytes} (current : u.run = some run)
      (stage : run.stage = .inviting base invitation sending)
      (reply : Reply.ofBytes (data.take datagramLimit) = .erasing) :
      Moves u (.datagram (.ok data))
        ((u.present .preparing "Preparing flash partition...").enter run
          (.inviting base invitation sending)) []
  | accept {u : WifiUpdater} {run : WifiRun} {base invitation : Invitation}
      {sending : Option Invitation} {data : Bytes} (current : u.run = some run)
      (stage : run.stage = .inviting base invitation sending)
      (reply : Reply.ofBytes (data.take datagramLimit) = .accepted) :
      Moves u (.datagram (.ok data))
        ((u.present .connected "Device accepted the update").enter run .accepting) []
  | connect {u : WifiUpdater} {run : WifiRun} (current : u.run = some run)
      (stage : run.stage = .accepting) :
      Moves u (.accepted (.ok ())) (u.enter run .tuning) [.run .sendAtOnce]
  /-- The device is connected, and the image is on its way. -/
  | transfer {u : WifiUpdater} {run : WifiRun} (yielded : NetYield) (current : u.run = some run)
      (stage : run.stage = .tuning) :
      Moves u (.answer (.ok yielded)) (u.transfer run).1 (u.transfer run).2
  | chunkWritten {u : WifiUpdater} {run : WifiRun} {chunk : Bytes} {rest : List Bytes}
      {index sent : Nat} (yielded : NetYield) (current : u.run = some run)
      (stage : run.stage = .sending chunk rest index sent) :
      Moves u (.answer (.ok yielded)) (u.chunkWritten run index (sent + chunk.length) rest).1
        (u.chunkWritten run index (sent + chunk.length) rest).2
  | imageSent {u : WifiUpdater} {run : WifiRun} (yielded : NetYield) (current : u.run = some run)
      (stage : run.stage = .flushing) :
      Moves u (.answer (.ok yielded)) (u.imageSent run).1 []
  | close {u : WifiUpdater} {run : WifiRun} (current : u.run = some run)
      (stage : run.stage = .settling) :
      Moves u .settled (u.enter run .closing) [.run .shutdown]
  | complete {u : WifiUpdater} {run : WifiRun} (answer : Except SystemError NetYield)
      (current : u.run = some run) (stage : run.stage = .closing) :
      Moves u (.answer answer) (u.finish (.ok ())).1 [.finished (.ok ())]
  | fail {u : WifiUpdater} {run : WifiRun} {action : Action} {error : LinkError}
      {before : List Output} (current : u.run = some run)
      (fails : Fails u run action error before) :
      Moves u action (u.finish (.error error)).1 (before ++ [.finished (.error error)])

private theorem moves_yield (settings : Config.WifiUpdate) (session : Session) (image : Bytes)
    (password : Option String) (host : String) (stage : WifiStage) (yielded : NetYield) :
    let u : WifiUpdater := ⟨settings, session, some ⟨image, password, host, stage⟩⟩
    Moves u (.answer (.ok yielded)) (u.step (.answer (.ok yielded))).1
      (u.step (.answer (.ok yielded))).2 := by
  intro u
  have current : u.run = some ⟨image, password, host, stage⟩ := rfl
  cases stage with
  | resolving =>
    cases yielded with
    | noAddress => exact (Moves.fail current (.unresolved rfl) :)
    | nothing | port => exact .listen current rfl nofun
  | openingPort =>
    cases yielded with
    | port number => exact .openDatagrams number current rfl
    | nothing | noAddress => exact .idle _ _
  | openingDatagrams base => exact .opened yielded current rfl
  | inviting | accepting | settling => exact .idle _ _
  | tuning => exact .transfer yielded current rfl
  | sending chunk rest index sent => exact .chunkWritten yielded current rfl
  | flushing => exact .imageSent yielded current rfl
  | closing => exact .complete _ current rfl

private theorem moves_failure (settings : Config.WifiUpdate) (session : Session) (image : Bytes)
    (password : Option String) (host : String) (stage : WifiStage) (error : SystemError) :
    let u : WifiUpdater := ⟨settings, session, some ⟨image, password, host, stage⟩⟩
    Moves u (.answer (.error error)) (u.step (.answer (.error error))).1
      (u.step (.answer (.error error))).2 := by
  intro u
  have current : u.run = some ⟨image, password, host, stage⟩ := rfl
  cases stage with
  | inviting | accepting | settling => exact .idle _ _
  | closing => exact .complete _ current rfl
  | _ => exact (Moves.fail current (.operation error fun _ _ _ => ⟨nofun, nofun, nofun, nofun⟩) :)

private theorem moves_datagram (settings : Config.WifiUpdate) (session : Session) (image : Bytes)
    (password : Option String) (host : String) (base invitation : Invitation)
    (sending : Option Invitation) (received : Except SystemError Bytes) :
    let u : WifiUpdater :=
      ⟨settings, session, some ⟨image, password, host, .inviting base invitation sending⟩⟩
    Moves u (.datagram received) (u.step (.datagram received)).1
      (u.step (.datagram received)).2 := by
  intro u
  have current : u.run = some ⟨image, password, host, .inviting base invitation sending⟩ := rfl
  cases received with
  | error error =>
    cases hrefusal : error.isRefusal with
    | true =>
      simp only [u, step, stepRun, Option.elim_some, hrefusal, if_true]
      exact .idle _ _
    | false =>
      simp only [u, step, stepRun, Option.elim_some, hrefusal, Bool.false_eq_true, if_false]
      exact (Moves.fail current (.datagram error rfl hrefusal) :)
  | ok data =>
    cases hreply : Reply.ofBytes (data.take datagramLimit) with
    | accepted =>
      simp only [u, step, stepRun, Option.elim_some, hear, hreply]
      exact .accept current rfl hreply
    | erasing =>
      simp only [u, step, stepRun, Option.elim_some, hear, hreply]
      exact .prepare current rfl hreply
    | other text =>
      simp only [u, step, stepRun, Option.elim_some, hear, hreply]
      exact .idle _ _
    | challenge nonce =>
      cases password with
      | none =>
        simp only [u, step, stepRun, Option.elim_some, hear, hreply]
        exact (Moves.fail current (.challenged rfl hreply rfl) :)
      | some password =>
        simp only [u, step, stepRun, Option.elim_some, hear, hreply]
        exact .answerChallenge current rfl hreply rfl

private theorem moves_compose (settings : Config.WifiUpdate) (session : Session) (image : Bytes)
    (password : Option String) (host : String) (stage : WifiStage) :
    let u : WifiUpdater := ⟨settings, session, some ⟨image, password, host, stage⟩⟩
    Moves u .compose (u.step .compose).1 (u.step .compose).2 := by
  intro u
  have current : u.run = some ⟨image, password, host, stage⟩ := rfl
  cases stage with
  | inviting base invitation sending =>
    cases sending with
    | none => exact .compose current rfl
    | some sending => exact .idle _ _
  | _ => exact .idle _ _

private theorem moves_invite (settings : Config.WifiUpdate) (session : Session) (image : Bytes)
    (password : Option String) (host : String) (base invitation sending : Invitation)
    (result : Except SystemError Unit) :
    let u : WifiUpdater :=
      ⟨settings, session, some ⟨image, password, host, .inviting base invitation (some sending)⟩⟩
    Moves u (.invite result) (u.step (.invite result)).1 (u.step (.invite result)).2 := by
  intro u
  have current : u.run =
      some ⟨image, password, host, .inviting base invitation (some sending)⟩ := rfl
  cases result with
  | ok => exact .invite current rfl nofun
  | error error =>
    cases hrefusal : error.isRefusal with
    | true =>
      simp only [u, step, stepRun, Option.elim_some, invited, hrefusal, if_true]
      refine .invite current rfl fun other heq => ?_
      cases heq
      exact hrefusal
    | false =>
      simp only [u, step, stepRun, Option.elim_some, invited, hrefusal, Bool.false_eq_true,
        if_false]
      exact (Moves.fail current (.invitation error rfl hrefusal) :)

private theorem moves_accepted (settings : Config.WifiUpdate) (session : Session) (image : Bytes)
    (password : Option String) (host : String) (stage : WifiStage)
    (result : Except SystemError Unit) :
    let u : WifiUpdater := ⟨settings, session, some ⟨image, password, host, stage⟩⟩
    Moves u (.accepted result) (u.step (.accepted result)).1 (u.step (.accepted result)).2 := by
  intro u
  have current : u.run = some ⟨image, password, host, stage⟩ := rfl
  cases stage with
  | accepting =>
    cases result with
    | ok => exact .connect current rfl
    | error error => exact (Moves.fail current (.accepted error rfl) :)
  | _ => exact .idle _ _

private theorem moves_timeout (settings : Config.WifiUpdate) (session : Session) (image : Bytes)
    (password : Option String) (host : String) (stage : WifiStage) :
    let u : WifiUpdater := ⟨settings, session, some ⟨image, password, host, stage⟩⟩
    Moves u .timeout (u.step .timeout).1 (u.step .timeout).2 := by
  intro u
  have current : u.run = some ⟨image, password, host, stage⟩ := rfl
  cases stage with
  | inviting => exact (Moves.fail current (.unanswered rfl) :)
  | accepting => exact (Moves.fail current (.unconnected rfl) :)
  | _ => exact .idle _ _

private theorem moves_noticeCancel (settings : Config.WifiUpdate) (session : Session)
    (image : Bytes) (password : Option String) (host : String) (stage : WifiStage) :
    let u : WifiUpdater := ⟨settings, session, some ⟨image, password, host, stage⟩⟩
    Moves u .noticeCancel (u.step .noticeCancel).1 (u.step .noticeCancel).2 := by
  intro u
  have current : u.run = some ⟨image, password, host, stage⟩ := rfl
  cases hrequested : session.cancelRequested with
  | false =>
    cases stage <;>
    · simp only [u, step, stepRun, Option.elim_some, hrequested]
      exact .idle _ _
  | true =>
    cases stage with
    | inviting base invitation sending =>
      simp only [u, step, stepRun, Option.elim_some, hrequested]
      exact (Moves.fail current
        (.cancelled hrequested (.inl ⟨base, invitation, sending, rfl⟩)) :)
    | accepting =>
      simp only [u, step, stepRun, Option.elim_some, hrequested]
      exact (Moves.fail current (.cancelled hrequested (.inr rfl)) :)
    | _ => exact .idle _ _

private theorem moves_start (u : WifiUpdater) (host : String) (image : Bytes)
    (password : Option String) :
    Moves u (.start host image password) (u.step (.start host image password)).1
      (u.step (.start host image password)).2 := by
  obtain ⟨settings, session, current⟩ := u
  cases hrunning : session.running with
  | true =>
    have hstart := Session.start_of_running hrunning
    simp only [step, WifiUpdater.start, hstart]
    exact .refuse host image password hrunning
  | false =>
    have hstart := Session.start_of_idle hrunning
    simp only [step, WifiUpdater.start, hstart]
    cases image with
    | nil => exact .reject host password hrunning
    | cons octet octets => exact .begin host password hrunning (List.cons_ne_nil _ _)

private theorem moves_run (settings : Config.WifiUpdate) (session : Session) (run : WifiRun)
    (action : Action) :
    let u : WifiUpdater := ⟨settings, session, some run⟩
    Moves u action (u.step action).1 (u.step action).2 := by
  intro u
  obtain ⟨image, password, host, stage⟩ := run
  cases action with
  | start host image password => exact moves_start u host image password
  | cancel => exact .cancel u
  | drop => exact @Moves.drop u _ rfl
  | answer answer =>
    cases answer with
    | ok yielded => exact moves_yield _ _ _ _ _ _ yielded
    | error error => exact moves_failure _ _ _ _ _ _ error
  | compose => exact moves_compose _ _ _ _ _ _
  | invite result =>
    cases stage with
    | inviting base invitation sending =>
      cases sending with
      | none => exact .idle _ _
      | some sending => exact moves_invite _ _ _ _ _ _ _ _ result
    | _ => exact .idle _ _
  | datagram received =>
    cases stage with
    | inviting => exact moves_datagram _ _ _ _ _ _ _ _ received
    | _ => exact .idle _ _
  | accepted result => exact moves_accepted _ _ _ _ _ _ result
  | timeout => exact moves_timeout _ _ _ _ _ _
  | settled =>
    cases stage with
    | settling => exact .close rfl rfl
    | _ => exact .idle _ _
  | noticeCancel => exact moves_noticeCancel _ _ _ _ _ _

theorem moves_step (u : WifiUpdater) (action : Action) :
    Moves u action (u.step action).1 (u.step action).2 := by
  obtain ⟨settings, session, current⟩ := u
  cases current with
  | some run => exact moves_run settings session run action
  | none =>
    cases action with
    | start host image password => exact moves_start _ host image password
    | cancel => exact .cancel _
    | _ => exact .idle _ _

theorem step_start {u : WifiUpdater} (idle : u.session.running = false) (host : String)
    {image : Bytes} (nonempty : image ≠ []) (password : Option String) :
    u.step (.start host image password) =
      ({ u with session := .claimed, run := some ⟨image, password, host, .resolving⟩ },
        [.run (.resolve host u.settings.devicePort)]) := by
  have hempty : image.isEmpty = false := by simpa using nonempty
  simp only [step, WifiUpdater.start, Session.start_of_idle idle, hempty]
  rfl

theorem runEach_cons (u : WifiUpdater) (action : Action) (actions : List Action) :
    u.runEach (action :: actions) =
      (((u.step action).1.runEach actions).1,
        (u.step action).2 ++ ((u.step action).1.runEach actions).2) :=
  rfl

end WifiUpdater

end RadioLink.Update
