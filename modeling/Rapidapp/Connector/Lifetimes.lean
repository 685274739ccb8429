import Rapidapp.Connector.FinMessages

/-!
# Uses of a frontend connection that was destroyed

A `ConnectorSession` lies in the user context of its `EasyNet` and is freed with it, and it
holds the pointer its connection is destroyed through: `DestroyFrontEnd(&net_stub_)` ends with
`*net = NULL`, a write to the session that has just been freed.

The handlers of `server/connector/connector_session.cpp` and `connector_app.cpp` are written
here once more with a record of every use of a frontend connection. Without the record they are
the handlers of `Connector/Session` and `Connector/App` (`erase_onRecvFrontEnd`,
`erase_onRecvBackEnd`).
-/

namespace Rapidapp.Connector

open World ConnectorSession

/-- What is used of a connection: its `EasyNet`, the session in its user context, or it is
deleted. -/
inductive Part where
  | net
  | session
  | delete
  deriving DecidableEq, Repr

/-- One use of a connection, and whether what is used was there. -/
structure Use where
  part : Part
  net : NetPtr
  live : Bool
  deriving DecidableEq, Repr

/-- The state with the uses so far, which no code reads. -/
structure Watch where
  world : ConnectorWorld
  uses : List Use

namespace Watch

/-- Whether that part of the connection is there. -/
def isLive (part : Part) (p : NetPtr) (w : ConnectorWorld) : Bool :=
  match part with
  | .session => (w.getUserContext p).isSome
  | .net | .delete => (w.heap.nets p).isSome

/-- The code reads or writes through the pointer, or deletes what it points to. -/
def use (part : Part) (p : NetPtr) (m : Watch) : Watch :=
  { m with uses := m.uses ++ [⟨part, p, isLive part p m.world⟩] }

/-- A use in one of the cases only. -/
def useIf (cond : Prop) [Decidable cond] (part : Part) (p : NetPtr) (m : Watch) : Watch :=
  if cond then m.use part p else m

/-- The program goes on in another state. -/
def goTo (m : Watch) (w : ConnectorWorld) : Watch := { m with world := w }

/-! ## The operations of the framework -/

/-- `SendToFrontEnd`: `net->Send`, for a message that is not empty. -/
def sendToFrontEnd (net : Option NetPtr) (buf : List UInt8) (m : Watch) : Int × Watch :=
  let m := match net with
    | none => m
    | some p => m.useIf (buf ≠ []) .net p
  match m.world.sendToFrontEnd net buf with
  | (ret, w) => (ret, m.goTo w)

/-- `GetNetIds`. -/
def getNetIds (net : Option NetPtr) (m : Watch) : Watch :=
  match net with
  | none => m
  | some p => m.use .net p

/-- `DestroyFrontEnd` through a pointer that is a variable of the caller: `RemoveHandler` looks at
the `bufferevent` and deletes the `EasyNet`. -/
def destroyFrontEnd (p : NetPtr) (m : Watch) : Watch :=
  ((m.use .net p).use .delete p).goTo (m.world.destroyFrontEnd (some p))

/-- `DestroyFrontEnd(&net_stub_)` in the session of `p`: `net_stub_` is read, and it is set to null
once the connection is destroyed (`rapidapp_framework_imp.cpp:1356-1367`). -/
def destroyNetStub (p : NetPtr) (s : ConnectorSession) (m : Watch) : Watch :=
  let m := m.use .session p
  match s.netStub with
  | none => m
  | some q => (m.destroyFrontEnd q).use .session p

variable (pb : Protobuf)

/-! ## The session -/

/-- `ConnectorSession::SerializeAndSendToFrontEnd` (`connector_session.cpp:157-174`). -/
def serializeAndSendToFrontEnd (p : NetPtr) (s : ConnectorSession) (msg : CSMsg) (m : Watch) :
    Int × Watch :=
  match (m.use .session p).sendToFrontEnd s.netStub (pb.serializeCSMsg msg) with
  | (ret, m) => if ret ≠ 0 then (-1, m.destroyNetStub p s) else (0, m)

/-- `ConnectorSession::StartToBackEnd` (`connector_session.cpp:176-220`). -/
def startToBackEnd (p : NetPtr) (s : ConnectorSession) (backNet : Option NetPtr) (m : Watch) :
    Int × Watch :=
  let m := m.use .session p
  if s.frameStub = false then (-1, m)
  else
    match backNet with
    | none => (-1, m)
    | some q =>
      let m := (m.use .session p).getNetIds s.netStub
      match m.world.sendToBackEnd (some q) (pb.serializeSSMsg (s.startMsg m.world)) with
      | (ret, w) =>
        let m := m.goTo w
        -- the log line reads `net_stub_->uri()`
        if ret ≠ 0 then (-1, (m.use .session p).getNetIds s.netStub) else (0, m)

/-- The common form of `HandleKeyMaking`, `HandleAuthRequest` and `HandShake_OnStartAcked`. -/
def answerFrontEnd (p : NetPtr) (s : ConnectorSession) (msg : CSMsg) (state : SessionState)
    (m : Watch) : Int × Watch :=
  match m.serializeAndSendToFrontEnd pb p s msg with
  | (ret, m) =>
    if ret ≠ 0 then (-1, m) else (0, (m.use .session p).goTo (setState p state m.world))

/-- `ConnectorSession::HandShake_StartSession` (`connector_session.cpp:325-343`). -/
def handShakeStartSession (p : NetPtr) (s : ConnectorSession) (m : Watch) : Int × Watch :=
  let (backNet, backEnds) := m.world.app.next
  match (m.goTo { m.world with app := backEnds }).startToBackEnd pb p s backNet with
  | (ret, m) =>
    if ret ≠ 0 then (-1, m) else (0, (m.use .session p).goTo (setState p .stateSynack m.world))

/-- `ConnectorSession::HandShake_OnStopNotify` (`connector_session.cpp:379-386`); the log line reads
`net_stub_->uri()`. -/
def handShakeOnStopNotify (p : NetPtr) (s : ConnectorSession) (m : Watch) : Int × Watch :=
  (0, ((m.use .session p).getNetIds s.netStub).destroyNetStub p s)

/-- `ConnectorSession::DriveStateMachine` (`connector_session.cpp:49-81`). -/
def driveStateMachine (p : NetPtr) (m : Watch) : Int × Watch :=
  let m := m.use .session p
  match m.world.getUserContext p with
  | none => (-1, m)
  | some s =>
    match s.state with
    | .stateInit => m.answerFrontEnd pb p s keyMakingMsg .stateAuth
    | .stateAuth => m.answerFrontEnd pb p s authMsg .stateSyning
    | .stateSyning => m.handShakeStartSession pb p s
    | .stateSynack => m.answerFrontEnd pb p s startAckedMsg .stateOk
    | .stateOk => m.handShakeOnStopNotify p s

/-- `ConnectorSession::ForwardUpSideMessage` (`connector_session.cpp:84-104`). -/
def forwardUpSideMessage (p : NetPtr) (s : ConnectorSession) (sequence : UInt64)
    (data : List UInt8) (m : Watch) : Int × Watch :=
  let m := ((m.use .session p).getNetIds s.netStub).use .session p
  match Connector.forwardUpSideMessage pb s sequence data m.world with
  | (ret, w) => (ret, m.goTo w)

/-- `ConnectorSession::ForwardDownSideMessage` (`connector_session.cpp:107-136`). -/
def forwardDownSideMessage (p : NetPtr) (s : ConnectorSession) (sequence : UInt64)
    (data : List UInt8) (m : Watch) : Int × Watch :=
  if data = [] then (-1, m)
  else
    match (m.use .session p).sendToFrontEnd s.netStub
      (pb.serializeCSMsg (downSideMsg sequence data)) with
    | (ret, m) => if ret ≠ 0 then (-1, m) else (0, m)

/-! ## The callbacks -/

variable (c : ConnectorApp)

/-- The branch of `OnRecvFrontEnd` for a session that is not ready
(`connector_app.cpp:246-268`). -/
def handshakeFrontEnd (net : NetPtr) (m : Watch) : Int × Watch :=
  match m.driveStateMachine c.pb net with
  | (ret, m) =>
    if ret < 0 then (-1, m.destroyFrontEnd net)
    else
      let m := m.use .session net
      if ConnectorApp.sessionState net m.world = .stateSyning then
        match m.driveStateMachine c.pb net with
        | (ret, m) => if ret < 0 then (-1, m.destroyFrontEnd net) else (0, m)
      else (0, m)

/-- `ConnectorApp::OnRecvFrontEnd` (`connector_app.cpp:219-284`). -/
def onRecvFrontEnd (net : NetPtr) (msg : List UInt8) (size : Nat) (m : Watch) : Int × Watch :=
  let m := m.use .net net
  match m.world.getUserContext net with
  | none => (-1, m)
  | some s =>
    let upMsg := c.pb.parseCSMsg msg size
    let m := m.use .session net
    match s.checkUpSideMessage upMsg with
    | (ret, s) =>
      if ret ≠ 0 then (-1, m)
      else
        let m := (m.goTo (m.world.setUserContext net s)).use .session net
        if ¬ s.beenReady then m.handshakeFrontEnd c net
        else if upMsg.head.bodyid ≠ CSBodyCmdId.dataTransparent.value then (-1, m)
        else
          m.forwardUpSideMessage c.pb net s upMsg.head.sequence.toUInt64
            (upMsg.body.data.getD [])

/-- What `OnRecvBackEnd` does with a message for the session of a frontend
(`connector_app.cpp:314-360`). -/
def relayToFrontEnd (frontNet : NetPtr) (s : ConnectorSession) (downMsg : SSMsg) (m : Watch) :
    Int × Watch :=
  if downMsg.head.bodyid ≠ SSBodyCmdId.data.value then
    let m := m.useIf (downMsg.head.bodyid ≠ SSBodyCmdId.fin.value) .session frontNet
    if downMsg.head.bodyid ≠ SSBodyCmdId.fin.value ∧ s.state = .stateOk then (0, m)
    else
      match m.driveStateMachine c.pb frontNet with
      | (ret, m) =>
        if ret < 0 then (-1, m.destroyFrontEnd frontNet)
        else
          (0, (m.use .session frontNet).goTo
            (ConnectorApp.setSid frontNet downMsg.head.session.sid m.world))
  else
    let m := m.useIf (c.debug = false) .session frontNet
    if c.debug = false ∧ s.state ≠ .stateOk then (-1, m.destroyFrontEnd frontNet)
    else if c.debug = false ∧ s.sid ≠ downMsg.head.session.sid then
      (-1, m.destroyFrontEnd frontNet)
    else
      m.forwardDownSideMessage c.pb frontNet s downMsg.head.sequence.toUInt64
        (downMsg.body.data.getD [])

/-- `ConnectorApp::OnRecvBackEnd` (`connector_app.cpp:286-361`). `GetFrontEndByAsyncIds` reads the
`nid` of the connection it finds. -/
def onRecvBackEnd (msg : List UInt8) (size : Nat) (m : Watch) : Int × Watch :=
  let downMsg := c.pb.parseSSMsg msg size
  let ids := downMsg.head.session
  match m.world.getFrontEndByAsyncIds ids.fd.toNat ids.nid.toNat with
  | none => (-1, m)
  | some frontNet =>
    let m := (m.use .net frontNet).use .net frontNet
    match m.world.getUserContext frontNet with
    | none => (-1, m)
    | some s => m.relayToFrontEnd c frontNet s downMsg

/-! ## Without the record -/

/-- The result without the record. -/
def erase (r : Int × Watch) : Int × ConnectorWorld := (r.1, r.2.world)

@[simp] theorem world_use (part : Part) (p : NetPtr) (m : Watch) : (m.use part p).world = m.world :=
  rfl

@[simp] theorem world_useIf (cond : Prop) [Decidable cond] (part : Part) (p : NetPtr) (m : Watch) :
    (m.useIf cond part p).world = m.world := by
  rw [useIf]
  split <;> rfl

@[simp] theorem world_goTo (m : Watch) (w : ConnectorWorld) : (m.goTo w).world = w := rfl

@[simp] theorem world_getNetIds (net : Option NetPtr) (m : Watch) :
    (m.getNetIds net).world = m.world := by
  cases net <;> rfl

@[simp] theorem world_destroyFrontEnd (p : NetPtr) (m : Watch) :
    (m.destroyFrontEnd p).world = m.world.destroyFrontEnd (some p) := rfl

@[simp] theorem world_destroyNetStub (p : NetPtr) (s : ConnectorSession) (m : Watch) :
    (m.destroyNetStub p s).world = m.world.destroyFrontEnd s.netStub := by
  rw [destroyNetStub]
  cases s.netStub <;> rfl

theorem erase_sendToFrontEnd (net : Option NetPtr) (buf : List UInt8) (m : Watch) :
    erase (m.sendToFrontEnd net buf) = m.world.sendToFrontEnd net buf := by
  cases net <;> simp [erase, sendToFrontEnd]

theorem erase_serializeAndSendToFrontEnd (p : NetPtr) (s : ConnectorSession) (msg : CSMsg)
    (m : Watch) : erase (m.serializeAndSendToFrontEnd pb p s msg) =
      Connector.serializeAndSendToFrontEnd pb s msg m.world := by
  have hsend := erase_sendToFrontEnd s.netStub (pb.serializeCSMsg msg) (m.use .session p)
  unfold serializeAndSendToFrontEnd Connector.serializeAndSendToFrontEnd
  rw [world_use] at hsend
  rw [← hsend]
  rcases (m.use .session p).sendToFrontEnd s.netStub (pb.serializeCSMsg msg) with ⟨ret, m₁⟩
  dsimp only [erase]
  split_ifs <;> simp

theorem erase_answerFrontEnd (p : NetPtr) (s : ConnectorSession) (msg : CSMsg)
    (state : SessionState) (m : Watch) : erase (m.answerFrontEnd pb p s msg state) =
      Connector.answerFrontEnd pb p s msg state m.world := by
  have hsend := erase_serializeAndSendToFrontEnd pb p s msg m
  unfold answerFrontEnd Connector.answerFrontEnd
  rw [← hsend]
  rcases m.serializeAndSendToFrontEnd pb p s msg with ⟨ret, m₁⟩
  dsimp only [erase]
  split_ifs <;> rfl

theorem erase_startToBackEnd (p : NetPtr) (s : ConnectorSession) (backNet : Option NetPtr)
    (m : Watch) : erase (m.startToBackEnd pb p s backNet) =
      Connector.startToBackEnd pb s backNet m.world := by
  unfold startToBackEnd Connector.startToBackEnd
  cases hstub : s.frameStub with
  | false => rfl
  | true =>
    cases backNet with
    | none => rfl
    | some q =>
      simp only [Bool.true_eq_false, if_false, world_getNetIds, world_use]
      rcases m.world.sendToBackEnd (some q) (pb.serializeSSMsg (s.startMsg m.world))
        with ⟨ret, w⟩
      dsimp only [erase]
      split_ifs <;> simp

theorem erase_handShakeStartSession (p : NetPtr) (s : ConnectorSession) (m : Watch) :
    erase (m.handShakeStartSession pb p s) = Connector.handShakeStartSession pb p s m.world := by
  have hstart := erase_startToBackEnd pb p s m.world.app.next.1
    (m.goTo { m.world with app := m.world.app.next.2 })
  simp only [handShakeStartSession, Connector.handShakeStartSession]
  rw [world_goTo] at hstart
  rw [← hstart]
  rcases (m.goTo { m.world with app := m.world.app.next.2 }).startToBackEnd pb p s
    m.world.app.next.1 with ⟨ret, m₁⟩
  by_cases hret : ret = 0 <;> simp [erase, hret]

theorem erase_driveStateMachine (p : NetPtr) (m : Watch) :
    erase (m.driveStateMachine pb p) = Connector.driveStateMachine pb p m.world := by
  unfold driveStateMachine Connector.driveStateMachine
  simp only [world_use]
  cases m.world.getUserContext p with
  | none => rfl
  | some s =>
    dsimp only
    cases hst : s.state with
    | stateInit => exact erase_answerFrontEnd pb p s _ _ _
    | stateAuth => exact erase_answerFrontEnd pb p s _ _ _
    | stateSyning => exact erase_handShakeStartSession pb p s _
    | stateSynack => exact erase_answerFrontEnd pb p s _ _ _
    | stateOk => simp [erase, handShakeOnStopNotify, Connector.handShakeOnStopNotify]

theorem erase_forwardUpSideMessage (p : NetPtr) (s : ConnectorSession) (sequence : UInt64)
    (data : List UInt8) (m : Watch) : erase (m.forwardUpSideMessage pb p s sequence data) =
      Connector.forwardUpSideMessage pb s sequence data m.world := by
  simp [erase, forwardUpSideMessage]

theorem erase_forwardDownSideMessage (p : NetPtr) (s : ConnectorSession) (sequence : UInt64)
    (data : List UInt8) (m : Watch) : erase (m.forwardDownSideMessage pb p s sequence data) =
      Connector.forwardDownSideMessage pb s sequence data m.world := by
  have hsend := erase_sendToFrontEnd s.netStub (pb.serializeCSMsg (downSideMsg sequence data))
    (m.use .session p)
  unfold forwardDownSideMessage Connector.forwardDownSideMessage
  rw [world_use] at hsend
  rw [← hsend]
  rcases (m.use .session p).sendToFrontEnd s.netStub
    (pb.serializeCSMsg (downSideMsg sequence data)) with ⟨ret, m₁⟩
  dsimp only [erase]
  split_ifs <;> rfl

theorem erase_handshakeFrontEnd (net : NetPtr) (m : Watch) :
    erase (m.handshakeFrontEnd c net) = c.handshakeFrontEnd net m.world := by
  have hdrive := erase_driveStateMachine c.pb net m
  unfold handshakeFrontEnd ConnectorApp.handshakeFrontEnd
  rw [← hdrive]
  rcases m.driveStateMachine c.pb net with ⟨ret, m₁⟩
  have hagain := erase_driveStateMachine c.pb net (m₁.use .session net)
  rw [world_use] at hagain
  dsimp only [erase, world_use] at hagain ⊢
  rw [← hagain]
  rcases (m₁.use .session net).driveStateMachine c.pb net with ⟨ret', m₂⟩
  dsimp only
  by_cases hret : ret < 0
  · simp [hret]
  by_cases hstate : ConnectorApp.sessionState net m₁.world = .stateSyning
  · by_cases hret' : ret' < 0 <;> simp [hret, hstate, hret']
  · simp [hret, hstate]

theorem erase_onRecvFrontEnd (net : NetPtr) (msg : List UInt8) (size : Nat) (m : Watch) :
    erase (m.onRecvFrontEnd c net msg size) = c.onRecvFrontEnd net msg size m.world := by
  unfold onRecvFrontEnd ConnectorApp.onRecvFrontEnd
  simp only [world_use]
  cases m.world.getUserContext net with
  | none => rfl
  | some s =>
    dsimp only
    generalize s.checkUpSideMessage (c.pb.parseCSMsg msg size) = r
    rcases r with ⟨ret, s₁⟩
    by_cases hret : ret = 0
    · by_cases hready : s₁.beenReady = true
      · simp only [hret, hready, ne_eq, not_true, if_false]
        split_ifs
        · exact erase_forwardUpSideMessage c.pb net s₁ _ _ _
        · rfl
      · simp only [hret, hready, ne_eq, not_true, if_false]
        exact erase_handshakeFrontEnd c net _
    · simp only [hret, ne_eq, not_false_eq_true, if_true]
      rfl

theorem erase_relayToFrontEnd (frontNet : NetPtr) (s : ConnectorSession) (downMsg : SSMsg)
    (m : Watch) : erase (m.relayToFrontEnd c frontNet s downMsg) =
      c.relayToFrontEnd frontNet s downMsg m.world := by
  unfold relayToFrontEnd ConnectorApp.relayToFrontEnd
  have hdrive := erase_driveStateMachine c.pb frontNet
    (m.useIf (downMsg.head.bodyid ≠ SSBodyCmdId.fin.value) .session frontNet)
  have hforward := erase_forwardDownSideMessage c.pb frontNet s
    downMsg.head.sequence.toUInt64 (downMsg.body.data.getD [])
    (m.useIf (c.debug = false) .session frontNet)
  rw [world_useIf] at hdrive hforward
  rw [← hdrive, ← hforward]
  dsimp only
  by_cases hdata : downMsg.head.bodyid = SSBodyCmdId.data.value
  · simp only [hdata, ne_eq, not_true, if_false]
    by_cases hstate : c.debug = false ∧ ¬ s.state = .stateOk
    · simp [erase, hstate]
    by_cases hsid : c.debug = false ∧ ¬ s.sid = downMsg.head.session.sid
    · simp [erase, hsid]
    · simp only [hstate, hsid, if_false]
  · simp only [hdata, ne_eq, not_false_eq_true, if_true]
    by_cases hready : ¬ downMsg.head.bodyid = SSBodyCmdId.fin.value ∧ s.state = .stateOk
    · simp [erase, hready]
    · simp only [hready, if_false]
      rcases (m.useIf (downMsg.head.bodyid ≠ SSBodyCmdId.fin.value) .session
        frontNet).driveStateMachine c.pb frontNet with ⟨ret, m₁⟩
      by_cases hret : ret < 0 <;> simp [erase, hret]

theorem erase_onRecvBackEnd (msg : List UInt8) (size : Nat) (m : Watch) :
    erase (m.onRecvBackEnd c msg size) = c.onRecvBackEnd msg size m.world := by
  unfold onRecvBackEnd ConnectorApp.onRecvBackEnd
  dsimp only
  cases m.world.getFrontEndByAsyncIds (c.pb.parseSSMsg msg size).head.session.fd.toNat
      (c.pb.parseSSMsg msg size).head.session.nid.toNat with
  | none => rfl
  | some p =>
    simp only [world_use]
    cases m.world.getUserContext p with
    | none => rfl
    | some s => exact erase_relayToFrontEnd c p s _ _

end Watch

end Rapidapp.Connector
