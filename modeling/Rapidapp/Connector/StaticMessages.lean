import Rapidapp.Connector.LifetimeRuns
import Rapidapp.Connector.MessageObjects

/-!
# The static messages of the connector

The handlers of `server/connector/connector_session.cpp` and `connector_app.cpp` once more, with
the message objects they keep from one call to the next. What they hand to the framework is what
`Connector/Session` and `Connector/App` say, where every message is a new one.
-/

namespace Rapidapp.Connector

open MessageObject ConnectorSession

/-- The static variables: `up_msg` of `OnRecvFrontEnd`, and those of `HandleKeyMaking`,
`HandleAuthRequest`, `HandShake_OnStartAcked`, `StartToBackEnd`, `StopToBackEnd`,
`ForwardUpSideMessage` and `ForwardDownSideMessage`. -/
structure Statics where
  upMsg : MsgObject := empty
  keyMaking : MsgObject := empty
  authRequest : MsgObject := empty
  startAcked : MsgObject := empty
  start : MsgObject := empty
  stop : MsgObject := empty
  msgToBackend : MsgObject := empty
  downMsg2Client : MsgObject := empty

/-- The payload of a frame that the framework is asked to send. -/
inductive Frame where
  | toFrontEnd (buf : List UInt8)
  | toBackEnd (buf : List UInt8)
  deriving DecidableEq, Repr

/-- The connector with its static messages and the frames so far. -/
structure Emit where
  world : ConnectorWorld
  statics : Statics
  frames : List Frame

namespace Emit

/-- The program goes on in another state. -/
def goTo (e : Emit) (w : ConnectorWorld) : Emit := { e with world := w }

def emit (frame : Frame) (e : Emit) : Emit := { e with frames := e.frames ++ [frame] }

/-- `SendToFrontEnd`. -/
def sendToFrontEnd (net : Option NetPtr) (buf : List UInt8) (e : Emit) : Int × Emit :=
  match e.world.sendToFrontEnd net buf with
  | (ret, w) => (ret, (e.emit (.toFrontEnd buf)).goTo w)

/-- `SendToBackEnd`. -/
def sendToBackEnd (net : Option NetPtr) (buf : List UInt8) (e : Emit) : Int × Emit :=
  match e.world.sendToBackEnd net buf with
  | (ret, w) => (ret, (e.emit (.toBackEnd buf)).goTo w)

variable (code : GeneratedCode)

/-! ## The session -/

/-- `ConnectorSession::SerializeAndSendToFrontEnd` (`connector_session.cpp:157-174`). -/
def serializeAndSendToFrontEnd (s : ConnectorSession) (msg : MsgObject) (e : Emit) : Int × Emit :=
  match e.sendToFrontEnd s.netStub (code.serializeCSMsg msg) with
  | (ret, e) => if ret ≠ 0 then (-1, e.goTo (e.world.destroyFrontEnd s.netStub)) else (0, e)

/-- The end of `HandleKeyMaking`, `HandleAuthRequest` and `HandShake_OnStartAcked`. -/
def answerFrontEnd (p : NetPtr) (s : ConnectorSession) (msg : MsgObject) (state : SessionState)
    (e : Emit) : Int × Emit :=
  match e.serializeAndSendToFrontEnd code s msg with
  | (ret, e) => if ret ≠ 0 then (-1, e) else (0, e.goTo (setState p state e.world))

/-- `ConnectorSession::HandleKeyMaking` (`connector_session.cpp:287-304`). -/
def handleKeyMaking (p : NetPtr) (s : ConnectorSession) (e : Emit) : Int × Emit :=
  let msg := run keyMakingOps e.statics.keyMaking
  { e with statics.keyMaking := msg }.answerFrontEnd code p s msg .stateAuth

/-- `ConnectorSession::HandleAuthRequest` (`connector_session.cpp:306-323`). -/
def handleAuthRequest (p : NetPtr) (s : ConnectorSession) (e : Emit) : Int × Emit :=
  let msg := run authRequestOps e.statics.authRequest
  { e with statics.authRequest := msg }.answerFrontEnd code p s msg .stateSyning

/-- `ConnectorSession::HandShake_OnStartAcked` (`connector_session.cpp:345-362`). -/
def handShakeOnStartAcked (p : NetPtr) (s : ConnectorSession) (e : Emit) : Int × Emit :=
  let msg := run startAckedOps e.statics.startAcked
  { e with statics.startAcked := msg }.answerFrontEnd code p s msg .stateOk

/-- `ConnectorSession::StartToBackEnd` (`connector_session.cpp:176-220`). -/
def startToBackEnd (s : ConnectorSession) (backNet : Option NetPtr) (e : Emit) : Int × Emit :=
  if s.frameStub = false then (-1, e)
  else
    match backNet with
    | none => (-1, e)
    | some q =>
      let msg := run (startOps (s.tuple e.world)) e.statics.start
      match { e with statics.start := msg }.sendToBackEnd (some q) (code.serializeSSMsg msg) with
      | (ret, e) => if ret ≠ 0 then (-1, e) else (0, e)

/-- `ConnectorSession::StopToBackEnd` (`connector_session.cpp:223-261`). -/
def stopToBackEnd (s : ConnectorSession) (backNet : Option NetPtr) (e : Emit) : Int × Emit :=
  if s.frameStub = false then (-1, e)
  else
    match backNet with
    | none => (-1, e)
    | some q =>
      let msg := run (stopOps (s.tuple e.world)) e.statics.stop
      match { e with statics.stop := msg }.sendToBackEnd (some q) (code.serializeSSMsg msg) with
      | (ret, e) => if ret ≠ 0 then (-1, e) else (0, e)

/-- `ConnectorSession::HandShake_StartSession` (`connector_session.cpp:325-343`). -/
def handShakeStartSession (p : NetPtr) (s : ConnectorSession) (e : Emit) : Int × Emit :=
  let (backNet, backEnds) := e.world.app.next
  match (e.goTo { e.world with app := backEnds }).startToBackEnd code s backNet with
  | (ret, e) => if ret ≠ 0 then (-1, e) else (0, e.goTo (setState p .stateSynack e.world))

/-- `ConnectorSession::DriveStateMachine` (`connector_session.cpp:49-81`). -/
def driveStateMachine (p : NetPtr) (e : Emit) : Int × Emit :=
  match e.world.getUserContext p with
  | none => (-1, e)
  | some s =>
    match s.state with
    | .stateInit => e.handleKeyMaking code p s
    | .stateAuth => e.handleAuthRequest code p s
    | .stateSyning => e.handShakeStartSession code p s
    | .stateSynack => e.handShakeOnStartAcked code p s
    | .stateOk => (0, e.goTo (e.world.destroyFrontEnd s.netStub))

/-- `ConnectorSession::SendDataToBackEnd` (`connector_session.cpp:263-285`). -/
def sendDataToBackEnd (data : List UInt8) (e : Emit) : Int × Emit :=
  let (backNet, backEnds) := e.world.app.next
  match (e.goTo { e.world with app := backEnds }).sendToBackEnd backNet data with
  | (ret, e) => if ret ≠ 0 then (-1, e) else (0, e)

/-- `ConnectorSession::ForwardUpSideMessage` (`connector_session.cpp:84-104`). -/
def forwardUpSideMessage (s : ConnectorSession) (sequence : UInt64) (data : List UInt8)
    (e : Emit) : Int × Emit :=
  let msg := run (upSideOps (s.tuple e.world) sequence data) e.statics.msgToBackend
  { e with statics.msgToBackend := msg }.sendDataToBackEnd (code.serializeSSMsg msg)

/-- `ConnectorSession::ForwardDownSideMessage` (`connector_session.cpp:107-136`). -/
def forwardDownSideMessage (s : ConnectorSession) (sequence : UInt64) (data : List UInt8)
    (e : Emit) : Int × Emit :=
  if data = [] then (-1, e)
  else
    let msg := run (downSideOps sequence data) e.statics.downMsg2Client
    match { e with statics.downMsg2Client := msg }.sendToFrontEnd s.netStub
      (code.serializeCSMsg msg) with
    | (ret, e) => if ret ≠ 0 then (-1, e) else (0, e)

/-! ## The callbacks -/

/-- The branch of `OnRecvFrontEnd` for a session that is not ready
(`connector_app.cpp:246-268`). -/
def handshakeFrontEnd (net : NetPtr) (e : Emit) : Int × Emit :=
  match e.driveStateMachine code net with
  | (ret, e) =>
    if ret < 0 then (-1, e.goTo (e.world.destroyFrontEnd (some net)))
    else if ConnectorApp.sessionState net e.world = .stateSyning then
      match e.driveStateMachine code net with
      | (ret, e) =>
        if ret < 0 then (-1, e.goTo (e.world.destroyFrontEnd (some net))) else (0, e)
    else (0, e)

/-- `ConnectorApp::OnRecvFrontEnd` (`connector_app.cpp:219-284`). -/
def onRecvFrontEnd (net : NetPtr) (msg : List UInt8) (size : Nat) (e : Emit) : Int × Emit :=
  match e.world.getUserContext net with
  | none => (-1, e)
  | some s =>
    let upMsg := run (code.parseCSMsgOps msg size) e.statics.upMsg
    let e := { e with statics.upMsg := upMsg }
    match s.checkUpSideMessage (.read upMsg) with
    | (ret, s) =>
      if ret ≠ 0 then (-1, e)
      else
        let e := e.goTo (e.world.setUserContext net s)
        if ¬ s.beenReady then e.handshakeFrontEnd code net
        else if (CSMsg.read upMsg).head.bodyid ≠ CSBodyCmdId.dataTransparent.value then (-1, e)
        else
          e.forwardUpSideMessage code s (CSMsg.read upMsg).head.sequence.toUInt64
            ((CSMsg.read upMsg).body.data.getD [])

variable (debug : Bool)

/-- What `OnRecvBackEnd` does with a message for the session of a frontend
(`connector_app.cpp:314-360`). -/
def relayToFrontEnd (frontNet : NetPtr) (s : ConnectorSession) (downMsg : SSMsg) (e : Emit) :
    Int × Emit :=
  if downMsg.head.bodyid ≠ SSBodyCmdId.data.value then
    if downMsg.head.bodyid ≠ SSBodyCmdId.fin.value ∧ s.state = .stateOk then (0, e)
    else
      match e.driveStateMachine code frontNet with
      | (ret, e) =>
        if ret < 0 then (-1, e.goTo (e.world.destroyFrontEnd (some frontNet)))
        else (0, e.goTo (ConnectorApp.setSid frontNet downMsg.head.session.sid e.world))
  else if debug = false ∧ s.state ≠ .stateOk then
    (-1, e.goTo (e.world.destroyFrontEnd (some frontNet)))
  else if debug = false ∧ s.sid ≠ downMsg.head.session.sid then
    (-1, e.goTo (e.world.destroyFrontEnd (some frontNet)))
  else
    e.forwardDownSideMessage code s downMsg.head.sequence.toUInt64 (downMsg.body.data.getD [])

/-- `ConnectorApp::OnRecvBackEnd` (`connector_app.cpp:286-361`); `down_msg` is not static. -/
def onRecvBackEnd (msg : List UInt8) (size : Nat) (e : Emit) : Int × Emit :=
  let downMsg := SSMsg.read (run (code.parseSSMsgOps msg size) empty)
  let ids := downMsg.head.session
  match e.world.getFrontEndByAsyncIds ids.fd.toNat ids.nid.toNat with
  | none => (-1, e)
  | some frontNet =>
    match e.world.getUserContext frontNet with
    | none => (-1, e)
    | some s => e.relayToFrontEnd code debug frontNet s downMsg

end Emit

end Rapidapp.Connector
