import Rapidapp.Framework.Interface
import Rapidapp.Connector.Messages

/-!
# ConnectorSession

`server/connector/connector_session.{h,cpp}`. The connector keeps a `ConnectorSession` in
the user context of every frontend connection. It is a state machine that is driven by
messages from the client and from a backend server; `DriveStateMachine` is not told which.

A member function of a session takes the connection `p` whose context the session is, and
reads and writes the session there. Where the source goes on with a session whose connection
it has destroyed, the context is gone and nothing is read or written.
-/

namespace Rapidapp.Connector

/-- `enum SessionState` (`connector_session.h:11-17`). -/
inductive SessionState where
  | stateInit
  | stateAuth
  | stateSyning
  | stateSynack
  | stateOk
  deriving DecidableEq, Repr

/-- `kMaxBackEndNum` (`connector_session.h:26`). -/
def kMaxBackEndNum : Nat := 32

/-- `class BackEndSet` (`connector_session.h:28-36`): the first `backend_used_` entries of
`backends_` (the others are null) and `backend_pos_`. -/
structure BackEndSet where
  backends : List NetPtr
  backendPos : Nat
  backends_le : backends.length ≤ kMaxBackEndNum

namespace BackEndSet

/-- The static members before `main`. -/
def empty : BackEndSet := ⟨[], 0, by decide⟩

/-- `BackEndSet::AddBackEnd` (`connector_session.cpp:11-20`). -/
def addBackEnd (b : BackEndSet) (net : NetPtr) : BackEndSet :=
  if h : kMaxBackEndNum ≤ b.backends.length then b
  else ⟨b.backends ++ [net], b.backendPos, by
    rw [List.length_append, List.length_singleton]; omega⟩

/-- The next backend in turn, null when there is none
(`connector_session.cpp:266-270`, `327-331`). -/
def next (b : BackEndSet) : Option NetPtr × BackEndSet :=
  let pos := if b.backends.length ≤ b.backendPos then 0 else b.backendPos
  (b.backends[pos]?, { b with backendPos := pos + 1 })

end BackEndSet

/-- `class ConnectorSession` (`connector_session.h:38-105`). `frameStub` is whether
`frame_stub_` is set; `channel_id_` is never read and is left out. -/
structure ConnectorSession where
  state : SessionState
  netStub : Option NetPtr
  sid : UInt32
  frameStub : Bool
  lastSeq : UInt64
  deriving DecidableEq

/-- The block `calloc` returns, before the constructor has run in it. -/
instance : Inhabited ConnectorSession := ⟨⟨.stateInit, none, 0, false, 0⟩⟩

/-- The state of the connector process. -/
abbrev ConnectorWorld := World BackEndSet ConnectorSession

namespace ConnectorSession

/-- The constructor (`connector_session.cpp:22-24`). -/
def new : ConnectorSession := ⟨.stateInit, none, -1, false, 0⟩

/-- `ConnectorSession::Init` (`connector_session.cpp:31-42`) for a connection and a framework
that exist. -/
def init (s : ConnectorSession) (net : NetPtr) : ConnectorSession :=
  { s with netStub := some net, frameStub := true, state := .stateInit }

/-- `ConnectorSession::CleanUp` (`connector_session.cpp:44-47`). -/
def cleanUp (s : ConnectorSession) : ConnectorSession := { s with state := .stateInit }

/-- `ConnectorSession::BeenReady` (`connector_session.h:73-75`). -/
def beenReady (s : ConnectorSession) : Bool := s.state = .stateOk

/-- `ConnectorSession::CheckUpSideMessage` (`connector_session.cpp:138-155`). -/
def checkUpSideMessage (s : ConnectorSession) (upMsg : CSMsg) : Int × ConnectorSession :=
  if upMsg.head.magic ≠ magicCsV1 then (-1, s)
  else if s.lastSeq ≠ 0 ∧ upMsg.head.sequence.toUInt64 ≠ s.lastSeq + 1 then (-1, s)
  else (0, { s with lastSeq := upMsg.head.sequence.toUInt64 })

/-! ## Messages a session makes -/

/-- The text `"test secret key"`. -/
def testSecretKey : List UInt8 :=
  [0x74, 0x65, 0x73, 0x74, 0x20, 0x73, 0x65, 0x63, 0x72, 0x65, 0x74, 0x20, 0x6b, 0x65, 0x79]

/-- The message of `HandleKeyMaking` (`connector_session.cpp:289-293`). -/
def keyMakingMsg : CSMsg where
  head := { sequence := 1, bodyid := CSBodyCmdId.synack.value }
  body := { ack := some testSecretKey }

/-- The message of `HandleAuthRequest` (`connector_session.cpp:308-312`). -/
def authMsg : CSMsg where
  head := { sequence := 1, bodyid := CSBodyCmdId.passport.value }
  body := { passport := some 102030 }

/-- The message of `HandShake_OnStartAcked` (`connector_session.cpp:347-351`). -/
def startAckedMsg : CSMsg where
  head := { sequence := 1, bodyid := CSBodyCmdId.startApp.value }
  body := { start := some 0 }

/-- The `Tuple` of the session: what `GetNetIds` says of its connection, and `sid_`. -/
def tuple (s : ConnectorSession) (w : ConnectorWorld) : Tuple :=
  let ids := match s.netStub with
    | none => (0, 0)
    | some p => w.getNetIds p
  { fd := UInt32.ofNat ids.1, nid := UInt64.ofNat ids.2, sid := s.sid }

/-- The message of `StartToBackEnd` (`connector_session.cpp:192-202`). -/
def startMsg (s : ConnectorSession) (w : ConnectorWorld) : SSMsg where
  head := { sequence := 1, bodyid := SSBodyCmdId.syn.value, session := s.tuple w }
  body := { syn := some 0 }

/-- The message of `ForwardUpSideMessage` (`connector_session.cpp:88-98`). -/
def upSideMsg (s : ConnectorSession) (w : ConnectorWorld) (sequence : UInt64)
    (data : List UInt8) : SSMsg where
  head := { sequence := sequence.toInt64, bodyid := SSBodyCmdId.data.value, session := s.tuple w }
  body := { data := some data }

/-- The message of `ForwardDownSideMessage` (`connector_session.cpp:116-120`). -/
def downSideMsg (sequence : UInt64) (data : List UInt8) : CSMsg where
  head := { sequence := sequence.toInt64, bodyid := CSBodyCmdId.dataTransparent.value }
  body := { data := some data }

end ConnectorSession

open ConnectorSession

variable (pb : Protobuf)

/-! ## The state machine -/

/-- `state_ = state`. -/
def setState (p : NetPtr) (state : SessionState) (w : ConnectorWorld) : ConnectorWorld :=
  match w.getUserContext p with
  | none => w
  | some s => w.setUserContext p { s with state := state }

/-- `ConnectorSession::SerializeAndSendToFrontEnd` (`connector_session.cpp:157-174`). -/
def serializeAndSendToFrontEnd (s : ConnectorSession) (msg : CSMsg) (w : ConnectorWorld) :
    Int × ConnectorWorld :=
  match w.sendToFrontEnd s.netStub (pb.serializeCSMsg msg) with
  | (ret, w) => if ret ≠ 0 then (-1, w.destroyFrontEnd s.netStub) else (0, w)

/-- `ConnectorSession::StartToBackEnd` (`connector_session.cpp:176-220`). -/
def startToBackEnd (s : ConnectorSession) (backNet : Option NetPtr) (w : ConnectorWorld) :
    Int × ConnectorWorld :=
  if s.frameStub = false then (-1, w)
  else
    match backNet with
    | none => (-1, w)
    | some q =>
      match w.sendToBackEnd (some q) (pb.serializeSSMsg (s.startMsg w)) with
      | (ret, w) => if ret ≠ 0 then (-1, w) else (0, w)

/-- A handshake message to the client and the state that comes with it, the common form of
`HandleKeyMaking`, `HandleAuthRequest` and `HandShake_OnStartAcked`. -/
def answerFrontEnd (p : NetPtr) (s : ConnectorSession) (msg : CSMsg) (state : SessionState)
    (w : ConnectorWorld) : Int × ConnectorWorld :=
  match serializeAndSendToFrontEnd pb s msg w with
  | (ret, w) => if ret ≠ 0 then (-1, w) else (0, setState p state w)

/-- `ConnectorSession::HandleKeyMaking` (`connector_session.cpp:287-304`). -/
def handleKeyMaking (p : NetPtr) (s : ConnectorSession) (w : ConnectorWorld) :
    Int × ConnectorWorld :=
  answerFrontEnd pb p s keyMakingMsg .stateAuth w

/-- `ConnectorSession::HandleAuthRequest` (`connector_session.cpp:306-323`). -/
def handleAuthRequest (p : NetPtr) (s : ConnectorSession) (w : ConnectorWorld) :
    Int × ConnectorWorld :=
  answerFrontEnd pb p s authMsg .stateSyning w

/-- `ConnectorSession::HandShake_StartSession` (`connector_session.cpp:325-343`). -/
def handShakeStartSession (p : NetPtr) (s : ConnectorSession) (w : ConnectorWorld) :
    Int × ConnectorWorld :=
  let (backNet, backEnds) := w.app.next
  match startToBackEnd pb s backNet { w with app := backEnds } with
  | (ret, w) => if ret ≠ 0 then (-1, w) else (0, setState p .stateSynack w)

/-- `ConnectorSession::HandShake_OnStartAcked` (`connector_session.cpp:345-362`). -/
def handShakeOnStartAcked (p : NetPtr) (s : ConnectorSession) (w : ConnectorWorld) :
    Int × ConnectorWorld :=
  answerFrontEnd pb p s startAckedMsg .stateOk w

/-- `ConnectorSession::HandShake_OnStopNotify` (`connector_session.cpp:379-386`). -/
def handShakeOnStopNotify (s : ConnectorSession) (w : ConnectorWorld) : Int × ConnectorWorld :=
  (0, w.destroyFrontEnd s.netStub)

/-- `ConnectorSession::DriveStateMachine` (`connector_session.cpp:49-81`). -/
def driveStateMachine (p : NetPtr) (w : ConnectorWorld) : Int × ConnectorWorld :=
  match w.getUserContext p with
  | none => (-1, w)
  | some s =>
    match s.state with
    | .stateInit => handleKeyMaking pb p s w
    | .stateAuth => handleAuthRequest pb p s w
    | .stateSyning => handShakeStartSession pb p s w
    | .stateSynack => handShakeOnStartAcked pb p s w
    | .stateOk => handShakeOnStopNotify s w

/-! ## Forwarding -/

/-- `ConnectorSession::SendDataToBackEnd` (`connector_session.cpp:263-285`). -/
def sendDataToBackEnd (data : List UInt8) (w : ConnectorWorld) : Int × ConnectorWorld :=
  let (backNet, backEnds) := w.app.next
  match { w with app := backEnds }.sendToBackEnd backNet data with
  | (ret, w) => if ret ≠ 0 then (-1, w) else (0, w)

/-- `ConnectorSession::ForwardUpSideMessage` (`connector_session.cpp:84-104`). -/
def forwardUpSideMessage (s : ConnectorSession) (sequence : UInt64) (data : List UInt8)
    (w : ConnectorWorld) : Int × ConnectorWorld :=
  sendDataToBackEnd (pb.serializeSSMsg (s.upSideMsg w sequence data)) w

/-- `ConnectorSession::ForwardDownSideMessage` (`connector_session.cpp:107-136`). -/
def forwardDownSideMessage (s : ConnectorSession) (sequence : UInt64) (data : List UInt8)
    (w : ConnectorWorld) : Int × ConnectorWorld :=
  if data = [] then (-1, w)
  else
    match w.sendToFrontEnd s.netStub (pb.serializeCSMsg (downSideMsg sequence data)) with
    | (ret, w) => if ret ≠ 0 then (-1, w) else (0, w)

end Rapidapp.Connector
