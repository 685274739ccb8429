import Rapidapp.Framework.SocketEvents
import Rapidapp.Connector.Session

/-!
# ConnectorApp

`server/connector/connector_app.cpp`: the callbacks of the connector, and the connector as a
transition system. A step is one call of the framework into the connector or one thing the
framework, the kernel or a peer does between two calls. Messages are arbitrary bytes that
come at any time, for any connection, so every interleaving of the clients and the backend
servers is a run.
-/

namespace Rapidapp.Connector

/-- `class ConnectorApp` (`connector_app.h`) with what its build decides: the protobuf code
and whether `_DEBUG` is defined. `frame_stub_` is set once `OnInit` was called. -/
structure ConnectorApp where
  pb : Protobuf
  debug : Bool

namespace ConnectorApp

/-- One round of the loop of `ConnectorApp::OnInit` (`connector_app.cpp:110-122`). -/
def onInitBackEnd (connect : Option Int) (w : ConnectorWorld) : ConnectorWorld :=
  match w.createBackEnd 0 connect with
  | (none, w) => w
  | (some q, w) => { w with app := w.app.addBackEnd q }

/-- `ConnectorApp::OnFrontEndConnect` (`connector_app.cpp:157-191`). -/
def onFrontEndConnect (net : NetPtr) (w : ConnectorWorld) : ConnectorWorld :=
  match w.getUserContext net with
  | none => w
  | some _ => w.setUserContext net (ConnectorSession.new.init net)

/-- `ConnectorApp::OnFrontEndClose` (`connector_app.cpp:193-217`); `StopBackEndSession` does
nothing (`connector_session.cpp:364-377`). -/
def onFrontEndClose (net : NetPtr) (w : ConnectorWorld) : ConnectorWorld :=
  match w.getUserContext net with
  | none => w
  | some s => w.setUserContext net s.cleanUp

variable (c : ConnectorApp)

/-- The state of the session of a connection, `STATE_INIT` when there is none. -/
def sessionState (net : NetPtr) (w : ConnectorWorld) : SessionState :=
  ((w.getUserContext net).map (·.state)).getD .stateInit

/-- The branch of `OnRecvFrontEnd` for a session that is not ready
(`connector_app.cpp:246-268`). Control then runs off the end of the function; the framework
does not look at the value. -/
def handshakeFrontEnd (net : NetPtr) (w : ConnectorWorld) : Int × ConnectorWorld :=
  match driveStateMachine c.pb net w with
  | (ret, w) =>
    if ret < 0 then (-1, w.destroyFrontEnd (some net))
    else if sessionState net w = .stateSyning then
      match driveStateMachine c.pb net w with
      | (ret, w) => if ret < 0 then (-1, w.destroyFrontEnd (some net)) else (0, w)
    else (0, w)

/-- `ConnectorApp::OnRecvFrontEnd` (`connector_app.cpp:219-284`). -/
def onRecvFrontEnd (net : NetPtr) (msg : List UInt8) (size : Nat) (w : ConnectorWorld) :
    Int × ConnectorWorld :=
  match w.getUserContext net with
  | none => (-1, w)
  | some s =>
    let upMsg := c.pb.parseCSMsg msg size
    match s.checkUpSideMessage upMsg with
    | (ret, s) =>
      if ret ≠ 0 then (-1, w)
      else
        let w := w.setUserContext net s
        if ¬ s.beenReady then c.handshakeFrontEnd net w
        else if upMsg.head.bodyid ≠ CSBodyCmdId.dataTransparent.value then (-1, w)
        else
          forwardUpSideMessage c.pb s upMsg.head.sequence.toUInt64 (upMsg.body.data.getD []) w

/-- `session->set_sid(sid)`. -/
def setSid (net : NetPtr) (sid : UInt32) (w : ConnectorWorld) : ConnectorWorld :=
  match w.getUserContext net with
  | none => w
  | some s => w.setUserContext net { s with sid := sid }

/-- What `OnRecvBackEnd` does with a message for the session of a frontend
(`connector_app.cpp:314-360`). -/
def relayToFrontEnd (frontNet : NetPtr) (s : ConnectorSession) (downMsg : SSMsg)
    (w : ConnectorWorld) : Int × ConnectorWorld :=
  if downMsg.head.bodyid ≠ SSBodyCmdId.data.value then
    if downMsg.head.bodyid ≠ SSBodyCmdId.fin.value ∧ s.state = .stateOk then (0, w)
    else
      match driveStateMachine c.pb frontNet w with
      | (ret, w) =>
        if ret < 0 then (-1, w.destroyFrontEnd (some frontNet))
        else (0, setSid frontNet downMsg.head.session.sid w)
  else if c.debug = false ∧ s.state ≠ .stateOk then (-1, w.destroyFrontEnd (some frontNet))
  else if c.debug = false ∧ s.sid ≠ downMsg.head.session.sid then
    (-1, w.destroyFrontEnd (some frontNet))
  else
    forwardDownSideMessage c.pb s downMsg.head.sequence.toUInt64 (downMsg.body.data.getD []) w

/-- `ConnectorApp::OnRecvBackEnd` (`connector_app.cpp:286-361`). -/
def onRecvBackEnd (msg : List UInt8) (size : Nat) (w : ConnectorWorld) : Int × ConnectorWorld :=
  let downMsg := c.pb.parseSSMsg msg size
  let ids := downMsg.head.session
  match w.getFrontEndByAsyncIds ids.fd.toNat ids.nid.toNat with
  | none => (-1, w)
  | some frontNet =>
    match w.getUserContext frontNet with
    | none => (-1, w)
    | some s => c.relayToFrontEnd frontNet s downMsg w

end ConnectorApp

/-! ## The transition system -/

/-- What can happen to a connector. -/
inductive Event where
  /-- `OnInit` creates a backend; `none` when the attempt fails at once. -/
  | backEnd (connect : Option Int)
  /-- A client connects; whether `bufferevent_socket_new` and `calloc` succeed. -/
  | connect (fd : Int) (bevOk callocOk : Bool)
  /-- A socket event of a frontend. -/
  | frontEndSocket (b : BevPtr) (events : BevEvents)
  /-- A socket event of a backend. -/
  | backEndSocket (b : BevPtr) (events : BevEvents)
  /-- The payload of a frame of a client. -/
  | frontEndMsg (net : NetPtr) (msg : List UInt8) (size : Nat)
  /-- The payload of a frame of a backend server, on any connection to it. -/
  | backEndMsg (msg : List UInt8) (size : Nat)
  /-- `Tick`, with the settings of that time. -/
  | tick (now : Int) (setting : Setting)
  /-- Bytes of a peer arrive. -/
  | input (b : BevPtr) (chunk : List UInt8)
  /-- The frame loops count a message, drain the input, and note the traffic. -/
  | countPkg (net : NetPtr)
  | drain (b : BevPtr) (len : Nat)
  | countTraffic (net : NetPtr) (elapsed : Nat)
  deriving DecidableEq

/-- One step. A descriptor the kernel hands out is one that no open socket has. -/
def ConnectorApp.step (c : ConnectorApp) (w : ConnectorWorld) : Event → Option ConnectorWorld
  | .backEnd connect =>
    if ∀ fd ∈ connect, w.FdUnused fd then some (onInitBackEnd connect w) else none
  | .connect fd bevOk callocOk =>
    if w.FdUnused fd then some (w.onFrontEndConnect onFrontEndConnect fd bevOk callocOk)
    else none
  | .frontEndSocket b events => some (w.onFrontEndSocketEvent onFrontEndClose b events)
  | .backEndSocket b events => some (w.onBackEndSocketEvent b events)
  | .frontEndMsg net msg size => some (c.onRecvFrontEnd net msg size w).2
  | .backEndMsg msg size => some (c.onRecvBackEnd msg size w).2
  | .tick now setting => some (w.tick now setting)
  | .input b chunk => some (w.evbufferAdd b chunk)
  | .countPkg net => some (w.modifyNet net World.countPkg)
  | .drain b len => some (w.evbufferDrain b len)
  | .countTraffic net elapsed => some (w.modifyNet net (World.countTraffic elapsed w.now))

end Rapidapp.Connector
