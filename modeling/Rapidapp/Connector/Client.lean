import Rapidapp.Misc.Bytes
import Rapidapp.Utils.TcpSocket
import Rapidapp.Connector.Messages

/-!
# ConnectorClientProtocolImp: the client of the connector

`server/connector/client_api/connector_client_api_imp.{h,cpp}`. The application calls `Update`
and `PushMessage`, the listener is called back. What the kernel does during a call is an
argument of it. The logger and `encrypt_mode_`, `auth_type_` and `server_uri_`, which no
result depends on, are left out.
-/

namespace Rapidapp.Connector

open TSocketUtil

/-- `kMaxPkgSize` (`connector_client_api_imp.cpp:12`). -/
def kMaxPkgSize : Nat := 1024 * 1024

/-- `kMsgLenFieldSize` (`connector_client_api_imp.cpp:14`). -/
def kMsgLenFieldSize : Nat := 4

/-- `ConnectorPkgParser::GetPkgLen` (`connector_client_api_imp.cpp:20-30`). -/
def getPkgLen : PkgParser := fun buf =>
  if buf.length ≤ kMsgLenFieldSize then 0 else CInt.int32 (Bytes.readBe32 buf)

/-- The states of a client (`connector_client_api_imp.cpp:34-42`). -/
inductive ClientState where
  | sessionStateInited
  | sessionStateTcpSyning
  | sessionStateKeySyning
  | sessionStateAuthing
  | sessionStateReady
  | sessionStateDone
  | sessionStateFini
  deriving DecidableEq, Repr

/-- `CONNECTOR_ERR_NO_MORE_PKG` (`connector_client_api.h`). -/
def connectorErrNoMorePkg : Int := -1

/-- The functions of `IProtocolEventListener` that `Update` calls. -/
inductive Callback where
  | onHandShakeSucceed
  | onHandShakeFailed
  | onServerClose
  | onIncoming
  deriving DecidableEq, Repr

/-- What `OnGetSettings` sets. -/
structure ClientSettings where
  appid : List UInt8
  openid : List UInt8
  token : List UInt8
  deriving DecidableEq

/-- `class ConnectorClientProtocolImp` (`connector_client_api_imp.h`). `up_msg_` is written
anew for every message. `handshakeDone` is the static variable of `Update`. Three logs say what
the object did: the messages whose frames entered the send queue, the bytes the kernel took, and
the callbacks. -/
structure Client where
  settings : ClientSettings
  encryptSkey : List UInt8 := []
  passport : Int64 := 0
  tcpSock : TcpSocketUtil
  sessionState : ClientState
  seqno : UInt64 := 1
  downMsg : CSMsg := {}
  handshakeDone : Bool := false
  queued : List CSMsg := []
  sent : List UInt8 := []
  calls : List Callback := []

/-- What the kernel does during a call of `Update`: what `tcpsocket_connect_nonblock` and
`tcpsocket_check_connect` return, and what `recv` and `send` do. -/
structure NetOutcome where
  connectFd : Int := -1
  check : Int := 1
  recv : RecvOutcome := .wouldBlock
  send : SendOutcome := .wouldBlock

namespace Client

variable (pb : Protobuf)

/-! ## The connection -/

/-- `ConnectorClientProtocolImp::Connect` (`connector_client_api_imp.cpp:68-81`). -/
def connect (fd : Int) (k : Client) : Int × Client :=
  match k.tcpSock.connectNonBlock fd with
  | (ret, sock) =>
    if ret ≠ normal then (-1, { k with tcpSock := sock })
    else (0, { k with tcpSock := sock, sessionState := .sessionStateTcpSyning })

/-- `ConnectorClientProtocolImp::CheckConnect` (`connector_client_api_imp.cpp:83-86`). -/
def checkConnect (check : Int) (k : Client) : Int × Client :=
  match k.tcpSock.checkNonBlock check with
  | (ret, sock) => (ret, { k with tcpSock := sock })

/-- A client whose `Start` (`connector_client_api_imp.cpp:94-121`) has opened the socket `fd`. -/
def start (settings : ClientSettings) (fd : Int) : Client :=
  (connect fd
    { settings := settings
      tcpSock := .init getPkgLen (kMaxPkgSize * 2)
      sessionState := .sessionStateInited }).2

/-! ## Messages -/

/-- The frame of a message: `htonl` of its length, and what protobuf makes of it
(`connector_client_api_imp.cpp:157-163`). -/
def iov (msg : CSMsg) : List (List UInt8) :=
  [Bytes.be32 ((pb.serializeCSMsg msg).length + 4), pb.serializeCSMsg msg]

def frame (msg : CSMsg) : List UInt8 := (iov pb msg).flatten

/-- `ConnectorClientProtocolImp::SerializeAndSendToPeer`
(`connector_client_api_imp.cpp:155-181`). -/
def serializeAndSendToPeer (msg : CSMsg) (outcome : SendOutcome) (k : Client) : Int × Client :=
  let push := k.tcpSock.pushvToSendQ (iov pb msg)
  if push.1 ≠ normal then (push.1, { k with tcpSock := push.2 })
  else
    let send := push.2.send outcome
    let k := { k with
      tcpSock := send.2.2
      queued := k.queued ++ [msg]
      sent := k.sent ++ send.2.1 }
    if send.1 ≠ normal ∧ send.1 ≠ sendUncompleted then (send.1, k) else (normal, k)

/-- What `ParseFromArray` reads of a package: the bytes after its length field. -/
def parsePkg (pkg : List UInt8) : CSMsg :=
  pb.parseCSMsg (pkg.drop kMsgLenFieldSize)
    (CInt.uint64 ((pkg.length : Int) - kMsgLenFieldSize))

/-- `ConnectorClientProtocolImp::TryToRecvFromPeerAndParse`
(`connector_client_api_imp.cpp:183-235`). -/
def tryToRecvFromPeerAndParse (outcome : RecvOutcome) (k : Client) : Int × Client :=
  match k.tcpSock.recv outcome with
  | (ret, sock) =>
    if ret ≠ normal then (ret, { k with tcpSock := sock })
    else
      match sock.hasNewPkg with
      | (false, sock) => (connectorErrNoMorePkg, { k with tcpSock := sock })
      | (true, sock) =>
        match sock.peekFromRecvQ with
        | (ret, buf, sock) =>
          if ret ≠ normal ∧ ret = assertFailed then (ret, { k with tcpSock := sock })
          else
            let downMsg := parsePkg pb (buf.getD [])
            match sock.popFromRecvQ with
            | (ret, sock) =>
              let k := { k with tcpSock := sock, downMsg := downMsg }
              if ret = assertFailed then (ret, k)
              else if downMsg.head.bodyid = CSBodyCmdId.error.value then (-1, k)
              else (0, k)

/-- The message of `HandShake_SYN` (`connector_client_api_imp.cpp:240-246`). -/
def synMsg (k : Client) : CSMsg where
  head := { sequence := k.seqno.toInt64, bodyid := CSBodyCmdId.syn.value }
  body := { syn := some ⟨k.settings.appid, k.settings.openid⟩ }

/-- The message of `HandShake_AUTH` (`connector_client_api_imp.cpp:290-295`). -/
def authMsg (k : Client) : CSMsg where
  head := { sequence := k.seqno.toInt64, bodyid := CSBodyCmdId.authentication.value }
  body := { auth := some k.settings.token }

/-- The message of `PushMessage` (`connector_client_api_imp.cpp:494-499`). -/
def dataMsg (data : List UInt8) (k : Client) : CSMsg where
  head := { sequence := k.seqno.toInt64, bodyid := CSBodyCmdId.dataTransparent.value }
  body := { data := some data }

/-- `seqno_++`. -/
def countSeqno (k : Client) : Client := { k with seqno := k.seqno + 1 }

/-- A handshake message is sent and the state that waits for its answer is entered, the common
form of `HandShake_SYN` and `HandShake_AUTH`. -/
def sendHandShake (msg : CSMsg) (state : ClientState) (outcome : SendOutcome) (k : Client) :
    Int × Client :=
  let send := serializeAndSendToPeer pb msg outcome k.countSeqno
  if send.1 ≠ normal then send else (0, { send.2 with sessionState := state })

/-- `ConnectorClientProtocolImp::HandShake_SYN` (`connector_client_api_imp.cpp:238-258`). -/
def handShakeSyn (outcome : SendOutcome) (k : Client) : Int × Client :=
  sendHandShake pb k.synMsg .sessionStateKeySyning outcome k

/-- `ConnectorClientProtocolImp::HandShake_TRY_ACK` (`connector_client_api_imp.cpp:261-285`). -/
def handShakeTryAck (outcome : RecvOutcome) (k : Client) : Int × Client :=
  match tryToRecvFromPeerAndParse pb outcome k with
  | (ret, k) =>
    if ret ≠ 0 then (ret, k)
    else if k.downMsg.head.bodyid ≠ CSBodyCmdId.synack.value then (-1, k)
    else (0, { k with encryptSkey := k.downMsg.body.ack.getD [] })

/-- `ConnectorClientProtocolImp::HandShake_AUTH` (`connector_client_api_imp.cpp:288-307`). -/
def handShakeAuth (outcome : SendOutcome) (k : Client) : Int × Client :=
  sendHandShake pb k.authMsg .sessionStateAuthing outcome k

/-- A message with the expected `bodyid` is taken from the queue when there is one, the common
form of `HandShake_TRY_READY` and `HandShake_TRY_DONE`. -/
def tryHandShake (bodyid : CSBodyCmdId) (next : Client → Client) (outcome : RecvOutcome)
    (k : Client) : Int × Client :=
  match tryToRecvFromPeerAndParse pb outcome k with
  | (ret, k) =>
    if ret ≠ 0 then if ret ≠ connectorErrNoMorePkg then (ret, k) else (0, k)
    else if k.downMsg.head.bodyid ≠ bodyid.value then (-1, k)
    else (0, next k)

/-- `ConnectorClientProtocolImp::HandShake_TRY_READY`
(`connector_client_api_imp.cpp:310-337`). -/
def handShakeTryReady (outcome : RecvOutcome) (k : Client) : Int × Client :=
  tryHandShake pb .passport (fun k =>
    { k with
      passport := k.downMsg.body.passport.getD 0
      sessionState := .sessionStateReady }) outcome k

/-- `ConnectorClientProtocolImp::HandShake_TRY_DONE`
(`connector_client_api_imp.cpp:340-366`). -/
def handShakeTryDone (outcome : RecvOutcome) (k : Client) : Int × Client :=
  tryHandShake pb .startApp (fun k => { k with sessionState := .sessionStateDone }) outcome k

/-! ## What the application calls -/

def callBack (call : Callback) (k : Client) : Client := { k with calls := k.calls ++ [call] }

/-- The `switch` of `Update` (`connector_client_api_imp.cpp:382-462`): `ret`, `busy` and the
object. `none` is the `default` branch. -/
def driveState (net : NetOutcome) (k : Client) : Option (Int × Int × Client) :=
  match k.sessionState with
  | .sessionStateInited =>
    match connect net.connectFd k with
    | (ret, k) => some (ret, 0, k)
  | .sessionStateTcpSyning =>
    match checkConnect net.check k with
    | (ret, k) =>
      if ret = normal ∧ k.tcpSock.socketState = .netConnected then
        let syn := handShakeSyn pb net.send k
        some (syn.1, 1, syn.2)
      else some (ret, 0, k)
  | .sessionStateKeySyning =>
    match handShakeTryAck pb net.recv k with
    | (ret, k) =>
      if ret = 0 then
        let auth := handShakeAuth pb net.send k
        some (auth.1, 1, auth.2)
      else if ret = connectorErrNoMorePkg then some (0, 0, k)
      else some (ret, 0, k)
  | .sessionStateAuthing =>
    match handShakeTryReady pb net.recv k with
    | (ret, k) => some (ret, 0, k)
  | .sessionStateReady =>
    match handShakeTryDone pb net.recv k with
    | (ret, k) => some (ret, 0, k)
  | .sessionStateDone =>
    if k.handshakeDone = false then
      some (0, 1, { k.callBack .onHandShakeSucceed with handshakeDone := true })
    else
      match k.tcpSock.recv net.recv with
      | (ret, sock) =>
        if ret = normal then
          match sock.hasNewPkg with
          | (true, sock) => some (ret, 1, { k with tcpSock := sock }.callBack .onIncoming)
          | (false, sock) => some (ret, 0, { k with tcpSock := sock })
        else some (ret, 0, { k with tcpSock := sock })
  | .sessionStateFini => none

/-- `ConnectorClientProtocolImp::Update` (`connector_client_api_imp.cpp:369-482`), of a client that
was started. -/
def update (net : NetOutcome) (k : Client) : Int × Client :=
  match driveState pb net k with
  | none => (-1, k)
  | some (ret, busy, k) =>
    if ret ≠ normal then
      if k.sessionState ≠ .sessionStateDone then (-1, k.callBack .onHandShakeFailed)
      else if ret = peerClosed then (-1, k.callBack .onServerClose)
      else (busy, k)
    else (busy, k)

/-- `-1` whatever went wrong. -/
def orFailed (r : Int × Client) : Int × Client := (if r.1 ≠ 0 then -1 else 0, r.2)

theorem orFailed_snd (r : Int × Client) : (orFailed r).2 = r.2 := rfl

/-- `ConnectorClientProtocolImp::PushMessage` (`connector_client_api_imp.cpp:485-508`). -/
def pushMessage (data : List UInt8) (outcome : SendOutcome) (k : Client) : Int × Client :=
  if data.length = 0 then (-1, k)
  else orFailed (serializeAndSendToPeer pb (k.dataMsg data) outcome k.countSeqno)

/-- `ConnectorClientProtocolImp::PeekMessage` (`connector_client_api_imp.cpp:511-554`): the return
value, the payload, and the object. -/
def peekMessage (k : Client) : Int × List UInt8 × Client :=
  match k.tcpSock.hasNewPkg with
  | (false, sock) => (connectorErrNoMorePkg, [], { k with tcpSock := sock })
  | (true, sock) =>
    match sock.peekFromRecvQ with
    | (ret, buf, sock) =>
      if ret ≠ normal ∧ ret = assertFailed then (-1, [], { k with tcpSock := sock })
      else
        let k := { k with tcpSock := sock, downMsg := parsePkg pb (buf.getD []) }
        if k.downMsg.head.bodyid ≠ CSBodyCmdId.dataTransparent.value then (-1, [], k)
        else (0, k.downMsg.body.data.getD [], k)

/-- `ConnectorClientProtocolImp::PopMessage` (`connector_client_api_imp.cpp:557-575`). -/
def popMessage (k : Client) : Int × Client :=
  match k.tcpSock.popFromRecvQ with
  | (ret, sock) =>
    let k := { k with tcpSock := sock }
    if ret = assertFailed then (-1, k)
    else if k.downMsg.head.bodyid ≠ CSBodyCmdId.dataTransparent.value then (-1, k)
    else (0, k)

end Client

end Rapidapp.Connector
