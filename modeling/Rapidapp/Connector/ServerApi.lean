import Rapidapp.Connector.MessageObjects

/-!
# ConnectorServerApi

`server/connector/server_api/connector_server_api.{h,cpp}`: what a backend server uses to talk to
the connector. Its message objects are static variables, one for each function, so a process has
them once. The pointer `net` is only handed on and is left out.
-/

namespace Rapidapp.Connector

open MessageObject

/-- The functions of `IConnListener` (`connector_server_api.h:9-22`), as they are called. -/
inductive ListenerCall where
  | onConnStart (fd : UInt32) (nid : UInt64)
  | onConnStop (session : Tuple)
  | onConnResume (session : Tuple)
  | onData (session : Tuple) (data : List UInt8)
  | sendToConn (data : List UInt8)
  deriving DecidableEq

/-- The static variables of `Dispatch`, `StopConn`, `HandshakeToConn` and `SendDataToConn`. -/
structure ConnectorServerApi where
  msgFromConn : MsgObject := empty
  stopToConn : MsgObject := empty
  ackToConn : MsgObject := empty
  dataToConn : MsgObject := empty

namespace ConnectorServerApi

variable (code : GeneratedCode)

/-- The `switch` of `Dispatch` (`connector_server_api.cpp:38-64`). -/
def dispatched (msgFromConn : SSMsg) : List ListenerCall :=
  let session := msgFromConn.head.session
  if msgFromConn.head.bodyid = SSBodyCmdId.syn.value then [.onConnStart session.fd session.nid]
  else if msgFromConn.head.bodyid = SSBodyCmdId.fin.value then [.onConnStop session]
  else if msgFromConn.head.bodyid = SSBodyCmdId.rsm.value then [.onConnResume session]
  else if msgFromConn.head.bodyid = SSBodyCmdId.data.value then
    [.onData session (msgFromConn.body.data.getD [])]
  else []

/-- `ConnectorServerApi::Dispatch` (`connector_server_api.cpp:25-66`) of a message that is not
null: the return value, what the listener is told, and the variables. -/
def dispatch (data : List UInt8) (len : Nat) (api : ConnectorServerApi) :
    Int × List ListenerCall × ConnectorServerApi :=
  if len = 0 then (-1, [], api)
  else
    let api := { api with msgFromConn := run (code.parseSSMsgOps data len) api.msgFromConn }
    if code.parsesSSMsg data len = false then (-1, [], api)
    else (0, dispatched (.read api.msgFromConn), api)

/-- `ConnectorServerApi::StopConn` (`connector_server_api.cpp:71-90`): what is handed to
`SendToConn`, and the variables. -/
def stopConn (session : Tuple) (api : ConnectorServerApi) : List UInt8 × ConnectorServerApi :=
  let msg := run (stopConnOps session) api.stopToConn
  (code.serializeSSMsg msg, { api with stopToConn := msg })

/-- `ConnectorServerApi::HandshakeToConn` (`connector_server_api.cpp:92-109`). -/
def handshakeToConn (session : Tuple) (api : ConnectorServerApi) :
    List UInt8 × ConnectorServerApi :=
  let msg := run (handshakeToConnOps session) api.ackToConn
  (code.serializeSSMsg msg, { api with ackToConn := msg })

/-- `ConnectorServerApi::SendDataToConn` (`connector_server_api.cpp:111-129`). -/
def sendDataToConn (session : Tuple) (data : List UInt8) (api : ConnectorServerApi) :
    List UInt8 × ConnectorServerApi :=
  let msg := run (sendDataToConnOps session data) api.dataToConn
  (code.serializeSSMsg msg, { api with dataToConn := msg })

end ConnectorServerApi

/-- What a backend server calls. -/
inductive ApiCall where
  | dispatch (data : List UInt8) (len : Nat)
  | stopConn (session : Tuple)
  | handshakeToConn (session : Tuple)
  | sendDataToConn (session : Tuple) (data : List UInt8)

namespace ConnectorServerApi

variable (code : GeneratedCode)

/-- One call: what the listener is called with, and the variables. -/
def call (api : ConnectorServerApi) : ApiCall → List ListenerCall × ConnectorServerApi
  | .dispatch data len => (api.dispatch code data len).2
  | .stopConn session =>
    let r := api.stopConn code session
    ([.sendToConn r.1], r.2)
  | .handshakeToConn session =>
    let r := api.handshakeToConn code session
    ([.sendToConn r.1], r.2)
  | .sendDataToConn session data =>
    let r := api.sendDataToConn code session data
    ([.sendToConn r.1], r.2)

/-- What the listener is called with when every message is a new one. -/
def calledNew : ApiCall → List ListenerCall
  | .dispatch data len =>
    if len = 0 ∨ code.parsesSSMsg data len = false then []
    else dispatched (code.protobuf.parseSSMsg data len)
  | .stopConn session => [.sendToConn (code.protobuf.serializeSSMsg
      { head := { sequence := 0, bodyid := SSBodyCmdId.fin.value, session := session }
        body := { fin := some 0 } })]
  | .handshakeToConn session => [.sendToConn (code.protobuf.serializeSSMsg
      { head := { sequence := 0, bodyid := SSBodyCmdId.ack.value, session := session }
        body := { ack := some 0 } })]
  | .sendDataToConn session data => [.sendToConn (code.protobuf.serializeSSMsg
      { head := { sequence := 0, bodyid := SSBodyCmdId.data.value, session := session }
        body := { data := some data } })]

/-- Nothing of the earlier messages can be seen in the next ones. -/
structure Clean (api : ConnectorServerApi) : Prop where
  msgFromConn : MessageObject.Clean (fun i : List UInt8 × Nat => code.parseSSMsgOps i.1 i.2)
    api.msgFromConn
  stopToConn : MessageObject.Clean stopConnOps api.stopToConn
  ackToConn : MessageObject.Clean handshakeToConnOps api.ackToConn
  dataToConn : MessageObject.Clean
    (fun i : Tuple × List UInt8 => sendDataToConnOps i.1 i.2) api.dataToConn

theorem clean_new : Clean code {} :=
  ⟨clean_empty _, clean_empty _, clean_empty _, clean_empty _⟩

variable {code} {api : ConnectorServerApi}

/-- A call tells the listener what it would tell it with new messages. -/
theorem call_spec (h : api.Clean code) (c : ApiCall) :
    (api.call code c).1 = calledNew code c ∧ (api.call code c).2.Clean code := by
  cases c with
  | dispatch data len =>
    have hread : SSMsg.read (run (code.parseSSMsgOps data len) api.msgFromConn) =
        code.protobuf.parseSSMsg data len := congrArg SSMsg.read (h.msgFromConn (data, len))
    have hclean : Clean code
        { api with msgFromConn := run (code.parseSSMsgOps data len) api.msgFromConn } :=
      { h with msgFromConn := h.msgFromConn.run (overwriting_parse _) (data, len) }
    unfold call calledNew dispatch
    dsimp only
    rw [hread]
    by_cases hlen : len = 0
    · rw [if_pos hlen, if_pos (.inl hlen)]
      exact ⟨rfl, h⟩
    rw [if_neg hlen]
    by_cases hparse : code.parsesSSMsg data len = false
    · rw [if_pos hparse, if_pos (.inr hparse)]
      exact ⟨rfl, hclean⟩
    · rw [if_neg hparse, if_neg (not_or.mpr ⟨hlen, hparse⟩)]
      exact ⟨rfl, hclean⟩
  | stopConn session =>
    refine ⟨?_, { h with stopToConn := h.stopToConn.run (overwriting_ssMsg _ _ _ _ _) session }⟩
    exact congrArg (fun o => [ListenerCall.sendToConn (code.serializeSSMsg o)])
      (h.stopToConn session)
  | handshakeToConn session =>
    refine ⟨?_, { h with ackToConn := h.ackToConn.run (overwriting_ssMsg _ _ _ _ _) session }⟩
    exact congrArg (fun o => [ListenerCall.sendToConn (code.serializeSSMsg o)])
      (h.ackToConn session)
  | sendDataToConn session data =>
    refine ⟨?_, { h with
      dataToConn := h.dataToConn.run (overwriting_ssMsg _ _ _ _ _) (session, data) }⟩
    exact congrArg (fun o => [ListenerCall.sendToConn (code.serializeSSMsg o)])
      (h.dataToConn (session, data))

/-- The variables after some calls. -/
def after (code : GeneratedCode) (calls : List ApiCall) (api : ConnectorServerApi) :
    ConnectorServerApi :=
  calls.foldl (fun api c => (api.call code c).2) api

theorem Clean.after (h : api.Clean code) (calls : List ApiCall) :
    (api.after code calls).Clean code := by
  induction calls generalizing api with
  | nil => exact h
  | cons c calls ih => exact ih (call_spec h c).2

end ConnectorServerApi

end Rapidapp.Connector
