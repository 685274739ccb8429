import Rapidapp.Connector.ClientSequence
import Rapidapp.Connector.MessageObjects

/-!
# `up_msg_` of a client

The functions of `client_api/connector_client_api_imp.cpp` that make a message, with the object
they make it in. What a client sends is what `Connector/Client` says, where every message is a new
one.
-/

namespace Rapidapp.Connector

open MessageObject TSocketUtil

/-- A client with the member `up_msg_`, and the frames that were handed to `PushvToSendQ`. -/
structure ClientProcess where
  client : Client
  upMsg : MsgObject := empty
  frames : List (List UInt8) := []

/-- The generated code for a client that sends what is in the object, whatever message was meant. -/
def GeneratedCode.sending (code : GeneratedCode) (o : MsgObject) : Protobuf :=
  { code.protobuf with serializeCSMsg := fun _ => code.serializeCSMsg o }

namespace ClientProcess

variable (code : GeneratedCode)

/-- `ConnectorClientProtocolImp::SerializeAndSendToPeer` (`connector_client_api_imp.cpp:155-181`).
The log of the client gets the message that was meant. -/
def serializeAndSendToPeer (meant : CSMsg) (outcome : SendOutcome) (k : ClientProcess) :
    Int × ClientProcess :=
  let send := k.client.serializeAndSendToPeer (code.sending k.upMsg) meant outcome
  (send.1, { k with
    client := send.2
    frames := k.frames ++ [Client.frame (code.sending k.upMsg) meant] })

/-- `up_msg_` is filled, and `seqno_++`. -/
def fill (u : UpMsg) (k : ClientProcess) : ClientProcess :=
  { k with client := k.client.countSeqno, upMsg := run (u.ops k.client.seqno) k.upMsg }

/-- A handshake message is sent and the state that waits for its answer is entered. -/
def sendHandShake (u : UpMsg) (meant : CSMsg) (state : ClientState) (outcome : SendOutcome)
    (k : ClientProcess) : Int × ClientProcess :=
  let send := (k.fill u).serializeAndSendToPeer code meant outcome
  if send.1 ≠ normal then send
  else (0, { send.2 with client := { send.2.client with sessionState := state } })

/-- `ConnectorClientProtocolImp::HandShake_SYN` (`connector_client_api_imp.cpp:238-258`). -/
def handShakeSyn (outcome : SendOutcome) (k : ClientProcess) : Int × ClientProcess :=
  k.sendHandShake code (.syn k.client.settings.openid k.client.settings.appid) k.client.synMsg
    .sessionStateKeySyning outcome

/-- `ConnectorClientProtocolImp::HandShake_AUTH` (`connector_client_api_imp.cpp:288-307`). -/
def handShakeAuth (outcome : SendOutcome) (k : ClientProcess) : Int × ClientProcess :=
  k.sendHandShake code (.auth k.client.settings.token) k.client.authMsg .sessionStateAuthing
    outcome

/-- The `switch` of `Update` (`connector_client_api_imp.cpp:382-462`); the other states make no
message. -/
def driveState (net : NetOutcome) (k : ClientProcess) : Option (Int × Int × ClientProcess) :=
  match k.client.sessionState with
  | .sessionStateTcpSyning =>
    match k.client.checkConnect net.check with
    | (ret, client) =>
      if ret = normal ∧ client.tcpSock.socketState = .netConnected then
        let syn := { k with client := client }.handShakeSyn code net.send
        some (syn.1, 1, syn.2)
      else some (ret, 0, { k with client := client })
  | .sessionStateKeySyning =>
    match k.client.handShakeTryAck code.protobuf net.recv with
    | (ret, client) =>
      if ret = 0 then
        let auth := { k with client := client }.handShakeAuth code net.send
        some (auth.1, 1, auth.2)
      else if ret = connectorErrNoMorePkg then some (0, 0, { k with client := client })
      else some (ret, 0, { k with client := client })
  | _ => (k.client.driveState code.protobuf net).map fun r =>
      (r.1, r.2.1, { k with client := r.2.2 })

def callBack (call : Callback) (k : ClientProcess) : ClientProcess :=
  { k with client := k.client.callBack call }

/-- `ConnectorClientProtocolImp::Update` (`connector_client_api_imp.cpp:369-482`). -/
def update (net : NetOutcome) (k : ClientProcess) : Int × ClientProcess :=
  match k.driveState code net with
  | none => (-1, k)
  | some (ret, busy, k) =>
    if ret ≠ normal then
      if k.client.sessionState ≠ .sessionStateDone then (-1, k.callBack .onHandShakeFailed)
      else if ret = peerClosed then (-1, k.callBack .onServerClose)
      else (busy, k)
    else (busy, k)

/-- `ConnectorClientProtocolImp::PushMessage` (`connector_client_api_imp.cpp:485-508`). -/
def pushMessage (data : List UInt8) (outcome : SendOutcome) (k : ClientProcess) :
    Int × ClientProcess :=
  if data.length = 0 then (-1, k)
  else
    let send := (k.fill (.data data)).serializeAndSendToPeer code (k.client.dataMsg data) outcome
    (if send.1 ≠ 0 then -1 else 0, send.2)

/-- One call; `PeekMessage` and `PopMessage` make no message. -/
def step (k : ClientProcess) : ClientEvent → Option ClientProcess
  | .update net => if 0 ≤ net.check then some (k.update code net).2 else none
  | .pushMessage data send => some (k.pushMessage code data send).2
  | e => (clientStep code.protobuf k.client e).map fun client => { k with client := client }

/-! ## The object -/

/-- Nothing of the earlier messages can be seen in the next ones. -/
def Clean (k : ClientProcess) : Prop :=
  MessageObject.Clean (fun i : UpMsg × UInt64 => i.1.ops i.2) k.upMsg

variable {code} {k k' : ClientProcess}

/-- What `up_msg_` holds after it was filled is the message that was meant. -/
theorem upMsg_fill (h : k.Clean) {u : UpMsg} {meant : CSMsg}
    (hhead : csHeadOps meant.head = setCSHead k.client.seqno.toInt64 u.bodyid)
    (hbody : csBodyOps meant.body = u.below) : (k.fill u).upMsg = meant.object := by
  have hclean : (k.fill u).upMsg = run (u.ops k.client.seqno) empty := h (u, k.client.seqno)
  have hapart : ∀ op ∈ setCSHead k.client.seqno.toInt64 u.bodyid,
      ¬ [2] <+: op.path ∧ ¬ op.path <+: [2] := by
    simp [setCSHead, csHeadOps, Op.path]
  rw [hclean, CSMsg.object, hhead, hbody]
  cases u <;> exact run_cleared _ hapart ⟨_, rfl⟩

theorem clean_fill (h : k.Clean) (u : UpMsg) : (k.fill u).Clean := by
  have hrun := MessageObject.Clean.run h overwriting_upMsg (u, k.client.seqno)
  exact hrun

/-- What a call does, and the frame with the message that it makes, if it makes one. -/
structure Makes (code : GeneratedCode) (m : Option CSMsg) (frames : List (List UInt8))
    (new : Client) (k' : ClientProcess) : Prop where
  client : k'.client = new
  clean : k'.Clean
  frames : k'.frames = frames ++ m.toList.map (Client.frame code.protobuf)

theorem serializeAndSendToPeer_of_eq {meant : CSMsg} {outcome : SendOutcome} {ret : Int}
    {client : Client}
    (h : k.client.serializeAndSendToPeer (code.sending k.upMsg) meant outcome = (ret, client)) :
    k.serializeAndSendToPeer code meant outcome =
      (ret, { k with
        client := client
        frames := k.frames ++ [Client.frame (code.sending k.upMsg) meant] }) := by
  unfold serializeAndSendToPeer
  rw [h]

theorem makes_serializeAndSendToPeer (code : GeneratedCode) (h : k.Clean) {m : CSMsg} (hm : k.upMsg = m.object)
    (outcome : SendOutcome) :
    ∃ ret k' new, k.serializeAndSendToPeer code m outcome = (ret, k') ∧
      k.client.serializeAndSendToPeer code.protobuf m outcome = (ret, new) ∧
      Makes code (some m) k.frames new k' := by
  have hiov : Client.iov (code.sending k.upMsg) m = Client.iov code.protobuf m := by
    unfold Client.iov GeneratedCode.sending GeneratedCode.protobuf
    rw [hm]
  have hsend : k.client.serializeAndSendToPeer (code.sending k.upMsg) m outcome =
      k.client.serializeAndSendToPeer code.protobuf m outcome := by
    unfold Client.serializeAndSendToPeer
    rw [hiov]
  have hframe : Client.frame (code.sending k.upMsg) m = Client.frame code.protobuf m :=
    congrArg List.flatten hiov
  rcases hnew : k.client.serializeAndSendToPeer code.protobuf m outcome with ⟨ret, new⟩
  refine ⟨ret, _, new, serializeAndSendToPeer_of_eq (hsend.trans hnew), rfl, rfl, h, ?_⟩
  rw [hframe]
  rfl

theorem makes_sendHandShake (code : GeneratedCode) (h : k.Clean) {u : UpMsg} {m : CSMsg}
    (hhead : csHeadOps m.head = setCSHead k.client.seqno.toInt64 u.bodyid)
    (hbody : csBodyOps m.body = u.below) (state : ClientState) (outcome : SendOutcome) :
    ∃ ret k' new, k.sendHandShake code u m state outcome = (ret, k') ∧
      k.client.sendHandShake code.protobuf m state outcome = (ret, new) ∧
      Makes code (some m) k.frames new k' := by
  obtain ⟨ret, k₁, new, hsent, hnew, hmakes⟩ := makes_serializeAndSendToPeer code
    (k := k.fill u) (clean_fill h u) (upMsg_fill h hhead hbody) outcome
  unfold sendHandShake Client.sendHandShake
  have hcount : (k.fill u).client = k.client.countSeqno := rfl
  rw [hcount] at hnew
  rw [hsent, hnew]
  by_cases hok : ret = normal
  · simp only [hok, ne_eq, not_true, if_false]
    refine ⟨0, _, _, rfl, rfl, ?_, hmakes.clean, hmakes.frames⟩
    rw [hmakes.client]
  · simp only [hok, ne_eq, not_false_eq_true, if_true]
    exact ⟨ret, k₁, new, rfl, rfl, hmakes⟩

theorem makes_handShakeSyn (code : GeneratedCode) (h : k.Clean) (outcome : SendOutcome) :
    ∃ ret k' new, k.handShakeSyn code outcome = (ret, k') ∧
      k.client.handShakeSyn code.protobuf outcome = (ret, new) ∧
      Makes code (some k.client.synMsg) k.frames new k' :=
  makes_sendHandShake code h rfl rfl _ outcome

theorem makes_handShakeAuth (code : GeneratedCode) (h : k.Clean) (outcome : SendOutcome) :
    ∃ ret k' new, k.handShakeAuth code outcome = (ret, k') ∧
      k.client.handShakeAuth code.protobuf outcome = (ret, new) ∧
      Makes code (some k.client.authMsg) k.frames new k' :=
  makes_sendHandShake code h rfl rfl _ outcome

/-- Code that makes no message. -/
theorem Makes.none (h : k.Clean) (client : Client) :
    Makes code none k.frames client { k with client := client } :=
  ⟨rfl, h, (List.append_nil _).symm⟩

theorem synMsg_checkConnect (client : Client) (check : Int) :
    (client.checkConnect check).2.synMsg = client.synMsg := by
  unfold Client.checkConnect
  rcases client.tcpSock.checkNonBlock check with ⟨ret, sock⟩
  rfl

/-- What the `switch` of `Update` does, and what it does with new messages. -/
structure Drives (code : GeneratedCode) (m : Option CSMsg) (frames : List (List UInt8))
    (new : Int × Int × Client) (k' : Int × Int × ClientProcess) : Prop where
  ret : k'.1 = new.1
  busy : k'.2.1 = new.2.1
  makes : Makes code m frames new.2.2 k'.2.2

/-- The `switch` of `Update` does what it does with new messages. -/
theorem drives_driveState (code : GeneratedCode) (h : k.Clean) (net : NetOutcome) :
    (k.driveState code net = none ∧ k.client.driveState code.protobuf net = none ∧
        k.client.makes code.protobuf (.update net) = none) ∨
      ∃ r new, k.driveState code net = some r ∧
        k.client.driveState code.protobuf net = some new ∧
        Drives code (k.client.makes code.protobuf (.update net)) k.frames new r := by
  have hquiet : k.client.makes code.protobuf (.update net) = none →
      k.driveState code net = (k.client.driveState code.protobuf net).map (fun r =>
        (r.1, r.2.1, { k with client := r.2.2 })) →
      (k.driveState code net = none ∧ k.client.driveState code.protobuf net = none ∧
        k.client.makes code.protobuf (.update net) = none) ∨
      ∃ r new, k.driveState code net = some r ∧
        k.client.driveState code.protobuf net = some new ∧
        Drives code (k.client.makes code.protobuf (.update net)) k.frames new r := by
    intro hmakes hdrive
    rw [hdrive, hmakes]
    cases k.client.driveState code.protobuf net with
    | none => exact .inl ⟨rfl, rfl, rfl⟩
    | some new => exact .inr ⟨_, new, rfl, rfl, rfl, rfl, .none h _⟩
  cases hstate : k.client.sessionState with
  | sessionStateTcpSyning =>
    have hmsg := synMsg_checkConnect k.client net.check
    rcases hc : k.client.checkConnect net.check with ⟨ret, client⟩
    rw [hc] at hmsg
    by_cases hconn : ret = normal ∧ client.tcpSock.socketState = .netConnected
    · obtain ⟨ret', k', new, hold, hnew, hmakes⟩ := makes_handShakeSyn code
        (k := { k with client := client }) h net.send
      have hm : k.client.makes code.protobuf (.update net) = some client.synMsg := by
        simp only [Client.makes, hstate, hc, hconn, and_self, if_true, hmsg]
      rw [hm]
      refine .inr ⟨(ret', 1, k'), (ret', 1, new), ?_, ?_, rfl, rfl, hmakes⟩
      · simp only [driveState, hstate, hc, hconn, and_self, if_true, hold]
      · simp only [Client.driveState, hstate, hc, hconn, and_self, if_true, hnew]
    · refine hquiet ?_ ?_
      · simp only [Client.makes, hstate, hc, hconn, if_false]
      · simp only [driveState, Client.driveState, hstate, hc, hconn, if_false, Option.map_some]
  | sessionStateKeySyning =>
    have hmsg := Client.authMsg_of_quiet (k.client.quiet_handShakeTryAck code.protobuf net.recv)
    rcases hc : k.client.handShakeTryAck code.protobuf net.recv with ⟨ret, client⟩
    rw [hc] at hmsg
    by_cases hack : ret = 0
    · obtain ⟨ret', k', new, hold, hnew, hmakes⟩ := makes_handShakeAuth code
        (k := { k with client := client }) h net.send
      have hm : k.client.makes code.protobuf (.update net) = some client.authMsg := by
        simp only [Client.makes, hstate, hc, hack, if_true, hmsg]
      rw [hm]
      refine .inr ⟨(ret', 1, k'), (ret', 1, new), ?_, ?_, rfl, rfl, hmakes⟩
      · simp only [driveState, hstate, hc, hack, if_true, hold]
      · simp only [Client.driveState, hstate, hc, hack, if_true, hnew]
    · refine hquiet ?_ ?_
      · simp only [Client.makes, hstate, hc, hack, if_false]
      · simp only [driveState, Client.driveState, hstate, hc, hack, if_false]
        split_ifs <;> rfl
  | _ =>
    refine hquiet ?_ ?_
    · simp only [Client.makes, hstate]
    · simp only [driveState, hstate]

theorem Makes.callBack {m : Option CSMsg} {frames : List (List UInt8)} {new : Client}
    (h : Makes code m frames new k') (call : Callback) :
    Makes code m frames (new.callBack call) (k'.callBack call) :=
  ⟨congrArg (Client.callBack call) h.client, h.clean, h.frames⟩

theorem makes_update (code : GeneratedCode) (h : k.Clean) (net : NetOutcome) :
    ∃ ret k' new, k.update code net = (ret, k') ∧
      k.client.update code.protobuf net = (ret, new) ∧
      Makes code (k.client.makes code.protobuf (.update net)) k.frames new k' := by
  unfold update Client.update
  obtain ⟨hold, hnew, hm⟩ |
      ⟨⟨ret, busy, k₁⟩, ⟨ret', busy', new⟩, hold, hnew, hret, hbusy, hmakes⟩ :=
    drives_driveState code h net
  · rw [hold, hnew, hm]
    exact ⟨-1, k, k.client, rfl, rfl, .none h _⟩
  obtain rfl : ret = ret' := hret
  obtain rfl : busy = busy' := hbusy
  have hstate : k₁.client.sessionState = new.sessionState :=
    congrArg Client.sessionState hmakes.client
  rw [hold, hnew]
  simp only [hstate]
  split_ifs
  · exact ⟨-1, _, _, rfl, rfl, hmakes.callBack _⟩
  · exact ⟨-1, _, _, rfl, rfl, hmakes.callBack _⟩
  · exact ⟨busy, _, _, rfl, rfl, hmakes⟩
  · exact ⟨busy, _, _, rfl, rfl, hmakes⟩

theorem makes_pushMessage (code : GeneratedCode) (h : k.Clean) (data : List UInt8) (outcome : SendOutcome) :
    ∃ ret k' new, k.pushMessage code data outcome = (ret, k') ∧
      k.client.pushMessage code.protobuf data outcome = (ret, new) ∧
      Makes code (k.client.makes code.protobuf (.pushMessage data outcome)) k.frames new k' := by
  unfold pushMessage Client.pushMessage Client.makes
  dsimp only
  by_cases hdata : data.length = 0
  · rw [if_pos hdata, if_pos hdata, if_pos hdata]
    exact ⟨-1, k, k.client, rfl, rfl, .none h _⟩
  have hm : (k.fill (.data data)).upMsg = (k.client.dataMsg data).object := upMsg_fill h rfl rfl
  obtain ⟨ret, k₁, new, hsent, hnew, hmakes⟩ :=
    makes_serializeAndSendToPeer code (clean_fill h _) hm outcome
  have hcount : (k.fill (.data data)).client = k.client.countSeqno := rfl
  rw [hcount] at hnew
  rw [if_neg hdata, if_neg hdata, if_neg hdata, hsent, hnew]
  exact ⟨_, k₁, new, rfl, rfl, hmakes⟩

/-- A call does what it does with new messages; the frame it makes is the one with the message that
the client means. -/
theorem makes_step (code : GeneratedCode) (h : k.Clean) {e : ClientEvent} (hstep : k.step code e = some k') :
    ∃ new, clientStep code.protobuf k.client e = some new ∧
      Makes code (k.client.makes code.protobuf e) k.frames new k' := by
  cases e with
  | update net =>
    obtain ⟨ret, k₁, new, hold, hnew, hmakes⟩ := makes_update code h net
    rw [step, hold] at hstep
    rw [clientStep, hnew]
    split_ifs at hstep ⊢
    cases hstep
    exact ⟨new, rfl, hmakes⟩
  | pushMessage data send =>
    obtain ⟨ret, k₁, new, hold, hnew, hmakes⟩ := makes_pushMessage code h data send
    rw [step, hold] at hstep
    rw [clientStep, hnew]
    cases hstep
    exact ⟨new, rfl, hmakes⟩
  | peekMessage =>
    cases hstep
    exact ⟨_, rfl, .none h _⟩
  | popMessage =>
    cases hstep
    exact ⟨_, rfl, .none h _⟩

end ClientProcess

end Rapidapp.Connector
