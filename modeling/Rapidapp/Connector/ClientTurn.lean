import Rapidapp.Connector.ClientPush
import Rapidapp.Connector.ClientAnnounce

/-!
# A client on a network that works

What `Update`, `PushMessage`, `PeekMessage` and `PopMessage` do when `recv` and `send` do not fail
and the peer does not close: the bytes that arrive go to the end of the receive queue, a state of
the handshake that finds its message there takes it and goes on to the next state, and every
message that is made fits. The cases are told apart by what the queue then begins with.
-/

namespace Rapidapp.Connector

open TSocketUtil

/-- Nothing fails during the call and the peer does not close, though any of it may have to wait. -/
structure Works (net : NetOutcome) : Prop where
  check : 0 ≤ net.check
  received : net.recv ≠ .received []
  recv : net.recv ≠ .failed
  send : net.send ≠ .failed

/-- `recv` on a connected socket does not fail by itself. -/
theorem recv_normal {t : TcpSocketUtil} (h : t.recvBuf.Ok) (hstate : t.socketState = .netConnected)
    {outcome : RecvOutcome} (hclosed : outcome ≠ .received []) (hfailed : outcome ≠ .failed) :
    (t.recv outcome).1 = normal := by
  have hafter : ∀ t' : TcpSocketUtil, (t'.afterRecv outcome).1 = normal := by
    intro t'
    cases outcome with
    | wouldBlock => rfl
    | failed => exact absurd rfl hfailed
    | received data =>
      have hdata : data.length ≠ 0 := by
        intro hzero
        rw [List.length_eq_zero_iff.mp hzero] at hclosed
        exact hclosed rfl
      rw [TcpSocketUtil.afterRecv, if_neg hdata]
  have hroom := h.avaiable_eq
  have hroom' := h.recycle.avaiable_eq
  have hend := h.end_le
  have hend' := h.recycle.end_le
  unfold TcpSocketUtil.recv TcpSocketUtil.beforeRecv
  simp only [hstate, reduceCtorEq, or_self, if_false, ne_eq, not_true, false_and]
  rw [if_neg (by omega)]
  split_ifs
  · rfl
  · exact hafter _
  · exact hafter _

namespace Client

variable {pb : Protobuf} {k : Client} {net : NetOutcome}

/-- The socket is connected and the receive queue in order. -/
structure Online (k : Client) : Prop where
  receives : k.Receives
  socket : k.tcpSock.socketState = .netConnected

/-- Whether a client is online is a matter of its socket. -/
theorem Online.of_sock {k' : Client} (h : k.Online) (hsock : k'.tcpSock = k.tcpSock) :
    k'.Online := by
  refine ⟨⟨?_, ?_⟩, ?_⟩
  · rw [hsock]
    exact h.receives.buffers
  · rw [hsock]
    exact h.receives.parser
  · rw [hsock]
    exact h.socket

/-- What the queue holds. -/
def content (k : Client) : List UInt8 := k.tcpSock.recvBuf.content

/-- The client after the bytes have arrived. -/
structure Arrived (k : Client) (bytes : List UInt8) (k' : Client) : Prop where
  online : k'.Online
  content : k'.content = k.content ++ bytes
  client : k' = { k with tcpSock := k'.tcpSock }

theorem arrived_recvd (h : k.Online) (hw : Works net)
    (hdata : net.recv.bytes.length ≤ offered k.tcpSock) :
    (k.tcpSock.recv net.recv).1 = normal ∧ Arrived k net.recv.bytes (k.recvd net.recv) := by
  have hret := recv_normal h.receives.buffers.recv.ok h.socket hw.received hw.recv
  obtain ⟨b, hsock, _, _, hcontent⟩ := recv_spec h.receives.buffers.recv.ok hdata
  refine ⟨hret, ⟨⟨(keeps_recv hdata).buffers h.receives.buffers, ?_⟩, ?_⟩, ?_, rfl⟩
  · exact (parser_recv k.tcpSock net.recv).trans h.receives.parser
  · rw [recvd, hsock, hret]
    exact h.socket
  · rw [Client.content, recvd, hsock]
    exact hcontent

/-- The message at the head of the queue is taken. -/
def pkgTaken (pb : Protobuf) (n : Nat) (k : Client) : Client :=
  { k with
    tcpSock := { k.tcpSock with recvBuf := k.tcpSock.recvBuf.skip n }
    downMsg := parsePkg pb (k.content.take n) }

theorem content_pkgTaken (n : Nat) : (k.pkgTaken pb n).content = k.content.drop n :=
  RingBuffer.content_skip _ _

theorem Online.pkgTaken (h : k.Online) {n : Nat} (hn : n ≤ k.content.length) :
    (k.pkgTaken pb n).Online where
  receives := ⟨⟨h.receives.buffers.send, h.receives.buffers.recv.skip hn⟩, h.receives.parser⟩
  socket := h.socket

/-- No message has arrived. -/
theorem tryToRecv_none (h : k.Online) (hw : Works net)
    (hdata : net.recv.bytes.length ≤ offered k.tcpSock)
    (hnext : pkgDecoder.next (k.recvd net.recv).content = none) :
    k.tryToRecvFromPeerAndParse pb net.recv = (connectorErrNoMorePkg, k.recvd net.recv) := by
  obtain ⟨hret, harrived⟩ := arrived_recvd h hw hdata
  have hhas := hasNewPkg_eq harrived.online.receives.parser harrived.online.receives.buffers.recv.ok
  rw [recvd] at hhas hnext
  rw [recvd, tryToRecvFromPeerAndParse]
  rcases hr : k.tcpSock.recv net.recv with ⟨ret, sock⟩
  rw [hr] at hret hhas hnext
  dsimp only [Client.content] at hret hhas hnext ⊢
  simp only [hret, hhas, hnext, Option.isSome_none, ne_eq, not_true, if_false]

/-- The first message that has arrived is taken. -/
theorem tryToRecv_some (h : k.Online) (hw : Works net)
    (hdata : net.recv.bytes.length ≤ offered k.tcpSock) {n : Nat}
    (hnext : pkgDecoder.next (k.recvd net.recv).content = some n) :
    k.tryToRecvFromPeerAndParse pb net.recv =
      (if ((k.recvd net.recv).pkgTaken pb n).downMsg.head.bodyid = CSBodyCmdId.error.value then -1
        else 0, (k.recvd net.recv).pkgTaken pb n) := by
  obtain ⟨hret, harrived⟩ := arrived_recvd h hw hdata
  have hparser := harrived.online.receives.parser
  have hok := harrived.online.receives.buffers.recv.ok
  have hhas := hasNewPkg_eq hparser hok
  have hpeek := peekFromRecvQ_eq hparser hok
  have hpop := popFromRecvQ_some hparser hok hnext
  have hassert : normal ≠ assertFailed := by decide
  unfold pkgTaken
  rw [recvd] at hhas hpeek hpop hnext
  rw [recvd, tryToRecvFromPeerAndParse]
  rcases hr : k.tcpSock.recv net.recv with ⟨ret, sock⟩
  rw [hr] at hret hhas hpeek hpop hnext
  dsimp only [Client.content] at hret hhas hpeek hpop hnext ⊢
  simp only [hret, hhas, hpeek, hpop, hnext, hassert, Option.isSome_some, Option.map_some,
    Option.getD_some, ne_eq, not_true, if_false, false_and]
  split_ifs with herror
  · simp only [herror]
    rfl
  · simp only [herror]
    rfl

/-! ## What `Update` does in each state -/

/-- What one call leaves: the state, the receive queue, and who was told what. -/
structure Moves (k k' : Client) (state : ClientState) (content : List UInt8) : Prop where
  state : k'.sessionState = state
  content : k'.content = content
  online : k'.Online
  calls : k'.calls = k.calls
  flag : k'.handshakeDone = k.handshakeDone

/-- The message fits into the send queue. -/
theorem not_refuses {m : CSMsg} (hok : k.tcpSock.sendBuf.Ok)
    (hfit : ((frame pb m).length : Int) ≤ k.tcpSock.sendBuf.avaiable) : ¬ k.Refuses pb m := by
  have hroom := hok.avaiable_eq
  have hsize := hok.size_lt
  rw [Refuses, CInt.int32_of_range (by omega) (by omega)]
  omega

/-- A connected socket that `send` does not fail on stays connected. -/
theorem socketState_send {t : TcpSocketUtil} (h : t.sendBuf.Ok)
    (hstate : t.socketState = .netConnected) {outcome : SendOutcome} (hfailed : outcome ≠ .failed) :
    (t.send outcome).2.2.socketState = .netConnected := by
  have hlen := h.datalen_eq
  unfold TcpSocketUtil.send
  simp only [hstate, reduceCtorEq, if_false, ne_eq, not_true, false_and]
  rw [if_neg (by omega)]
  cases outcome with
  | failed => exact absurd rfl hfailed
  | wouldBlock => split_ifs <;> exact hstate
  | sent len =>
    dsimp only
    split_ifs
    · exact hstate
    · exact hstate
    · rfl
    · rfl

/-- A message that fits is queued, and the kernel takes what it takes of it. -/
theorem moves_serializeAndSendToPeer (h : k.Online) {m : CSMsg}
    (hfit : ((frame pb m).length : Int) ≤ k.tcpSock.sendBuf.avaiable)
    {send : SendOutcome} (hsend : send ≠ .failed) :
    (k.countSeqno.serializeAndSendToPeer pb m send).1 = 0 ∧
      Moves k (k.countSeqno.serializeAndSendToPeer pb m send).2 k.sessionState k.content := by
  have hok := h.receives.buffers.send.ok
  have hroom := hok.avaiable_eq
  have hsize := hok.size_lt
  have hnot := not_refuses hok hfit
  have hpush := pushvToSendQ_takes hnot
  have hfits : (k.withFrame pb m).sendBuf.Ok :=
    hok.append (by omega : k.tcpSock.sendBuf.end_ + (frame pb m).length ≤ _)
  have hlen := hfits.datalen_eq
  have hgoes : SendsOn send (k.countSeqno.withFrame pb m) :=
    .inr ⟨.inl h.socket, (Int.natCast_nonneg _).trans_eq hlen.symm, .inr hsend⟩
  have hzero := (serializeAndSendToPeer_eq_zero_iff (k := k.countSeqno) hnot send).mpr hgoes
  have hsnd := serializeAndSendToPeer_pushed (k := k.countSeqno) hpush send
  have hkeeps := @keeps_serializeAndSendToPeer pb k.countSeqno m
    (by omega) send
  obtain ⟨hrecv, hparser⟩ := recv_side_send (k.withFrame pb m) send
  have hstate := socketState_send (t := k.withFrame pb m) hfits h.socket hsend
  generalize k.countSeqno.serializeAndSendToPeer pb m send = r at hzero hsnd hkeeps ⊢
  obtain ⟨ret, k'⟩ := r
  obtain rfl : ret = 0 := hzero
  subst hsnd
  refine ⟨rfl, rfl, ?_, ⟨⟨hkeeps.buffers h.receives.buffers, hparser.trans h.receives.parser⟩,
    hstate⟩, rfl, rfl⟩
  exact congrArg RingBuffer.content hrecv

/-- A handshake message is queued, and the next state is entered. -/
theorem moves_sendHandShake (h : k.Online) {m : CSMsg}
    (hfit : ((frame pb m).length : Int) ≤ k.tcpSock.sendBuf.avaiable) (state : ClientState)
    {send : SendOutcome} (hsend : send ≠ .failed) :
    (k.sendHandShake pb m state send).1 = 0 ∧
      Moves k (k.sendHandShake pb m state send).2 state k.content := by
  obtain ⟨hzero, hmoves⟩ := moves_serializeAndSendToPeer h hfit hsend
  rw [sendHandShake]
  generalize k.countSeqno.serializeAndSendToPeer pb m send = r at hzero hmoves ⊢
  obtain ⟨ret, k'⟩ := r
  obtain rfl : ret = 0 := hzero
  exact ⟨rfl, rfl, hmoves.content, hmoves.online.of_sock rfl, hmoves.calls, hmoves.flag⟩

/-! ### The states of the handshake -/

/-- The connection is not made yet. -/
structure Connecting (k : Client) : Prop where
  receives : k.Receives
  socket : k.tcpSock.socketState = .netConnecting
  fd : 0 ≤ k.tcpSock.fd
  state : k.sessionState = .sessionStateTcpSyning

/-- What `Update` makes of a `switch` in which nothing goes wrong. -/
theorem update_of_normal {busy : Int} {k' : Client}
    (hdrive : k.driveState pb net = some (normal, busy, k')) : k.update pb net = (busy, k') := by
  rw [update, hdrive]
  rfl

theorem update_snd {busy : Int} {k' : Client}
    (hdrive : k.driveState pb net = some (normal, busy, k')) : (k.update pb net).2 = k' := by
  rw [update_of_normal hdrive]

/-- It takes some more time. -/
theorem update_connecting (h : k.Connecting) (hcheck : 0 < net.check) :
    k.update pb net = (0, k) := by
  have hdrive : k.driveState pb net = some (normal, 0, k) := by
    rw [driveState]
    simp only [h.state, checkConnect, TcpSocketUtil.checkNonBlock]
    rw [if_neg (not_lt.mpr h.fd), if_neg hcheck.ne', if_neg (not_lt.mpr hcheck.le)]
    simp only [h.socket, reduceCtorEq, and_false, if_false]
    rw [← h.state]
  exact update_of_normal hdrive

/-- The client once `CheckConnect` has found the connection made. -/
def connected (k : Client) : Client :=
  { k with tcpSock := { k.tcpSock with socketState := .netConnected } }

theorem checkConnect_connected (h : k.Connecting) :
    k.checkConnect 0 = (normal, k.connected) := by
  rw [checkConnect, TcpSocketUtil.checkNonBlock, if_neg (not_lt.mpr h.fd), if_pos rfl]
  rfl

theorem Connecting.online (h : k.Connecting) : k.connected.Online :=
  ⟨⟨⟨h.receives.buffers.send, h.receives.buffers.recv⟩, h.receives.parser⟩, rfl⟩

theorem makes_connecting (h : k.Connecting) (hcheck : 0 < net.check) :
    k.makes pb (.update net) = none := by
  simp only [makes, h.state, checkConnect, TcpSocketUtil.checkNonBlock]
  rw [if_neg (not_lt.mpr h.fd), if_neg hcheck.ne', if_neg (not_lt.mpr hcheck.le)]
  simp only [h.socket, reduceCtorEq, and_false, if_false]

theorem makes_syn (h : k.Connecting) (hcheck : net.check = 0) :
    k.makes pb (.update net) = some k.synMsg := by
  have hstate : k.connected.tcpSock.socketState = .netConnected := rfl
  rw [makes]
  simp only [h.state, hcheck, checkConnect_connected h, hstate, and_self, if_true]

/-- It is made, and the client begins. -/
theorem moves_update_connected (h : k.Connecting) (hcheck : net.check = 0)
    (hsend : net.send ≠ .failed)
    (hfit : ((frame pb k.synMsg).length : Int) ≤ k.tcpSock.sendBuf.avaiable) :
    Moves k (k.update pb net).2 .sessionStateKeySyning k.content := by
  have hconn := checkConnect_connected h
  have hstate : k.connected.tcpSock.socketState = .netConnected := rfl
  have hsyn : k.connected.synMsg = k.synMsg := rfl
  obtain ⟨hret, hmoves⟩ := moves_sendHandShake h.online (m := k.synMsg) hfit
    .sessionStateKeySyning hsend
  have hdrive : k.driveState pb net = some (normal, 1,
      (k.connected.sendHandShake pb k.synMsg .sessionStateKeySyning net.send).2) := by
    rw [driveState]
    simp only [h.state, hcheck, hconn, hstate, handShakeSyn, hsyn, hret, and_self, if_true]
    rfl
  rw [update_snd hdrive]
  exact ⟨hmoves.state, hmoves.content, hmoves.online, hmoves.calls, hmoves.flag⟩

/-- The state behind one that waits for a message. -/
def onward : ClientState → ClientState
  | .sessionStateKeySyning => .sessionStateAuthing
  | .sessionStateAuthing => .sessionStateReady
  | .sessionStateReady => .sessionStateDone
  | state => state

theorem Arrived.moves {bytes : List UInt8} {k' : Client} (h : Arrived k bytes k') :
    Moves k k' k.sessionState (k.content ++ bytes) :=
  ⟨by rw [h.client], h.content, h.online, by rw [h.client], by rw [h.client]⟩

/-- A state that waits for a message finds none. -/
theorem moves_update_none (h : k.Online) (hw : Works net)
    (hdata : net.recv.bytes.length ≤ offered k.tcpSock) {id : CSBodyCmdId}
    (hstate : expected k.sessionState = some id)
    (hnext : pkgDecoder.next (k.content ++ net.recv.bytes) = none) :
    Moves k (k.update pb net).2 k.sessionState (k.content ++ net.recv.bytes) ∧
      k.makes pb (.update net) = none := by
  obtain ⟨_, harrived⟩ := arrived_recvd h hw hdata
  rw [← harrived.content] at hnext
  have htry := @tryToRecv_none pb _ _ h hw hdata hnext
  have hne : connectorErrNoMorePkg ≠ 0 := by decide
  have hmoves := harrived.moves
  cases hs : k.sessionState with
  | sessionStateKeySyning =>
    have hack : k.handShakeTryAck pb net.recv = (connectorErrNoMorePkg, k.recvd net.recv) := by
      rw [handShakeTryAck, htry]
      simp only [hne, ne_eq, not_false_eq_true, if_true]
    have hdrive : k.driveState pb net = some (normal, 0, k.recvd net.recv) := by
      rw [driveState]
      simp only [hs, hack, hne, if_true, if_false]
      rfl
    rw [update_snd hdrive, makes, ← hs]
    refine ⟨hmoves, ?_⟩
    simp only [hs, hack, hne, if_false]
  | sessionStateAuthing =>
    have hdrive : k.driveState pb net = some (normal, 0, k.recvd net.recv) := by
      rw [driveState]
      simp only [hs, handShakeTryReady, tryHandShake, htry, hne, ne_eq, not_true,
        not_false_eq_true, if_true, if_false]
      rfl
    rw [update_snd hdrive, makes, ← hs]
    refine ⟨hmoves, ?_⟩
    simp only [hs]
  | sessionStateReady =>
    have hdrive : k.driveState pb net = some (normal, 0, k.recvd net.recv) := by
      rw [driveState]
      simp only [hs, handShakeTryDone, tryHandShake, htry, hne, ne_eq, not_true,
        not_false_eq_true, if_true, if_false]
      rfl
    rw [update_snd hdrive, makes, ← hs]
    refine ⟨hmoves, ?_⟩
    simp only [hs]
  | sessionStateInited => rw [hs] at hstate; cases hstate
  | sessionStateTcpSyning => rw [hs] at hstate; cases hstate
  | sessionStateDone => rw [hs] at hstate; cases hstate
  | sessionStateFini => rw [hs] at hstate; cases hstate

/-- It finds the message that it waits for. -/
theorem moves_update_some (h : k.Online) (hw : Works net)
    (hdata : net.recv.bytes.length ≤ offered k.tcpSock) {id : CSBodyCmdId}
    (hstate : expected k.sessionState = some id) {n : Nat}
    (hnext : pkgDecoder.next (k.content ++ net.recv.bytes) = some n)
    (hid : (parsePkg pb ((k.content ++ net.recv.bytes).take n)).head.bodyid = id.value)
    (hfit : Fits pb k (.update net)) :
    Moves k (k.update pb net).2 (onward k.sessionState) ((k.content ++ net.recv.bytes).drop n) ∧
      k.makes pb (.update net) =
        if k.sessionState = .sessionStateKeySyning then some k.authMsg else none := by
  obtain ⟨_, harrived⟩ := arrived_recvd h hw hdata
  rw [← harrived.content] at hnext hid ⊢
  have htry := @tryToRecv_some pb _ _ h hw hdata _ hnext
  have hnot : ((k.recvd net.recv).pkgTaken pb n).downMsg.head.bodyid ≠ CSBodyCmdId.error.value := by
    change (parsePkg pb _).head.bodyid ≠ _
    rw [hid]
    cases hs : k.sessionState <;> rw [hs] at hstate <;> cases hstate <;> decide
  have hbody : ((k.recvd net.recv).pkgTaken pb n).downMsg.head.bodyid = id.value := hid
  rw [if_neg hnot] at htry
  have honline : ((k.recvd net.recv).pkgTaken pb n).Online :=
    harrived.online.pkgTaken (pkgDecoder.next_le hnext)
  have hcontent := @content_pkgTaken pb (k.recvd net.recv) n
  have hcalls : ((k.recvd net.recv).pkgTaken pb n).calls = k.calls := rfl
  have hflag : ((k.recvd net.recv).pkgTaken pb n).handshakeDone = k.handshakeDone := rfl
  have hquiet : ((k.recvd net.recv).pkgTaken pb n).authMsg = k.authMsg := rfl
  have hbuf : ((k.recvd net.recv).pkgTaken pb n).tcpSock.sendBuf = k.tcpSock.sendBuf :=
    k.tcpSock.sendBuf_recv net.recv
  rw [← hcontent]
  generalize (k.recvd net.recv).pkgTaken pb n = k₁ at htry hbody honline hcalls hflag hquiet hbuf ⊢
  cases hs : k.sessionState with
  | sessionStateKeySyning =>
    rw [hs] at hstate
    cases hstate
    have hack : k.handShakeTryAck pb net.recv =
        (0, { k₁ with encryptSkey := k₁.downMsg.body.ack.getD [] }) := by
      rw [handShakeTryAck, htry]
      simp only [hbody, ne_eq, not_true, if_false]
    have hmakes : k.makes pb (.update net) = some k.authMsg := by
      rw [makes]
      simp only [hs, hack, if_true]
    have hroom := hfit _ hmakes
    rw [← hbuf] at hroom
    have honline' : Online { k₁ with encryptSkey := k₁.downMsg.body.ack.getD [] } :=
      ⟨⟨honline.receives.buffers, honline.receives.parser⟩, honline.socket⟩
    have hauth : { k₁ with encryptSkey := k₁.downMsg.body.ack.getD [] }.authMsg = k.authMsg := hquiet
    obtain ⟨hret, hmoves⟩ := moves_sendHandShake honline' (m := k.authMsg) hroom
      .sessionStateAuthing hw.send
    have hdrive : k.driveState pb net = some (normal, 1, (sendHandShake pb k.authMsg
        .sessionStateAuthing net.send
        { k₁ with encryptSkey := k₁.downMsg.body.ack.getD [] }).2) := by
      rw [driveState]
      simp only [hs, hack, handShakeAuth, hauth, hret, if_true]
      rfl
    rw [update_snd hdrive, if_pos rfl]
    exact ⟨⟨hmoves.state, hmoves.content, hmoves.online, hmoves.calls.trans hcalls,
      hmoves.flag.trans hflag⟩, hmakes⟩
  | sessionStateAuthing =>
    rw [hs] at hstate
    cases hstate
    have hdrive : k.driveState pb net = some (normal, 0,
        { k₁ with
          passport := k₁.downMsg.body.passport.getD 0
          sessionState := .sessionStateReady }) := by
      rw [driveState]
      simp only [hs, handShakeTryReady, tryHandShake, htry, hbody, ne_eq, not_true, if_false]
      rfl
    rw [update_snd hdrive, makes]
    refine ⟨⟨rfl, rfl, ⟨⟨honline.receives.buffers, honline.receives.parser⟩, honline.socket⟩,
      hcalls, hflag⟩, ?_⟩
    simp only [hs, reduceCtorEq, if_false]
  | sessionStateReady =>
    rw [hs] at hstate
    cases hstate
    have hdrive : k.driveState pb net =
        some (normal, 0, { k₁ with sessionState := .sessionStateDone }) := by
      rw [driveState]
      simp only [hs, handShakeTryDone, tryHandShake, htry, hbody, ne_eq, not_true, if_false]
      rfl
    rw [update_snd hdrive, makes]
    refine ⟨⟨rfl, rfl, ⟨⟨honline.receives.buffers, honline.receives.parser⟩, honline.socket⟩,
      hcalls, hflag⟩, ?_⟩
    simp only [hs, reduceCtorEq, if_false]
  | sessionStateInited => rw [hs] at hstate; cases hstate
  | sessionStateTcpSyning => rw [hs] at hstate; cases hstate
  | sessionStateDone => rw [hs] at hstate; cases hstate
  | sessionStateFini => rw [hs] at hstate; cases hstate

/-! ### What else the application calls -/

/-- A payload that fits is queued. -/
theorem moves_pushMessage (h : k.Online) {data : List UInt8} (hdata : data.length ≠ 0)
    {send : SendOutcome} (hfit : Fits pb k (.pushMessage data send)) (hsend : send ≠ .failed) :
    (k.pushMessage pb data send).1 = 0 ∧
      Moves k (k.pushMessage pb data send).2 k.sessionState k.content := by
  have hmakes : k.makes pb (.pushMessage data send) = some (k.dataMsg data) := by
    rw [makes, if_neg hdata]
  obtain ⟨hzero, hmoves⟩ := moves_serializeAndSendToPeer h (hfit _ hmakes) hsend
  rw [pushMessage, if_neg hdata, orFailed]
  generalize k.countSeqno.serializeAndSendToPeer pb (k.dataMsg data) send = r at hzero hmoves ⊢
  obtain ⟨ret, k'⟩ := r
  obtain rfl : ret = 0 := hzero
  exact ⟨rfl, hmoves⟩

theorem moves_peekMessage (h : k.Online) :
    Moves k (k.peekMessage pb).2.2 k.sessionState k.content := by
  have hok := h.receives.buffers.recv.ok
  have hpeek := peekFromRecvQ_eq h.receives.parser hok
  rw [peekMessage, hasNewPkg_eq h.receives.parser hok]
  cases pkgDecoder.next k.tcpSock.recvBuf.content with
  | none => exact ⟨rfl, rfl, h.of_sock rfl, rfl, rfl⟩
  | some n =>
    simp only [Option.isSome_some, hpeek]
    split_ifs
    · exact ⟨rfl, rfl, h.of_sock rfl, rfl, rfl⟩
    · exact ⟨rfl, rfl, h.of_sock rfl, rfl, rfl⟩
    · exact ⟨rfl, rfl, h.of_sock rfl, rfl, rfl⟩

/-- A pop without a package moves the bytes to the front. -/
theorem moves_popMessage_none (h : k.Online) (hnext : pkgDecoder.next k.content = none) :
    Moves k k.popMessage.2 k.sessionState k.content := by
  have hok := h.receives.buffers.recv
  have hpop := popFromRecvQ_none h.receives.parser hok.ok hnext
  have honline : Online
      { k with tcpSock := { k.tcpSock with recvBuf := k.tcpSock.recvBuf.recycle } } :=
    ⟨⟨⟨h.receives.buffers.send, hok.recycle⟩, h.receives.parser⟩, h.socket⟩
  have hcontent := RingBuffer.content_recycle k.tcpSock.recvBuf
  rw [popMessage, hpop]
  dsimp only
  split_ifs <;> exact ⟨rfl, hcontent, honline, rfl, rfl⟩

theorem moves_popMessage_some (h : k.Online) {n : Nat}
    (hnext : pkgDecoder.next k.content = some n) :
    Moves k k.popMessage.2 k.sessionState (k.content.drop n) := by
  have hok := h.receives.buffers.recv
  have hpop := popFromRecvQ_some h.receives.parser hok.ok hnext
  have honline : Online
      { k with tcpSock := { k.tcpSock with recvBuf := k.tcpSock.recvBuf.skip n } } :=
    ⟨⟨⟨h.receives.buffers.send, hok.skip (pkgDecoder.next_le hnext)⟩, h.receives.parser⟩,
      h.socket⟩
  have hcontent := RingBuffer.content_skip k.tcpSock.recvBuf n
  rw [popMessage, hpop]
  dsimp only
  split_ifs <;> exact ⟨rfl, hcontent, honline, rfl, rfl⟩

end Client

end Rapidapp.Connector
