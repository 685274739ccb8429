import Rapidapp.Connector.ClientObject
import Rapidapp.Connector.Wire

/-!
# The handshake of a client: what it takes from the queue, and what it leaves unsent

`HandShake_TRY_ACK`, `HandShake_TRY_READY` and `HandShake_TRY_DONE`
(`client_api/connector_client_api_imp.cpp:260-366`) return `-1` for a `CSError` and for a
message they do not expect, and so does `TryToRecvFromPeerAndParse` when there is no message
yet. Only `SerializeAndSendToPeer` calls `Send`, so bytes that one call could not send wait for
the next message.
-/

namespace Rapidapp.Connector

open TSocketUtil

namespace Client

variable {pb : Protobuf} {k : Client} {m : CSMsg}

/-- The message that a call takes from the receive queue when `recv` does this during it, none when
no complete one is there. -/
def consumed (pb : Protobuf) (outcome : RecvOutcome) (k : Client) : Option CSMsg :=
  if (k.tcpSock.recv outcome).1 = normal then
    (pkgDecoder.next (k.tcpSock.recv outcome).2.recvBuf.content).map fun n =>
      parsePkg pb ((k.tcpSock.recv outcome).2.recvBuf.content.take n)
  else none

/-- A client whose socket can receive. -/
structure Receives (k : Client) : Prop where
  buffers : Buffers k.tcpSock
  parser : k.tcpSock.tcpPkgParserImp = some getPkgLen

/-- What a client is after `TryToRecvFromPeerAndParse` took a message: it has the message, and the
package is gone from the queue. -/
structure Took (outcome : RecvOutcome) (m : CSMsg) (k k' : Client) : Prop where
  client : k' = { k with tcpSock := k'.tcpSock, downMsg := m }
  sendBuf : k'.tcpSock.sendBuf = k.tcpSock.sendBuf
  state : k'.tcpSock.socketState = k.tcpSock.socketState
  popped : ∃ pkg, pkg ≠ [] ∧
    k.tcpSock.recvBuf.content ++ outcome.bytes = pkg ++ k'.tcpSock.recvBuf.content

variable (pb) in
/-- `TryToRecvFromPeerAndParse` takes the message at the head of the queue, or says that there is
none, or why `Recv` failed. A `CSError` it takes as well. -/
theorem tryToRecv_spec (h : k.Receives) {outcome : RecvOutcome}
    (hdata : outcome.bytes.length ≤ offered k.tcpSock) :
    (k.consumed pb outcome = none ∧ k.tryToRecvFromPeerAndParse pb outcome =
        (if (k.tcpSock.recv outcome).1 = normal then connectorErrNoMorePkg
          else (k.tcpSock.recv outcome).1, { k with tcpSock := (k.tcpSock.recv outcome).2 })) ∨
      ∃ m k', k.consumed pb outcome = some m ∧ Took outcome m k k' ∧
        k.tryToRecvFromPeerAndParse pb outcome =
          (if m.head.bodyid = CSBodyCmdId.error.value then -1 else 0, k') := by
  obtain ⟨hok, hcontent, hstate⟩ : (k.tcpSock.recv outcome).2.recvBuf.Ok ∧
      (k.tcpSock.recv outcome).2.recvBuf.content = k.tcpSock.recvBuf.content ++ outcome.bytes ∧
      (k.tcpSock.recv outcome).2.socketState =
        stateAfter (k.tcpSock.recv outcome).1 k.tcpSock := by
    obtain ⟨b, hsock, hok, _, hcontent⟩ := recv_spec h.buffers.recv.ok hdata
    rw [hsock]
    exact ⟨hok, hcontent, rfl⟩
  have hparser := (parser_recv k.tcpSock outcome).trans h.parser
  have hsend := k.tcpSock.sendBuf_recv outcome
  unfold consumed
  rcases hr : k.tcpSock.recv outcome with ⟨ret, sock⟩
  rw [hr] at hok hcontent hstate hparser hsend
  dsimp only at hok hcontent hstate hparser hsend ⊢
  by_cases hret : ret = normal
  · have hhas := hasNewPkg_eq hparser hok
    have hpeek := peekFromRecvQ_eq hparser hok
    rw [if_pos hret, if_pos hret]
    cases hnext : pkgDecoder.next sock.recvBuf.content with
    | none =>
      refine .inl ⟨rfl, ?_⟩
      rw [tryToRecvFromPeerAndParse, hr]
      simp only [hret, hhas, hnext, Option.isSome_none, ne_eq, not_true, if_false]
    | some n =>
      have hpop := popFromRecvQ_some hparser hok hnext
      have hassert : normal ≠ assertFailed := by decide
      rw [hret] at hstate
      refine .inr ⟨parsePkg pb (sock.recvBuf.content.take n),
        { k with
          tcpSock := { sock with recvBuf := sock.recvBuf.skip n }
          downMsg := parsePkg pb (sock.recvBuf.content.take n) }, rfl, ⟨rfl, hsend, hstate, ?_⟩,
        ?_⟩
      · refine ⟨sock.recvBuf.content.take n, ?_, ?_⟩
        · intro hnil
          have hpos := pkgDecoder.next_pos hnext
          have hle := pkgDecoder.next_le hnext
          have hlen := congrArg List.length hnil
          rw [List.length_take, List.length_nil] at hlen
          omega
        · rw [← hcontent, RingBuffer.content_skip, List.take_append_drop]
      · rw [tryToRecvFromPeerAndParse, hr]
        simp only [hret, hhas, hpeek, hpop, hnext, hassert, Option.isSome_some, Option.map_some,
          Option.getD_some, ne_eq, not_true, if_false, false_and]
        split_ifs <;> rfl
  · rw [if_neg hret, if_neg hret]
    refine .inl ⟨rfl, ?_⟩
    rw [tryToRecvFromPeerAndParse, hr]
    simp only [hret, ne_eq, not_false_eq_true, if_true]

/-! ## Messages that are not expected -/

/-- The message that a state of the handshake waits for. -/
def expected : ClientState → Option CSBodyCmdId
  | .sessionStateKeySyning => some .synack
  | .sessionStateAuthing => some .passport
  | .sessionStateReady => some .startApp
  | _ => none

theorem Took.sessionState {outcome : RecvOutcome} {k' : Client} (h : Took outcome m k k') :
    k'.sessionState = k.sessionState := by rw [h.client]

theorem Took.downMsg {outcome : RecvOutcome} {k' : Client} (h : Took outcome m k k') :
    k'.downMsg = m := by rw [h.client]

theorem Took.calls {outcome : RecvOutcome} {k' : Client} (h : Took outcome m k k') :
    k'.calls = k.calls := by rw [h.client]

section Rejected

variable {outcome : RecvOutcome} {k' : Client} {id : CSBodyCmdId}

/-- Both ways to reject a message look like no message. -/
theorem handShakeTryAck_rejected (htook : Took outcome m k k')
    (htry : k.tryToRecvFromPeerAndParse pb outcome =
      (if m.head.bodyid = CSBodyCmdId.error.value then -1 else 0, k'))
    (hbad : m.head.bodyid = CSBodyCmdId.error.value ∨
      m.head.bodyid ≠ CSBodyCmdId.synack.value) :
    k.handShakeTryAck pb outcome = (connectorErrNoMorePkg, k') := by
  rw [handShakeTryAck, htry]
  by_cases herror : m.head.bodyid = CSBodyCmdId.error.value
  · simp only [herror, if_true]
    rfl
  · have hother : m.head.bodyid ≠ CSBodyCmdId.synack.value := hbad.resolve_left herror
    simp only [herror, if_false, htook.downMsg, hother, ne_eq, not_true, not_false_eq_true, if_true]
    rfl

/-- Of the two ways one looks like no message. -/
theorem tryHandShake_rejected (next : Client → Client) (htook : Took outcome m k k')
    (htry : k.tryToRecvFromPeerAndParse pb outcome =
      (if m.head.bodyid = CSBodyCmdId.error.value then -1 else 0, k'))
    (hbad : m.head.bodyid = CSBodyCmdId.error.value ∨ m.head.bodyid ≠ id.value) :
    k.tryHandShake pb id next outcome =
      (if m.head.bodyid = CSBodyCmdId.error.value then 0 else -1, k') := by
  rw [tryHandShake, htry]
  by_cases herror : m.head.bodyid = CSBodyCmdId.error.value
  · simp only [herror, if_true]
    rfl
  · have hother : m.head.bodyid ≠ id.value := hbad.resolve_left herror
    simp only [herror, if_false, htook.downMsg, hother, ne_eq, not_true, not_false_eq_true, if_true]

end Rejected

/-- What `Update` makes of the value of the `switch` during the handshake. -/
theorem update_of_driveState {net : NetOutcome} {ret busy : Int} {k' : Client}
    (hdrive : k.driveState pb net = some (ret, busy, k'))
    (hstate : k'.sessionState ≠ .sessionStateDone) :
    k.update pb net =
      if ret ≠ normal then (-1, k'.callBack .onHandShakeFailed) else (busy, k') := by
  rw [update, hdrive]
  simp only [hstate, ne_eq, not_false_eq_true, if_true]

/-- A message that is rejected is reported unless it looks like no message. -/
theorem update_rejected (h : k.Receives) {net : NetOutcome}
    (hdata : net.recv.bytes.length ≤ offered k.tcpSock) {id : CSBodyCmdId}
    (hstate : expected k.sessionState = some id) (hm : k.consumed pb net.recv = some m)
    (hbad : m.head.bodyid = CSBodyCmdId.error.value ∨ m.head.bodyid ≠ id.value) :
    ∃ k', Took net.recv m k k' ∧ k.update pb net =
      if k.sessionState = .sessionStateKeySyning ∨ m.head.bodyid = CSBodyCmdId.error.value then
        (0, k')
      else (-1, k'.callBack .onHandShakeFailed) := by
  obtain ⟨hnone, _⟩ | ⟨m', k', hsome, htook, htry⟩ := tryToRecv_spec pb h hdata
  · rw [hnone] at hm
    cases hm
  obtain rfl : m' = m := Option.some.inj (hsome.symm.trans hm)
  refine ⟨k', htook, ?_⟩
  have hsame := htook.sessionState
  cases hs : k.sessionState with
  | sessionStateKeySyning =>
    rw [hs] at hstate hsame
    cases hstate
    have hdrive : k.driveState pb net = some (0, 0, k') := by
      rw [driveState]
      simp only [hs, handShakeTryAck_rejected htook htry hbad]
      rfl
    rw [update_of_driveState hdrive (by simp [hsame])]
    simp [normal]
  | sessionStateAuthing =>
    rw [hs] at hstate hsame
    cases hstate
    have hdrive : k.driveState pb net =
        some (if m'.head.bodyid = CSBodyCmdId.error.value then 0 else -1, 0, k') := by
      rw [driveState]
      simp only [hs, handShakeTryReady, tryHandShake_rejected _ htook htry hbad]
    rw [update_of_driveState hdrive (by simp [hsame])]
    by_cases herror : m'.head.bodyid = CSBodyCmdId.error.value <;> simp [herror, normal]
  | sessionStateReady =>
    rw [hs] at hstate hsame
    cases hstate
    have hdrive : k.driveState pb net =
        some (if m'.head.bodyid = CSBodyCmdId.error.value then 0 else -1, 0, k') := by
      rw [driveState]
      simp only [hs, handShakeTryDone, tryHandShake_rejected _ htook htry hbad]
    rw [update_of_driveState hdrive (by simp [hsame])]
    by_cases herror : m'.head.bodyid = CSBodyCmdId.error.value <;> simp [herror, normal]
  | sessionStateInited => rw [hs] at hstate; cases hstate
  | sessionStateTcpSyning => rw [hs] at hstate; cases hstate
  | sessionStateDone => rw [hs] at hstate; cases hstate
  | sessionStateFini => rw [hs] at hstate; cases hstate

end Client

namespace ClientObject

variable {pb : Protobuf} {o : ClientObject}

/-- The `Update` says that the handshake has failed. -/
def Rejects (pb : Protobuf) (net : NetOutcome) (o : ClientObject) : Prop :=
  (o.call pb (.update net)).1 = -1 ∧
    (o.call pb (.update net)).2.client.calls = o.client.calls ++ [.onHandShakeFailed]

theorem Ok.receives (h : o.Ok) (hlistening : o.listening = true) : o.client.Receives :=
  ⟨h.buffers, h.parser hlistening⟩

theorem Ok.listening_of_expected (h : o.Ok) {id : CSBodyCmdId}
    (hstate : Client.expected o.client.sessionState = some id) : o.listening = true := by
  apply h.listening
  · intro hinited
    rw [hinited] at hstate
    cases hstate
  · intro hfini
    rw [hfini] at hstate
    cases hstate

/-- An `Update` that takes a `CSError` or a message its state does not expect fails exactly when it
takes another message than a `CSError`, in another state than `SESSION_STATE_KEY_SYNING`. -/
theorem rejects_iff (h : Reachable pb o) {net : NetOutcome}
    (hpossible : Possible pb o (.update net)) {id : CSBodyCmdId}
    (hstate : Client.expected o.client.sessionState = some id) {m : CSMsg}
    (hm : o.client.consumed pb net.recv = some m)
    (hbad : m.head.bodyid = CSBodyCmdId.error.value ∨ m.head.bodyid ≠ id.value) :
    Rejects pb net o ↔ o.client.sessionState ≠ .sessionStateKeySyning ∧
      m.head.bodyid ≠ CSBodyCmdId.error.value := by
  have hlistening := h.ok.listening_of_expected hstate
  obtain ⟨k', htook, hupdate⟩ :=
    Client.update_rejected (h.ok.receives hlistening) hpossible.1 hstate hm hbad
  rw [Rejects, ClientObject.call, update_listening hlistening, hupdate, ← not_or]
  split_ifs with hsilent
  · simp [hsilent, htook.calls]
  · simp [hsilent, Client.callBack, htook.calls]

/-- The connection is made and the SYN is sent. -/
def syning (sent : Nat) : List ClientCall :=
  [.start ⟨[97], [98], [99]⟩ 7, .update { check := 0, send := .sent sent }]

/-- The answers of the connector up to the passport. -/
def authing : List ClientCall :=
  syning 100 ++ [.update
    { recv := .received (Client.frame Wire.protobuf ConnectorSession.keyMakingMsg)
      send := .sent 100 }]

/-- The handshake is done, and the application is not told yet. -/
def established : List ClientCall :=
  authing ++ [.update { recv := .received (Client.frame Wire.protobuf ConnectorSession.authMsg) },
    .update { recv := .received (Client.frame Wire.protobuf ConnectorSession.startAckedMsg) }]

theorem rejects_authing : ∃ o, Run.run (step Wire.protobuf) (new false) authing = some o ∧
    Rejects Wire.protobuf
      { recv := .received (Client.frame Wire.protobuf ConnectorSession.keyMakingMsg) } o := by
  have hstate : (Run.run (step Wire.protobuf) (new false) authing).map (fun o =>
      (o.client.sessionState, o.client.consumed Wire.protobuf
        (.received (Client.frame Wire.protobuf ConnectorSession.keyMakingMsg)),
        decide (Possible Wire.protobuf o (.update
          { recv := .received (Client.frame Wire.protobuf ConnectorSession.keyMakingMsg) })))) =
      some (.sessionStateAuthing, some ConnectorSession.keyMakingMsg, true) := by decide +kernel
  obtain ⟨o, hrun, hfacts⟩ := Option.map_eq_some_iff.mp hstate
  obtain ⟨hauthing, hconsumed, hpossible⟩ : _ ∧ _ ∧ _ := by
    simpa only [Prod.mk.injEq] using hfacts
  have hexpected : Client.expected o.client.sessionState = some .passport := by
    rw [hauthing]
    rfl
  refine ⟨o, hrun, (rejects_iff ⟨_, _, hrun⟩ (of_decide_eq_true hpossible) hexpected hconsumed
    (.inr (by decide))).mpr ⟨?_, by decide⟩⟩
  rw [hauthing]
  decide

/-- A `CSError` with a description. -/
def refusedMsg : CSMsg where
  head := { bodyid := CSBodyCmdId.error.value }
  body := { error := some ⟨1, [110, 111]⟩ }

/-- The connector refuses the SYN; the client takes that for no message. -/
theorem syning_ignores_error : ¬ ∀ (pb : Protobuf) (o : ClientObject) (net : NetOutcome)
    (id : CSBodyCmdId) (m : CSMsg), Reachable pb o → Possible pb o (.update net) →
    Client.expected o.client.sessionState = some id → o.client.consumed pb net.recv = some m →
    m.head.bodyid = CSBodyCmdId.error.value ∨ m.head.bodyid ≠ id.value → Rejects pb net o := by
  intro h
  have hstate : (Run.run (step Wire.protobuf) (new false) (syning 100)).map (fun o =>
      (Client.expected o.client.sessionState, o.client.consumed Wire.protobuf
        (.received (Client.frame Wire.protobuf refusedMsg)),
        decide (Possible Wire.protobuf o (.update
          { recv := .received (Client.frame Wire.protobuf refusedMsg) })),
        (o.call Wire.protobuf (.update
          { recv := .received (Client.frame Wire.protobuf refusedMsg) })).1)) =
      some (some .synack, some refusedMsg, true, 0) := by decide +kernel
  obtain ⟨o, hrun, hfacts⟩ := Option.map_eq_some_iff.mp hstate
  obtain ⟨hexpected, hconsumed, hpossible, hret⟩ : _ ∧ _ ∧ _ ∧ _ := by
    simpa only [Prod.mk.injEq] using hfacts
  have hrejects := h _ o _ _ _ ⟨_, _, hrun⟩ (of_decide_eq_true hpossible) hexpected hconsumed
    (.inl rfl)
  rw [Rejects, hret] at hrejects
  exact absurd hrejects.1 (by decide)

end ClientObject

/-! ## Bytes that are not sent -/

/-- A socket that accepts all bytes empties the queue. -/
theorem send_all {t : TcpSocketUtil} (h : t.sendBuf.Ok) (hstate : t.socketState = .netConnected)
    {len : Nat} (hlen : t.sendBuf.content.length ≤ len) :
    (t.send (.sent len)).2.2.sendBuf.content = [] := by
  have hdatalen := h.datalen_eq
  have htake : t.sendBuf.content.take len = t.sendBuf.content := List.take_of_length_le hlen
  rw [TcpSocketUtil.send]
  simp only [hstate, reduceCtorEq, if_false, ne_eq, not_true, false_and, htake]
  rw [if_neg (by omega)]
  by_cases hzero : t.sendBuf.datalen = 0
  · have hnil : t.sendBuf.content.length = 0 := by omega
    rw [if_pos hzero]
    exact List.length_eq_zero_iff.mp hnil
  · rw [if_neg hzero, if_neg (by omega)]
    dsimp only
    rw [RingBuffer.content_recycle, RingBuffer.content_skip, List.drop_length]

namespace Client

variable {pb : Protobuf} {k : Client}

/-- The bytes that a call of `Update` may have to send: those that wait and the frame it makes. -/
def toSend (pb : Protobuf) (net : NetOutcome) (k : Client) : Nat :=
  k.tcpSock.sendBuf.content.length +
    ((k.makes pb (.update net)).elim 0 fun m => (frame pb m).length)

variable (pb) in
/-- `HandShake_TRY_ACK` succeeds when it takes a SYNACK. -/
theorem handShakeTryAck_spec (h : k.Receives) {outcome : RecvOutcome}
    (hdata : outcome.bytes.length ≤ offered k.tcpSock) :
    ((k.handShakeTryAck pb outcome).1 = 0 ↔
        ∃ m ∈ k.consumed pb outcome, m.head.bodyid = CSBodyCmdId.synack.value) ∧
      ((k.handShakeTryAck pb outcome).1 = 0 →
        (k.handShakeTryAck pb outcome).2.tcpSock.socketState = k.tcpSock.socketState) := by
  obtain ⟨hnone, htry⟩ | ⟨m, k', hsome, htook, htry⟩ := tryToRecv_spec pb h hdata
  · have hret : (if (k.tcpSock.recv outcome).1 = normal then connectorErrNoMorePkg
        else (k.tcpSock.recv outcome).1) ≠ 0 := by
      split_ifs with hnormal
      · decide
      · exact hnormal
    rw [handShakeTryAck, htry, hnone]
    simp only [hret, ne_eq, not_false_eq_true, if_true, false_iff, false_implies, and_true]
    rintro ⟨m, hm, _⟩
    cases hm
  · rw [handShakeTryAck, htry, hsome]
    have hiff : (∃ m' ∈ some m, m'.head.bodyid = CSBodyCmdId.synack.value) ↔
        m.head.bodyid = CSBodyCmdId.synack.value := by simp
    rw [hiff]
    by_cases herror : m.head.bodyid = CSBodyCmdId.error.value
    · have hother : CSBodyCmdId.error.value ≠ CSBodyCmdId.synack.value := by decide
      simp [herror, hother]
    · simp only [herror, if_false, htook.downMsg, ne_eq, not_true]
      by_cases hack : m.head.bodyid = CSBodyCmdId.synack.value
      · simp [hack, htook.state]
      · simp [hack]

/-- The `AUTH` message goes out with all that waits, unless it does not fit. -/
theorem handShakeAuth_content (h : k.tcpSock.sendBuf.Ok)
    (hstate : k.tcpSock.socketState = .netConnected) {len : Nat}
    (hlen : k.tcpSock.sendBuf.content.length + (frame pb k.authMsg).length ≤ len)
    (hint : (frame pb k.authMsg).length < 2 ^ 31) :
    (k.handShakeAuth pb (.sent len)).2.tcpSock.sendBuf.content =
      if ((frame pb k.authMsg).length : Int) ≤ k.tcpSock.sendBuf.avaiable then []
      else k.tcpSock.sendBuf.content := by
  have hsock : (k.handShakeAuth pb (.sent len)).2.tcpSock =
      (k.countSeqno.serializeAndSendToPeer pb k.authMsg (.sent len)).2.tcpSock := by
    rcases hs : k.countSeqno.serializeAndSendToPeer pb k.authMsg (.sent len) with ⟨ret, k'⟩
    rw [handShakeAuth, sendHandShake, hs]
    dsimp only
    split_ifs <;> rfl
  rw [hsock]
  rw [frame] at hlen hint ⊢
  split_ifs with hfit
  · obtain ⟨hpush, hok⟩ := k.tcpSock.pushvToSendQ_fits h hfit
    have hcontent := RingBuffer.content_append h (iov pb k.authMsg).flatten
    rw [serializeAndSendToPeer_pushed (k := k.countSeqno) hpush]
    refine send_all (t := { k.tcpSock with
      sendBuf := k.tcpSock.sendBuf.append (iov pb k.authMsg).flatten }) hok hstate ?_
    rw [hcontent, List.length_append]
    exact hlen
  · have hpush := k.tcpSock.pushvToSendQ_full (lt_of_not_ge hfit) hint
    rw [serializeAndSendToPeer_refused (k := k.countSeqno) hpush]
    rfl

/-- The states of a connection after `SESSION_STATE_TCP_SYNING`. -/
def Up (k : Client) : Prop :=
  k.tcpSock.socketState = .netConnected ∧
    (k.sessionState = .sessionStateKeySyning ∨ k.sessionState = .sessionStateAuthing ∨
      k.sessionState = .sessionStateReady ∨ k.sessionState = .sessionStateDone)

theorem Up.ne (h : k.Up) : k.sessionState ≠ .sessionStateInited ∧
    k.sessionState ≠ .sessionStateTcpSyning ∧ k.sessionState ≠ .sessionStateFini := by
  obtain ⟨_, hstate⟩ := h
  refine ⟨?_, ?_, ?_⟩
  all_goals
    intro heq
    rw [heq] at hstate
    simp at hstate

/-- An `Update` that makes no message leaves the send queue alone. -/
theorem sendBuf_update_of_quiet (h : k.Receives) (hup : k.Up) {net : NetOutcome}
    (hnone : k.makes pb (.update net) = none) :
    (k.update pb net).2.tcpSock.sendBuf = k.tcpSock.sendBuf := by
  have hfit : Fits pb k (.update net) := by
    intro m hm
    rw [hnone] at hm
    cases hm
  have htcp : k.sessionState = .sessionStateTcpSyning → 0 ≤ net.check :=
    fun heq => absurd heq hup.ne.2.1
  obtain ⟨_, hquiet⟩ | ⟨m, hm, _⟩ := update_spec h.buffers.send.ok htcp hfit
  · exact hquiet.sendBuf
  · rw [hnone] at hm
    cases hm

/-- An `Update` that takes the SYNACK sends the `AUTH` message. -/
theorem sendBuf_update_of_ack {net : NetOutcome} (hstate : k.sessionState = .sessionStateKeySyning)
    (hack : (k.handShakeTryAck pb net.recv).1 = 0) :
    (k.update pb net).2.tcpSock.sendBuf =
      ((k.handShakeTryAck pb net.recv).2.handShakeAuth pb net.send).2.tcpSock.sendBuf := by
  rcases hauth : (k.handShakeTryAck pb net.recv).2.handShakeAuth pb net.send with ⟨ret, k'⟩
  have hdrive : k.driveState pb net = some (ret, 1, k') := by
    rw [driveState]
    simp only [hstate, hack, hauth, if_true]
  rw [update, hdrive]
  dsimp only
  split_ifs <;> rfl

/-- What an `Update` on a socket that accepts all bytes leaves in the send queue. -/
theorem content_update (h : k.Receives) (hup : k.Up) {net : NetOutcome}
    (hdata : net.recv.bytes.length ≤ offered k.tcpSock)
    (hint : ∀ m ∈ k.makes pb (.update net), (frame pb m).length < 2 ^ 31) {len : Nat}
    (hsend : net.send = .sent len) (hlen : k.toSend pb net ≤ len) :
    (k.update pb net).2.tcpSock.sendBuf.content =
      if k.sessionState = .sessionStateKeySyning ∧ (k.handShakeTryAck pb net.recv).1 = 0 ∧
        ((frame pb k.authMsg).length : Int) ≤ k.tcpSock.sendBuf.avaiable then []
      else k.tcpSock.sendBuf.content := by
  by_cases hack : k.sessionState = .sessionStateKeySyning ∧
      (k.handShakeTryAck pb net.recv).1 = 0
  · have hmakes : k.makes pb (.update net) = some k.authMsg := by
      rw [makes]
      simp only [hack.1, hack.2, if_true]
    have hquiet := k.quiet_handShakeTryAck pb net.recv
    have hstate := (handShakeTryAck_spec pb h hdata).2 hack.2
    have hmsg := authMsg_of_quiet hquiet
    have hbuf := hquiet.sendBuf
    rw [toSend, hmakes] at hlen
    rw [sendBuf_update_of_ack hack.1 hack.2, hsend]
    rw [← hbuf, ← hmsg] at hlen ⊢
    simp only [hack, true_and]
    refine handShakeAuth_content ?_ (hstate.trans hup.1) hlen ?_
    · rw [hbuf]
      exact h.buffers.send.ok
    · rw [hmsg]
      exact hint _ hmakes
  · have hnone : k.makes pb (.update net) = none := by
      obtain ⟨_, hstate | hstate | hstate | hstate⟩ := hup
      · have hret : (k.handShakeTryAck pb net.recv).1 ≠ 0 := fun heq => hack ⟨hstate, heq⟩
        rw [makes]
        simp only [hstate, hret, if_false]
      all_goals
        rw [makes]
        simp only [hstate]
    rw [sendBuf_update_of_quiet h hup hnone, if_neg fun hall => hack ⟨hall.1, hall.2.1⟩]

/-- Nothing arrives at an empty queue. -/
theorem recv_nothing (h : k.Receives) (hup : k.Up) (hempty : k.tcpSock.recvBuf.content = []) :
    (k.tcpSock.recv .wouldBlock).1 = normal ∧
      (k.tcpSock.recv .wouldBlock).2.socketState = .netConnected ∧
      (k.tcpSock.recv .wouldBlock).2.recvBuf.content = [] := by
  have hret : (k.tcpSock.recv .wouldBlock).1 = normal := by
    obtain ⟨b, _, _, _, _, ⟨_, hbefore⟩ | ⟨_, hbefore⟩⟩ :=
      beforeRecv_cases hup.1 h.buffers.recv.ok
    · rw [TcpSocketUtil.recv, hbefore]
    · rw [TcpSocketUtil.recv, hbefore]
      rfl
  have hdata : RecvOutcome.wouldBlock.bytes.length ≤ offered k.tcpSock := Nat.zero_le _
  obtain ⟨b, hsock, _, _, hcontent⟩ := recv_spec h.buffers.recv.ok hdata
  refine ⟨hret, ?_, ?_⟩
  · rw [hsock, hret]
    exact hup.1
  · rw [hsock, hcontent, hempty]
    rfl

theorem consumed_nothing (h : k.Receives) (hup : k.Up)
    (hempty : k.tcpSock.recvBuf.content = []) : k.consumed pb .wouldBlock = none := by
  obtain ⟨hret, _, hnil⟩ := recv_nothing h hup hempty
  rw [consumed, if_pos hret, hnil, Framing.Decoder.next_nil]
  rfl

/-- While nothing arrives in `SESSION_STATE_KEY_SYNING` the client stays as it is. -/
theorem update_nothing (h : k.Receives) (hup : k.Up)
    (hstate : k.sessionState = .sessionStateKeySyning) (hempty : k.tcpSock.recvBuf.content = [])
    (send : SendOutcome) :
    k.update pb { send := send } = (0, { k with tcpSock := (k.tcpSock.recv .wouldBlock).2 }) := by
  have hdata : RecvOutcome.wouldBlock.bytes.length ≤ offered k.tcpSock := Nat.zero_le _
  obtain ⟨_, htry⟩ | ⟨m, _, hsome, _⟩ := tryToRecv_spec pb h hdata
  · rw [if_pos (recv_nothing h hup hempty).1] at htry
    have hack : k.handShakeTryAck pb .wouldBlock =
        (connectorErrNoMorePkg, { k with tcpSock := (k.tcpSock.recv .wouldBlock).2 }) := by
      rw [handShakeTryAck, htry]
      exact if_pos (by decide)
    have hdrive : k.driveState pb { send := send } =
        some (0, 0, { k with tcpSock := (k.tcpSock.recv .wouldBlock).2 }) := by
      rw [driveState]
      simp only [hstate, hack]
      rfl
    rw [update, hdrive]
    rfl
  · rw [consumed_nothing h hup hempty] at hsome
    cases hsome

end Client

namespace ClientObject

variable {pb : Protobuf} {o : ClientObject}

/-- The bytes that wait go out with an `Update` on a socket that accepts all bytes exactly when it
takes the SYNACK and the `AUTH` message behind them fits into the send queue. -/
theorem drains_iff (h : Reachable pb o) (hup : o.client.Up)
    (hunsent : o.client.tcpSock.sendBuf.content ≠ []) {net : NetOutcome}
    (hpossible : Possible pb o (.update net)) {len : Nat} (hsend : net.send = .sent len)
    (hlen : o.client.toSend pb net ≤ len) :
    (o.call pb (.update net)).2.client.tcpSock.sendBuf.content = [] ↔
      o.client.sessionState = .sessionStateKeySyning ∧
        (∃ m ∈ o.client.consumed pb net.recv, m.head.bodyid = CSBodyCmdId.synack.value) ∧
        ((Client.frame pb o.client.authMsg).length : Int) ≤
          o.client.tcpSock.sendBuf.avaiable := by
  have hlistening : o.listening = true := h.ok.listening hup.ne.1 hup.ne.2.2
  have hreceives := h.ok.receives hlistening
  have hcontent := Client.content_update hreceives hup hpossible.1 hpossible.2 hsend hlen
  rw [ClientObject.call, update_listening hlistening,
    ← (Client.handShakeTryAck_spec pb hreceives hpossible.1).1]
  dsimp only
  rw [hcontent]
  split_ifs with hall
  · simp [hall]
  · simp [hall, hunsent]

/-- The connection is made, and a part of the SYN is sent. -/
def PartlySent (unsent : List UInt8) (o : ClientObject) : Prop :=
  o.Ok ∧ o.listening = true ∧ o.client.Up ∧
    o.client.sessionState = .sessionStateKeySyning ∧
    o.client.tcpSock.recvBuf.content = [] ∧ o.client.tcpSock.sendBuf.content = unsent

variable (pb) in
/-- The server has nothing to answer yet, and the client sends nothing. -/
theorem PartlySent.update {unsent : List UInt8} (h : PartlySent unsent o) (len : Nat) :
    ∃ o', step pb o (.update { send := .sent len }) = some o' ∧ PartlySent unsent o' := by
  obtain ⟨hok, hlistening, hup, hstate, hempty, hunsent⟩ := h
  have hreceives := hok.receives hlistening
  have hret : (o.client.handShakeTryAck pb .wouldBlock).1 ≠ 0 := by
    rw [Ne, (Client.handShakeTryAck_spec pb hreceives (Nat.zero_le _)).1,
      Client.consumed_nothing hreceives hup hempty]
    rintro ⟨m, hm, _⟩
    cases hm
  have hnone : o.client.makes pb (.update { send := .sent len }) = none := by
    rw [Client.makes]
    simp only [hstate, hret, if_false]
  have hpossible : Possible pb o (.update { send := .sent len }) := by
    refine ⟨Nat.zero_le _, fun m hm => ?_⟩
    rw [hnone] at hm
    cases hm
  have hsend := Client.sendBuf_update_of_quiet hreceives hup hnone
  obtain ⟨_, hconn, hrecv⟩ := Client.recv_nothing hreceives hup hempty
  refine ⟨_, if_pos hpossible, hok.call hpossible, ?_⟩
  rw [ClientObject.call, update_listening hlistening]
  rw [Client.update_nothing hreceives hup hstate hempty] at hsend ⊢
  exact ⟨hlistening, ⟨hconn, hup.2⟩, hstate, hrecv, hsend ▸ hunsent⟩

/-- However often the application calls `Update`, the rest of the SYN stays where it is. -/
theorem PartlySent.updates {unsent : List UInt8} (h : PartlySent unsent o) (len n : Nat) :
    ∃ o', Run.run (step pb) o (List.replicate n (.update { send := .sent len })) = some o' ∧
      PartlySent unsent o' := by
  induction n generalizing o with
  | zero => exact ⟨o, rfl, h⟩
  | succ n ih =>
    obtain ⟨o₁, hstep, h₁⟩ := h.update pb len
    obtain ⟨o', hrun, h'⟩ := ih h₁
    exact ⟨o', Run.run_cons_some.mpr ⟨o₁, hstep, hrun⟩, h'⟩

/-- Ten bytes of the SYN go out; the rest stays in the queue for ever, on a socket that accepts all
bytes. -/
theorem syn_never_drains : ¬ (∀ (pb : Protobuf) (o : ClientObject) (net : NetOutcome) (len : Nat),
      Reachable pb o → o.client.Up → o.client.tcpSock.sendBuf.content ≠ [] →
      Possible pb o (.update net) → net.send = .sent len → o.client.toSend pb net ≤ len →
      (o.call pb (.update net)).2.client.tcpSock.sendBuf.content = []) ∧
    ∃ o unsent, Run.run (step Wire.protobuf) (new false) (syning 10) = some o ∧ unsent ≠ [] ∧
      PartlySent unsent o ∧ ∀ n, ∃ o', Run.run (step Wire.protobuf) o
        (List.replicate n (.update { send := .sent 100 })) = some o' ∧ PartlySent unsent o' := by
  have hfacts : (Run.run (step Wire.protobuf) (new false) (syning 10)).map (fun o => decide
      (o.listening = true ∧ o.client.tcpSock.socketState = .netConnected ∧
        o.client.sessionState = .sessionStateKeySyning ∧
        o.client.tcpSock.recvBuf.content = [] ∧
        o.client.tcpSock.sendBuf.content.length = 13 ∧
        o.client.toSend Wire.protobuf { send := .sent 100 } = 13)) = some true := by decide +kernel
  obtain ⟨o, hrun, ho⟩ := Option.map_eq_some_iff.mp hfacts
  obtain ⟨hlistening, hconn, hstate, hempty, hlen, hsend⟩ := of_decide_eq_true ho
  have hreachable : Reachable Wire.protobuf o := ⟨_, _, hrun⟩
  have hunsent : o.client.tcpSock.sendBuf.content ≠ [] := by
    intro hnil
    rw [hnil] at hlen
    cases hlen
  have hpartly : PartlySent o.client.tcpSock.sendBuf.content o :=
    ⟨hreachable.ok, hlistening, ⟨hconn, .inl hstate⟩, hstate, hempty, rfl⟩
  refine ⟨fun h => ?_, o, _, hrun, hunsent, hpartly, fun n => hpartly.updates 100 n⟩
  obtain ⟨o', hstep, _, _, _, _, _, hsame⟩ := hpartly.update Wire.protobuf 100
  rw [ClientObject.step] at hstep
  split_ifs at hstep with hpossible
  cases hstep
  have hnil := h _ o { send := .sent 100 } 100 hreachable ⟨hconn, .inl hstate⟩ hunsent hpossible
    rfl (by omega)
  rw [hnil] at hsame
  exact hunsent hsame.symm

/-- The SYNACK arrives on a socket that accepts all bytes. -/
def ackArrives : NetOutcome where
  recv := .received (Client.frame Wire.protobuf ConnectorSession.keyMakingMsg)
  send := .sent 100

/-- The SYNACK takes the rest of the SYN along. -/
theorem drains_with_ack : ∃ o, Run.run (step Wire.protobuf) (new false) (syning 10) = some o ∧
    (o.call Wire.protobuf (.update ackArrives)).2.client.tcpSock.sendBuf.content = [] := by
  have hfacts : (Run.run (step Wire.protobuf) (new false) (syning 10)).map (fun o => decide
      (o.client.tcpSock.socketState = .netConnected ∧
        o.client.sessionState = .sessionStateKeySyning ∧
        o.client.tcpSock.sendBuf.content.length = 13 ∧
        o.client.toSend Wire.protobuf ackArrives = 33 ∧
        Possible Wire.protobuf o (.update ackArrives) ∧
        o.client.consumed Wire.protobuf ackArrives.recv = some ConnectorSession.keyMakingMsg ∧
        ((Client.frame Wire.protobuf o.client.authMsg).length : Int) ≤
          o.client.tcpSock.sendBuf.avaiable)) = some true := by decide +kernel
  obtain ⟨o, hrun, ho⟩ := Option.map_eq_some_iff.mp hfacts
  obtain ⟨hconn, hstate, hlen, hsend, hpossible, hconsumed, hfit⟩ := of_decide_eq_true ho
  have hunsent : o.client.tcpSock.sendBuf.content ≠ [] := by
    intro hnil
    rw [hnil] at hlen
    cases hlen
  refine ⟨o, hrun, (drains_iff ⟨_, _, hrun⟩ ⟨hconn, .inl hstate⟩ hunsent hpossible
    rfl (by omega)).mpr ⟨hstate, ?_, hfit⟩⟩
  exact ⟨_, hconsumed, by decide⟩

end ClientObject

end Rapidapp.Connector
