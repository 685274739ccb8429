import Mathlib.Data.List.Chain
import Rapidapp.Misc.Run
import Rapidapp.Connector.Client
import Rapidapp.Connector.Session
import Rapidapp.Connector.Wire

/-!
# The sequence numbers of a client

The client counts `seqno_` up for every message it makes, the session of the connector wants
the number after the one it saw last. The two stay in step as long as every message that is
made fits into the send queue; a message that is refused has taken a number all the same.
-/

namespace Rapidapp.Connector

open TSocketUtil

/-! ## What a session accepts -/

namespace ConnectorSession

/-- `CheckUpSideMessage` accepts the messages one after the other. -/
def Accepts : ConnectorSession → List CSMsg → Prop
  | _, [] => True
  | s, m :: ms => (s.checkUpSideMessage m).1 = 0 ∧ Accepts (s.checkUpSideMessage m).2 ms

/-- The session after the messages. -/
def afterMessages (s : ConnectorSession) (ms : List CSMsg) : ConnectorSession :=
  ms.foldl (fun s m => (s.checkUpSideMessage m).2) s

theorem accepts_concat {s : ConnectorSession} {ms : List CSMsg} {m : CSMsg}
    (h : s.Accepts ms) (hm : ((s.afterMessages ms).checkUpSideMessage m).1 = 0) :
    s.Accepts (ms ++ [m]) := by
  induction ms generalizing s with
  | nil => exact ⟨hm, trivial⟩
  | cons a ms ih => exact ⟨h.1, ih h.2 hm⟩

theorem afterMessages_concat (s : ConnectorSession) (ms : List CSMsg) (m : CSMsg) :
    s.afterMessages (ms ++ [m]) = ((s.afterMessages ms).checkUpSideMessage m).2 := by
  rw [afterMessages, List.foldl_append]
  rfl

/-- A message with the number the session waits for is accepted. -/
theorem checkUpSideMessage_next {s : ConnectorSession} {m : CSMsg}
    (hmagic : m.head.magic = magicCsV1)
    (hseq : s.lastSeq = 0 ∨ s.lastSeq + 1 = m.head.sequence.toUInt64) :
    s.checkUpSideMessage m = (0, { s with lastSeq := m.head.sequence.toUInt64 }) := by
  rw [checkUpSideMessage, if_neg (not_not.mpr hmagic), if_neg]
  rintro ⟨hne, hgap⟩
  obtain hzero | hnext := hseq
  · exact hne hzero
  · exact hgap hnext.symm

/-- A session that has seen a number accepts only the one after it. -/
theorem checkUpSideMessage_ok {s : ConnectorSession} {m : CSMsg}
    (h : (s.checkUpSideMessage m).1 = 0) :
    (s.checkUpSideMessage m).2.lastSeq = m.head.sequence.toUInt64 ∧
      (s.lastSeq = 0 ∨ m.head.sequence.toUInt64 = s.lastSeq + 1) := by
  rw [checkUpSideMessage] at h ⊢
  split_ifs at h ⊢ with hmagic hgap
  · simp at h
  · simp at h
  · exact ⟨rfl, by simpa [or_iff_not_imp_left] using hgap⟩

/-- Messages that are accepted one after the other have consecutive numbers, unless a number
is zero. -/
theorem Accepts.isChain {s : ConnectorSession} {ms : List CSMsg} (h : s.Accepts ms)
    (hne : ∀ m ∈ ms, m.head.sequence.toUInt64 ≠ 0) :
    (ms.map (·.head.sequence.toUInt64)).IsChain fun a b => b = a + 1 := by
  induction ms generalizing s with
  | nil => exact .nil
  | cons m ms ih =>
    cases ms with
    | nil => exact .singleton _
    | cons m' ms =>
      obtain ⟨hlast, _⟩ := checkUpSideMessage_ok h.1
      obtain ⟨_, hzero | hnext⟩ := checkUpSideMessage_ok h.2.1
      · exact absurd (hlast ▸ hzero) (hne m List.mem_cons_self)
      · rw [hlast] at hnext
        exact .cons_cons hnext (ih h.2 fun m hm => hne m (List.mem_cons_of_mem _ hm))

end ConnectorSession

/-! ## One connection of a client -/

/-- What the application does with a client. -/
inductive ClientEvent where
  | update (net : NetOutcome)
  | pushMessage (data : List UInt8) (send : SendOutcome)
  | peekMessage
  | popMessage

/-- One call. An attempt to connect that fails closes the connection. -/
def clientStep (pb : Protobuf) (k : Client) : ClientEvent → Option Client
  | .update net => if 0 ≤ net.check then some (k.update pb net).2 else none
  | .pushMessage data send => some (k.pushMessage pb data send).2
  | .peekMessage => some (k.peekMessage pb).2.2
  | .popMessage => some k.popMessage.2

namespace Client

variable {pb : Protobuf} {k k' k'' : Client} {m : CSMsg}

/-- The bytes that entered the send stream: those the kernel took, then those that wait. -/
def stream (k : Client) : List UInt8 := k.sent ++ k.tcpSock.sendBuf.content

/-- What code that makes no message leaves alone. -/
structure Quiet (k k' : Client) : Prop where
  settings : k'.settings = k.settings
  seqno : k'.seqno = k.seqno
  queued : k'.queued = k.queued
  sent : k'.sent = k.sent
  sendBuf : k'.tcpSock.sendBuf = k.tcpSock.sendBuf

/-- What code that queues a message does. -/
structure Queued (pb : Protobuf) (m : CSMsg) (k k' : Client) : Prop where
  seqno : k'.seqno = k.seqno + 1
  queued : k'.queued = k.queued ++ [m]
  stream : k'.stream = k.stream ++ frame pb m
  ok : k'.tcpSock.sendBuf.Ok

theorem Quiet.refl (k : Client) : Quiet k k := ⟨rfl, rfl, rfl, rfl, rfl⟩

theorem Quiet.trans (h : Quiet k k') (h' : Quiet k' k'') : Quiet k k'' where
  settings := h'.settings.trans h.settings
  seqno := h'.seqno.trans h.seqno
  queued := h'.queued.trans h.queued
  sent := h'.sent.trans h.sent
  sendBuf := h'.sendBuf.trans h.sendBuf

theorem Quiet.stream (h : Quiet k k') : k'.stream = k.stream := by
  rw [Client.stream, Client.stream, h.sent, h.sendBuf]

theorem Quiet.then_queued (h : Quiet k k') (h' : Queued pb m k' k'') : Queued pb m k k'' where
  seqno := by rw [h'.seqno, h.seqno]
  queued := by rw [h'.queued, h.queued]
  stream := by rw [h'.stream, h.stream]
  ok := h'.ok

theorem Queued.then_quiet (h : Queued pb m k k') (h' : Quiet k' k'') : Queued pb m k k'' where
  seqno := by rw [h'.seqno, h.seqno]
  queued := by rw [h'.queued, h.queued]
  stream := by rw [h'.stream, h.stream]
  ok := by rw [h'.sendBuf]; exact h.ok

/-! ### Code that makes no message -/

theorem quiet_sock (k : Client) {sock : TcpSocketUtil}
    (h : sock.sendBuf = k.tcpSock.sendBuf) : Quiet k { k with tcpSock := sock } :=
  ⟨rfl, rfl, rfl, rfl, h⟩

theorem quiet_connect (k : Client) (fd : Int) : Quiet k (k.connect fd).2 := by
  unfold connect TcpSocketUtil.connectNonBlock
  by_cases hfd : fd < 0
  · simp only [hfd, if_true]
    split_ifs <;> exact ⟨rfl, rfl, rfl, rfl, rfl⟩
  · simp only [hfd, if_false]
    split_ifs <;> exact ⟨rfl, rfl, rfl, rfl, rfl⟩

theorem quiet_checkConnect (k : Client) {check : Int} (h : 0 ≤ check) :
    Quiet k (k.checkConnect check).2 := by
  have hbuf : (k.tcpSock.checkNonBlock check).2.sendBuf = k.tcpSock.sendBuf := by
    unfold TcpSocketUtil.checkNonBlock
    split_ifs with _ _ hneg
    · rfl
    · rfl
    · exact absurd hneg (not_lt.mpr h)
    · rfl
  exact quiet_sock k hbuf

theorem quiet_tryToRecv (pb : Protobuf) (outcome : RecvOutcome) (k : Client) :
    Quiet k (k.tryToRecvFromPeerAndParse pb outcome).2 := by
  unfold tryToRecvFromPeerAndParse
  have hrecv := k.tcpSock.sendBuf_recv outcome
  rcases hr : k.tcpSock.recv outcome with ⟨ret, sock⟩
  rw [hr] at hrecv
  have hhas := sock.sendBuf_hasNewPkg.trans hrecv
  rcases hh : sock.hasNewPkg with ⟨_ | _, sock₁⟩
  · rw [hh] at hhas
    simp only [hh]
    split_ifs
    · exact quiet_sock k hrecv
    · exact quiet_sock k hhas
  rw [hh] at hhas
  have hpeek := sock₁.sendBuf_peekFromRecvQ.trans hhas
  rcases hp : sock₁.peekFromRecvQ with ⟨ret₁, buf, sock₂⟩
  rw [hp] at hpeek
  have hpop := sock₂.sendBuf_popFromRecvQ.trans hpeek
  rcases ho : sock₂.popFromRecvQ with ⟨ret₂, sock₃⟩
  rw [ho] at hpop
  simp only [hh, hp, ho]
  split_ifs
  · exact quiet_sock k hrecv
  · exact quiet_sock k hpeek
  all_goals exact ⟨rfl, rfl, rfl, rfl, hpop⟩

theorem quiet_handShakeTryAck (pb : Protobuf) (outcome : RecvOutcome) (k : Client) :
    Quiet k (k.handShakeTryAck pb outcome).2 := by
  unfold handShakeTryAck
  have h := k.quiet_tryToRecv pb outcome
  rcases hr : k.tryToRecvFromPeerAndParse pb outcome with ⟨ret, k₁⟩
  rw [hr] at h
  dsimp only at h ⊢
  split_ifs
  · exact h
  · exact h
  · exact h.trans ⟨rfl, rfl, rfl, rfl, rfl⟩

theorem quiet_tryHandShake (pb : Protobuf) (bodyid : CSBodyCmdId) {next : Client → Client}
    (hnext : ∀ k, Quiet k (next k)) (outcome : RecvOutcome) (k : Client) :
    Quiet k (k.tryHandShake pb bodyid next outcome).2 := by
  unfold tryHandShake
  have h := k.quiet_tryToRecv pb outcome
  rcases hr : k.tryToRecvFromPeerAndParse pb outcome with ⟨ret, k₁⟩
  rw [hr] at h
  dsimp only at h ⊢
  split_ifs
  · exact h
  · exact h
  · exact h
  · exact h.trans (hnext k₁)

theorem quiet_handShakeTryReady (pb : Protobuf) (outcome : RecvOutcome) (k : Client) :
    Quiet k (k.handShakeTryReady pb outcome).2 := by
  unfold handShakeTryReady
  refine quiet_tryHandShake pb _ ?_ outcome k
  intro k
  exact ⟨rfl, rfl, rfl, rfl, rfl⟩

theorem quiet_handShakeTryDone (pb : Protobuf) (outcome : RecvOutcome) (k : Client) :
    Quiet k (k.handShakeTryDone pb outcome).2 := by
  unfold handShakeTryDone
  refine quiet_tryHandShake pb _ ?_ outcome k
  intro k
  exact ⟨rfl, rfl, rfl, rfl, rfl⟩

theorem quiet_peekMessage (pb : Protobuf) (k : Client) : Quiet k (k.peekMessage pb).2.2 := by
  unfold peekMessage
  have hhas := k.tcpSock.sendBuf_hasNewPkg
  rcases hh : k.tcpSock.hasNewPkg with ⟨_ | _, sock⟩
  · rw [hh] at hhas
    exact quiet_sock k hhas
  rw [hh] at hhas
  have hpeek := sock.sendBuf_peekFromRecvQ.trans hhas
  rcases hp : sock.peekFromRecvQ with ⟨ret, buf, sock₁⟩
  rw [hp] at hpeek
  simp only [hp]
  split_ifs <;> exact ⟨rfl, rfl, rfl, rfl, hpeek⟩

theorem quiet_popMessage (k : Client) : Quiet k k.popMessage.2 := by
  unfold popMessage
  have hpop := k.tcpSock.sendBuf_popFromRecvQ
  rcases ho : k.tcpSock.popFromRecvQ with ⟨ret, sock⟩
  rw [ho] at hpop
  dsimp only at hpop ⊢
  split_ifs <;> exact ⟨rfl, rfl, rfl, rfl, hpop⟩

/-! ### Code that makes a message -/

/-- What is left to do once the frame is in the queue. -/
theorem serializeAndSendToPeer_pushed {sock : TcpSocketUtil}
    (hpush : k.tcpSock.pushvToSendQ (iov pb m) = (normal, sock)) (outcome : SendOutcome) :
    (k.serializeAndSendToPeer pb m outcome).2 =
      { k with
        tcpSock := (sock.send outcome).2.2
        queued := k.queued ++ [m]
        sent := k.sent ++ (sock.send outcome).2.1 } := by
  rw [serializeAndSendToPeer, hpush]
  dsimp only
  generalize sock.send outcome = send
  rw [if_neg (not_not.mpr rfl)]
  split_ifs <;> rfl

/-- A message that fits is queued, whatever the kernel takes of it. -/
theorem queued_serializeAndSendToPeer (h : k.tcpSock.sendBuf.Ok)
    (hfit : ((frame pb m).length : Int) ≤ k.tcpSock.sendBuf.avaiable)
    (outcome : SendOutcome) :
    Queued pb m k (k.countSeqno.serializeAndSendToPeer pb m outcome).2 := by
  obtain ⟨hpush, hok⟩ := k.tcpSock.pushvToSendQ_fits h hfit
  have hcontent := RingBuffer.content_append h (iov pb m).flatten
  generalize hbuf : k.tcpSock.sendBuf.append (iov pb m).flatten = buf at hpush hok hcontent
  rw [serializeAndSendToPeer_pushed (k := k.countSeqno) hpush]
  have hsent := TcpSocketUtil.send_content { k.tcpSock with sendBuf := buf } outcome
  have hsend := TcpSocketUtil.send_ok { k.tcpSock with sendBuf := buf } hok outcome
  generalize TcpSocketUtil.send { k.tcpSock with sendBuf := buf } outcome = send at hsent hsend ⊢
  refine ⟨rfl, rfl, ?_, hsend⟩
  show (k.sent ++ send.2.1) ++ send.2.2.sendBuf.content =
    (k.sent ++ k.tcpSock.sendBuf.content) ++ frame pb m
  rw [List.append_assoc, hsent, List.append_assoc, frame]
  exact congrArg _ hcontent

theorem quiet_setState (k : Client) (state : ClientState) :
    Quiet k { k with sessionState := state } := ⟨rfl, rfl, rfl, rfl, rfl⟩

theorem quiet_callBack (k : Client) (call : Callback) : Quiet k (k.callBack call) :=
  ⟨rfl, rfl, rfl, rfl, rfl⟩

theorem queued_sendHandShake (h : k.tcpSock.sendBuf.Ok)
    (hfit : ((frame pb m).length : Int) ≤ k.tcpSock.sendBuf.avaiable) (state : ClientState)
    (outcome : SendOutcome) : Queued pb m k (k.sendHandShake pb m state outcome).2 := by
  rw [sendHandShake]
  have hq := queued_serializeAndSendToPeer h hfit outcome
  generalize k.countSeqno.serializeAndSendToPeer pb m outcome = send at hq ⊢
  dsimp only
  split_ifs
  · exact hq
  · exact hq.then_quiet (quiet_setState _ _)

/-! ### A step -/

/-- The message that a call makes. -/
def makes (pb : Protobuf) (k : Client) : ClientEvent → Option CSMsg
  | .update net =>
    match k.sessionState with
    | .sessionStateTcpSyning =>
      if (k.checkConnect net.check).1 = normal ∧
        (k.checkConnect net.check).2.tcpSock.socketState = .netConnected then some k.synMsg
      else none
    | .sessionStateKeySyning =>
      if (k.handShakeTryAck pb net.recv).1 = 0 then some k.authMsg else none
    | _ => none
  | .pushMessage data _ => if data.length = 0 then none else some (k.dataMsg data)
  | .peekMessage => none
  | .popMessage => none

/-- The message that the call makes, if it makes one, fits into the send queue. -/
def Fits (pb : Protobuf) (k : Client) (e : ClientEvent) : Prop :=
  ∀ m ∈ k.makes pb e, ((frame pb m).length : Int) ≤ k.tcpSock.sendBuf.avaiable

instance (pb : Protobuf) (k : Client) (e : ClientEvent) : Decidable (Fits pb k e) :=
  inferInstanceAs (Decidable (∀ m ∈ k.makes pb e,
    ((frame pb m).length : Int) ≤ k.tcpSock.sendBuf.avaiable))

theorem makes_head {e : ClientEvent} (h : k.makes pb e = some m) :
    m.head.magic = magicCsV1 ∧ m.head.sequence = k.seqno.toInt64 := by
  cases e with
  | update net =>
    rw [makes] at h
    split at h
    · split_ifs at h
      cases h
      exact ⟨rfl, rfl⟩
    · split_ifs at h
      cases h
      exact ⟨rfl, rfl⟩
    · cases h
  | pushMessage data send =>
    rw [makes] at h
    split_ifs at h
    cases h
    exact ⟨rfl, rfl⟩
  | peekMessage => cases h
  | popMessage => cases h

theorem synMsg_of_quiet (h : Quiet k k') : k'.synMsg = k.synMsg := by
  rw [synMsg, synMsg, h.seqno, h.settings]

theorem authMsg_of_quiet (h : Quiet k k') : k'.authMsg = k.authMsg := by
  rw [authMsg, authMsg, h.seqno, h.settings]

/-- What the `switch` of `Update` does: the message it makes, `ret`, `busy` and the client it
leaves. -/
inductive Driven (pb : Protobuf) (k : Client) (net : NetOutcome) :
    Option CSMsg → Int → Int → Client → Prop
  | connect (hstate : k.sessionState = .sessionStateInited) :
    Driven pb k net none (k.connect net.connectFd).1 0 (k.connect net.connectFd).2
  | connecting (hstate : k.sessionState = .sessionStateTcpSyning)
      (hconn : ¬ ((k.checkConnect net.check).1 = normal ∧
        (k.checkConnect net.check).2.tcpSock.socketState = .netConnected)) :
    Driven pb k net none (k.checkConnect net.check).1 0 (k.checkConnect net.check).2
  | syn (hstate : k.sessionState = .sessionStateTcpSyning)
      (hconn : (k.checkConnect net.check).1 = normal ∧
        (k.checkConnect net.check).2.tcpSock.socketState = .netConnected) :
    Driven pb k net (some k.synMsg) ((k.checkConnect net.check).2.handShakeSyn pb net.send).1 1
      ((k.checkConnect net.check).2.handShakeSyn pb net.send).2
  | noAck (hstate : k.sessionState = .sessionStateKeySyning)
      (hack : (k.handShakeTryAck pb net.recv).1 = connectorErrNoMorePkg) :
    Driven pb k net none 0 0 (k.handShakeTryAck pb net.recv).2
  | ackFails (hstate : k.sessionState = .sessionStateKeySyning)
      (hack : (k.handShakeTryAck pb net.recv).1 ≠ 0)
      (hret : (k.handShakeTryAck pb net.recv).1 ≠ connectorErrNoMorePkg) :
    Driven pb k net none (k.handShakeTryAck pb net.recv).1 0 (k.handShakeTryAck pb net.recv).2
  | auth (hstate : k.sessionState = .sessionStateKeySyning)
      (hack : (k.handShakeTryAck pb net.recv).1 = 0) :
    Driven pb k net (some k.authMsg) ((k.handShakeTryAck pb net.recv).2.handShakeAuth pb net.send).1 1
      ((k.handShakeTryAck pb net.recv).2.handShakeAuth pb net.send).2
  | tryReady (hstate : k.sessionState = .sessionStateAuthing) :
    Driven pb k net none (k.handShakeTryReady pb net.recv).1 0 (k.handShakeTryReady pb net.recv).2
  | tryDone (hstate : k.sessionState = .sessionStateReady) :
    Driven pb k net none (k.handShakeTryDone pb net.recv).1 0 (k.handShakeTryDone pb net.recv).2
  | succeed (hstate : k.sessionState = .sessionStateDone) (hflag : k.handshakeDone = false) :
    Driven pb k net none 0 1 { k.callBack .onHandShakeSucceed with handshakeDone := true }
  | recvFails (hstate : k.sessionState = .sessionStateDone) (hflag : k.handshakeDone = true)
      (hret : (k.tcpSock.recv net.recv).1 ≠ normal) :
    Driven pb k net none (k.tcpSock.recv net.recv).1 0
      { k with tcpSock := (k.tcpSock.recv net.recv).2 }
  | noPkg (hstate : k.sessionState = .sessionStateDone) (hflag : k.handshakeDone = true)
      (hret : (k.tcpSock.recv net.recv).1 = normal)
      (hpkg : (k.tcpSock.recv net.recv).2.hasNewPkg.1 = false) :
    Driven pb k net none normal 0
      { k with tcpSock := (k.tcpSock.recv net.recv).2.hasNewPkg.2 }
  | incoming (hstate : k.sessionState = .sessionStateDone) (hflag : k.handshakeDone = true)
      (hret : (k.tcpSock.recv net.recv).1 = normal)
      (hpkg : (k.tcpSock.recv net.recv).2.hasNewPkg.1 = true) :
    Driven pb k net none normal 1
      (Client.callBack .onIncoming { k with tcpSock := (k.tcpSock.recv net.recv).2.hasNewPkg.2 })

theorem driveState_cases {net : NetOutcome} {ret busy : Int}
    (hdrive : k.driveState pb net = some (ret, busy, k')) :
    Driven pb k net (k.makes pb (.update net)) ret busy k' := by
  rw [driveState] at hdrive
  unfold makes
  split at hdrive
  · next hstate =>
    simp only [Option.some.injEq, Prod.mk.injEq, hstate] at hdrive ⊢
    obtain ⟨rfl, rfl, rfl⟩ := hdrive
    exact .connect hstate
  · next hstate =>
    simp only [hstate] at hdrive ⊢
    split_ifs at hdrive ⊢ with hconn
    · simp only [Option.some.injEq, Prod.mk.injEq] at hdrive
      obtain ⟨rfl, rfl, rfl⟩ := hdrive
      exact .syn hstate hconn
    · simp only [Option.some.injEq, Prod.mk.injEq] at hdrive
      obtain ⟨rfl, rfl, rfl⟩ := hdrive
      exact .connecting hstate hconn
  · next hstate =>
    simp only [hstate] at hdrive ⊢
    split_ifs at hdrive ⊢ with hack hnone
    · simp only [Option.some.injEq, Prod.mk.injEq] at hdrive
      obtain ⟨rfl, rfl, rfl⟩ := hdrive
      exact .auth hstate hack
    · simp only [Option.some.injEq, Prod.mk.injEq] at hdrive
      obtain ⟨rfl, rfl, rfl⟩ := hdrive
      exact .noAck hstate hnone
    · simp only [Option.some.injEq, Prod.mk.injEq] at hdrive
      obtain ⟨rfl, rfl, rfl⟩ := hdrive
      exact .ackFails hstate hack hnone
  · next hstate =>
    simp only [Option.some.injEq, Prod.mk.injEq, hstate] at hdrive ⊢
    obtain ⟨rfl, rfl, rfl⟩ := hdrive
    exact .tryReady hstate
  · next hstate =>
    simp only [Option.some.injEq, Prod.mk.injEq, hstate] at hdrive ⊢
    obtain ⟨rfl, rfl, rfl⟩ := hdrive
    exact .tryDone hstate
  · next hstate =>
    simp only [hstate]
    by_cases hflag : k.handshakeDone = false
    · rw [if_pos hflag] at hdrive
      cases hdrive
      exact .succeed hstate hflag
    rw [if_neg hflag] at hdrive
    have hset : k.handshakeDone = true := eq_true_of_ne_false hflag
    dsimp only at hdrive
    by_cases hret : (k.tcpSock.recv net.recv).1 = normal
    · have hidle : _ → Driven pb k net _ _ _ _ := .noPkg hstate hset hret
      have hincoming : _ → Driven pb k net _ _ _ _ := .incoming hstate hset hret
      rw [if_pos hret, hret] at hdrive
      rcases hpkg : (k.tcpSock.recv net.recv).2.hasNewPkg with ⟨_ | _, sock⟩
      · rw [hpkg] at hdrive hidle
        cases hdrive
        exact hidle rfl
      · rw [hpkg] at hdrive hincoming
        cases hdrive
        exact hincoming rfl
    · rw [if_neg hret] at hdrive
      simp only [Option.some.injEq, Prod.mk.injEq] at hdrive
      obtain ⟨rfl, rfl, rfl⟩ := hdrive
      exact .recvFails hstate hset hret
  · cases hdrive

/-- The `switch` of `Update` makes the message it is said to make, and no other. -/
theorem driveState_spec (h : k.tcpSock.sendBuf.Ok) {net : NetOutcome}
    (hcheck : k.sessionState = .sessionStateTcpSyning → 0 ≤ net.check) (hfit : Fits pb k (.update net)) {ret busy : Int}
    (hdrive : k.driveState pb net = some (ret, busy, k')) :
    (k.makes pb (.update net) = none ∧ Quiet k k') ∨
      ∃ m, k.makes pb (.update net) = some m ∧ Queued pb m k k' := by
  have hdriven := driveState_cases hdrive
  unfold Fits at hfit
  generalize k.makes pb (.update net) = made at hdriven hfit ⊢
  have hrecv := k.tcpSock.sendBuf_recv net.recv
  have hhas := (k.tcpSock.recv net.recv).2.sendBuf_hasNewPkg.trans hrecv
  cases hdriven with
  | connect => exact .inl ⟨rfl, k.quiet_connect net.connectFd⟩
  | connecting hstate => exact .inl ⟨rfl, k.quiet_checkConnect (hcheck hstate)⟩
  | syn hstate =>
    have hquiet := k.quiet_checkConnect (hcheck hstate)
    have hroom := hfit _ rfl
    rw [← hquiet.sendBuf, ← synMsg_of_quiet hquiet] at hroom
    refine .inr ⟨_, rfl, hquiet.then_queued ?_⟩
    rw [← synMsg_of_quiet hquiet]
    exact queued_sendHandShake (hquiet.sendBuf ▸ h) hroom _ _
  | noAck => exact .inl ⟨rfl, k.quiet_handShakeTryAck pb net.recv⟩
  | ackFails => exact .inl ⟨rfl, k.quiet_handShakeTryAck pb net.recv⟩
  | auth =>
    have hquiet := k.quiet_handShakeTryAck pb net.recv
    have hroom := hfit _ rfl
    rw [← hquiet.sendBuf, ← authMsg_of_quiet hquiet] at hroom
    refine .inr ⟨_, rfl, hquiet.then_queued ?_⟩
    rw [← authMsg_of_quiet hquiet]
    exact queued_sendHandShake (hquiet.sendBuf ▸ h) hroom _ _
  | tryReady => exact .inl ⟨rfl, k.quiet_handShakeTryReady pb net.recv⟩
  | tryDone => exact .inl ⟨rfl, k.quiet_handShakeTryDone pb net.recv⟩
  | succeed => exact .inl ⟨rfl, rfl, rfl, rfl, rfl, rfl⟩
  | recvFails => exact .inl ⟨rfl, k.quiet_sock hrecv⟩
  | noPkg => exact .inl ⟨rfl, k.quiet_sock hhas⟩
  | incoming => exact .inl ⟨rfl, rfl, rfl, rfl, rfl, hhas⟩

theorem update_spec (h : k.tcpSock.sendBuf.Ok) {net : NetOutcome}
    (hcheck : k.sessionState = .sessionStateTcpSyning → 0 ≤ net.check) (hfit : Fits pb k (.update net)) :
    (k.makes pb (.update net) = none ∧ Quiet k (k.update pb net).2) ∨
      ∃ m, k.makes pb (.update net) = some m ∧ Queued pb m k (k.update pb net).2 := by
  rw [update]
  cases hdrive : k.driveState pb net with
  | none =>
    refine .inl ⟨?_, Quiet.refl k⟩
    rw [driveState] at hdrive
    rw [makes]
    cases hstate : k.sessionState <;> simp only [hstate] at hdrive ⊢
    · split_ifs at hdrive
    · split_ifs at hdrive
  | some out =>
    obtain ⟨ret, busy, k₁⟩ := out
    dsimp only
    obtain ⟨hnone, hquiet⟩ | ⟨m, hsome, hqueued⟩ := driveState_spec h hcheck hfit hdrive
    · refine .inl ⟨hnone, ?_⟩
      split_ifs
      · exact hquiet.trans (quiet_callBack _ _)
      · exact hquiet.trans (quiet_callBack _ _)
      · exact hquiet
      · exact hquiet
    · refine .inr ⟨m, hsome, ?_⟩
      split_ifs
      · exact hqueued.then_quiet (quiet_callBack _ _)
      · exact hqueued.then_quiet (quiet_callBack _ _)
      · exact hqueued
      · exact hqueued

theorem pushMessage_empty {data : List UInt8} (hdata : data.length = 0) (send : SendOutcome) :
    k.pushMessage pb data send = (-1, k) := by
  rw [pushMessage, if_pos hdata]

theorem pushMessage_snd {data : List UInt8} (hdata : data.length ≠ 0) (send : SendOutcome) :
    (k.pushMessage pb data send).2 =
      (k.countSeqno.serializeAndSendToPeer pb (k.dataMsg data) send).2 := by
  rw [pushMessage, if_neg hdata, orFailed_snd]

theorem pushMessage_spec (h : k.tcpSock.sendBuf.Ok) {data : List UInt8} {send : SendOutcome}
    (hfit : Fits pb k (.pushMessage data send)) :
    (k.makes pb (.pushMessage data send) = none ∧ Quiet k (k.pushMessage pb data send).2) ∨
      ∃ m, k.makes pb (.pushMessage data send) = some m ∧
        Queued pb m k (k.pushMessage pb data send).2 := by
  unfold Fits at hfit
  unfold makes at hfit ⊢
  by_cases hdata : data.length = 0
  · rw [pushMessage_empty hdata]
    exact .inl ⟨if_pos hdata, Quiet.refl k⟩
  · rw [pushMessage_snd hdata]
    exact .inr ⟨_, if_neg hdata, queued_serializeAndSendToPeer h (hfit _ (if_neg hdata)) send⟩

/-- A call makes the message it is said to make, and no other. -/
theorem clientStep_spec {e : ClientEvent} (h : k.tcpSock.sendBuf.Ok) (hfit : Fits pb k e)
    (hstep : clientStep pb k e = some k') :
    (k.makes pb e = none ∧ Quiet k k') ∨ ∃ m, k.makes pb e = some m ∧ Queued pb m k k' := by
  cases e with
  | update net =>
    rw [clientStep] at hstep
    split_ifs at hstep with hcheck
    rw [← Option.some.inj hstep]
    exact update_spec h (fun _ => hcheck) hfit
  | pushMessage data send =>
    rw [clientStep] at hstep
    rw [← Option.some.inj hstep]
    exact pushMessage_spec h hfit
  | peekMessage => cases hstep; exact .inl ⟨rfl, k.quiet_peekMessage pb⟩
  | popMessage => cases hstep; exact .inl ⟨rfl, k.quiet_popMessage⟩

/-! ## The stream and the session -/

/-- The messages that entered the stream are what it consists of, their numbers are consecutive,
and a new session accepts them one after the other. -/
structure InSequence (pb : Protobuf) (k : Client) : Prop where
  stream : k.stream = (k.queued.map (frame pb)).flatten
  consecutive : k.queued.IsChain fun m m' =>
    m'.head.sequence.toUInt64 = m.head.sequence.toUInt64 + 1
  accepted : ConnectorSession.new.Accepts k.queued

/-- What every call keeps when its message fits: `seqno_` is the number after the last one, and
the number the session waits for. -/
structure InStep (pb : Protobuf) (k : Client) : Prop where
  ok : k.tcpSock.sendBuf.Ok
  sound : InSequence pb k
  last : ∀ m ∈ k.queued.getLast?, k.seqno = m.head.sequence.toUInt64 + 1
  awaited : (ConnectorSession.new.afterMessages k.queued).lastSeq = 0 ∨
    (ConnectorSession.new.afterMessages k.queued).lastSeq + 1 = k.seqno

theorem InStep.quiet (h : InStep pb k) (hq : Quiet k k') : InStep pb k' where
  ok := by rw [hq.sendBuf]; exact h.ok
  sound :=
    { stream := by rw [hq.stream, hq.queued]; exact h.sound.stream
      consecutive := by rw [hq.queued]; exact h.sound.consecutive
      accepted := by rw [hq.queued]; exact h.sound.accepted }
  last := by rw [hq.queued, hq.seqno]; exact h.last
  awaited := by rw [hq.queued, hq.seqno]; exact h.awaited

theorem InStep.queued (h : InStep pb k) (hq : Queued pb m k k')
    (hmagic : m.head.magic = magicCsV1) (hseq : m.head.sequence = k.seqno.toInt64) :
    InStep pb k' := by
  have hnum : m.head.sequence.toUInt64 = k.seqno := by rw [hseq, UInt64.toUInt64_toInt64]
  have hcheck := ConnectorSession.checkUpSideMessage_next hmagic (hnum ▸ h.awaited)
  refine ⟨hq.ok, ⟨?_, ?_, ?_⟩, ?_, ?_⟩
  · rw [hq.stream, hq.queued, h.sound.stream, List.map_append, List.flatten_append]
    simp
  · rw [hq.queued]
    refine List.isChain_append.mpr ⟨h.sound.consecutive, .singleton _, fun m₁ hm₁ m₂ hm₂ => ?_⟩
    cases hm₂
    rw [hnum, h.last m₁ hm₁]
  · rw [hq.queued]
    exact ConnectorSession.accepts_concat h.sound.accepted (congrArg Prod.fst hcheck)
  · intro m' hm'
    rw [hq.queued, List.getLast?_concat] at hm'
    cases hm'
    rw [hq.seqno, hnum]
  · refine .inr ?_
    rw [hq.queued, ConnectorSession.afterMessages_concat, hcheck, hq.seqno, hnum]

theorem InStep.step {e : ClientEvent} (h : InStep pb k) (hfit : Fits pb k e)
    (hstep : clientStep pb k e = some k') : InStep pb k' := by
  obtain ⟨_, hq⟩ | ⟨m, hm, hq⟩ := clientStep_spec h.ok hfit hstep
  · exact h.quiet hq
  · obtain ⟨hmagic, hseq⟩ := makes_head hm
    exact h.queued hq hmagic hseq

theorem inStep_start (pb : Protobuf) (settings : ClientSettings) (fd : Int) :
    InStep pb (start settings fd) := by
  have hnew : InStep pb
      { settings := settings
        tcpSock := .init getPkgLen (kMaxPkgSize * 2)
        sessionState := .sessionStateInited } := by
    refine ⟨.empty (by decide), ⟨rfl, .nil, trivial⟩, ?_, .inl rfl⟩
    rintro m ⟨⟩
  exact hnew.quiet (quiet_connect _ fd)

/-- On a connection where every message that is made fits into the send queue, the frames of the
stream carry consecutive numbers and the session of the connector accepts them all. -/
theorem inSequence_of_fits (pb : Protobuf) (settings : ClientSettings) (fd : Int)
    {es : List ClientEvent}
    (hfit : Run.Along (clientStep pb) (Fits pb) (start settings fd) es)
    (hrun : Run.run (clientStep pb) (start settings fd) es = some k) : InSequence pb k :=
  (Run.run_inv (fun _ _ _ h hfit hstep => h.step hfit hstep) (inStep_start pb settings fd) hfit
    hrun).sound

/-! ## A connection that is established, and a payload that is refused -/

/-- The handshake on the client's side, and the application is told. -/
def opening : List ClientEvent :=
  [.update { check := 0, send := .sent 100 },
    .update
      { recv := .received (frame Wire.protobuf ConnectorSession.keyMakingMsg)
        send := .sent 100 },
    .update { recv := .received (frame Wire.protobuf ConnectorSession.authMsg) },
    .update { recv := .received (frame Wire.protobuf ConnectorSession.startAckedMsg) },
    .update {}]

theorem inSequence_opening : ∃ k,
    Run.run (clientStep Wire.protobuf) (start ⟨[97], [98], [99]⟩ 7) opening = some k ∧
      k.calls = [.onHandShakeSucceed] ∧ InSequence Wire.protobuf k := by
  have hcalls : (Run.run (clientStep Wire.protobuf) (start ⟨[97], [98], [99]⟩ 7) opening).map
      (·.calls) = some [.onHandShakeSucceed] := by decide +kernel
  obtain ⟨k, hrun, hk⟩ := Option.map_eq_some_iff.mp hcalls
  exact ⟨k, hrun, hk, inSequence_of_fits _ _ _ (by decide +kernel) hrun⟩

theorem serializeAndSendToPeer_refused
    (hpush : k.tcpSock.pushvToSendQ (iov pb m) = (sendBuffFull, k.tcpSock))
    (outcome : SendOutcome) : k.serializeAndSendToPeer pb m outcome = (sendBuffFull, k) := by
  rw [serializeAndSendToPeer, hpush]
  dsimp only
  rw [if_pos (by decide)]

/-- A message that does not fit is refused, and its number is gone. -/
theorem pushMessage_refused {data : List UInt8} (hdata : data.length ≠ 0)
    (hfull : k.tcpSock.sendBuf.avaiable < ((frame pb (k.dataMsg data)).length : Int))
    (hint : (frame pb (k.dataMsg data)).length < 2 ^ 31) (send : SendOutcome) :
    k.pushMessage pb data send = (-1, k.countSeqno) := by
  have hpush := k.tcpSock.pushvToSendQ_full hfull hint
  rw [pushMessage, if_neg hdata, serializeAndSendToPeer_refused (k := k.countSeqno) hpush]
  rfl

/-- After the handshake the application pushes `data`, then one byte. -/
def refusing (data : List UInt8) : List ClientEvent :=
  opening ++ [.pushMessage data (.sent 100), .pushMessage [1] (.sent 100)]

/-- What is left of the handshake: a connected socket and an empty queue. -/
theorem opened : ∃ k,
    Run.run (clientStep Wire.protobuf) (start ⟨[97], [98], [99]⟩ 7) opening = some k ∧
      k.queued.map (·.head.sequence.toUInt64) = [1, 2] ∧ k.seqno = 3 ∧
      k.tcpSock.socketState = .netConnected ∧ k.tcpSock.sendBuf = .empty (2 * 1024 * 1024) := by
  have hstate : (Run.run (clientStep Wire.protobuf) (start ⟨[97], [98], [99]⟩ 7) opening).map
      (fun k => (k.queued.map (·.head.sequence.toUInt64), k.seqno, k.tcpSock.socketState,
        k.tcpSock.sendBuf)) =
        some ([1, 2], 3, .netConnected, .empty (2 * 1024 * 1024)) := by decide +kernel
  obtain ⟨k, hrun, hk⟩ := Option.map_eq_some_iff.mp hstate
  obtain ⟨hqueued, hseqno, hsock, hbuf⟩ : _ ∧ _ ∧ _ ∧ _ := by
    simpa only [Prod.mk.injEq] using hk
  exact ⟨k, hrun, hqueued, hseqno, hsock, hbuf⟩

/-- The frame of a payload is a little longer than the payload. -/
theorem length_frame_dataMsg (k : Client) (data : List UInt8) (h : data.length < 2 ^ 32) :
    data.length + 4 ≤ (frame Wire.protobuf (k.dataMsg data)).length ∧
      (frame Wire.protobuf (k.dataMsg data)).length ≤ data.length + 124 := by
  have hlen : (frame Wire.protobuf (k.dataMsg data)).length =
      4 + (Wire.encodeCSMsg (k.dataMsg data)).length := by
    simp [frame, iov, Wire.protobuf]
  obtain ⟨hle, hge⟩ := Wire.length_encodeCSMsg_data (k.dataMsg data).head h
  have hmsg : k.dataMsg data = ⟨(k.dataMsg data).head, { data := some data }⟩ := rfl
  rw [← hmsg] at hle hge
  omega

theorem refusing_queued {data : List UInt8} (hdata : data.length = 2 * 1024 * 1024) : ∃ k,
    Run.run (clientStep Wire.protobuf) (start ⟨[97], [98], [99]⟩ 7) (refusing data) = some k ∧
      k.queued.map (·.head.sequence.toUInt64) = [1, 2, 4] := by
  obtain ⟨k, hrun, hqueued, hseqno, _, hbuf⟩ := opened
  have hroom : k.tcpSock.sendBuf.avaiable = 2 * 1024 * 1024 := by rw [hbuf]; decide
  obtain ⟨hlarge, hlt⟩ := k.length_frame_dataMsg data (by omega)
  have hrefused : k.pushMessage Wire.protobuf data (.sent 100) = (-1, k.countSeqno) := by
    refine pushMessage_refused (by omega) ?_ (by omega) _
    rw [hroom]
    omega
  obtain ⟨_, hsmall⟩ := k.countSeqno.length_frame_dataMsg [1] (by decide)
  have hfit : ((frame Wire.protobuf (k.countSeqno.dataMsg [1])).length : Int) ≤
      k.countSeqno.tcpSock.sendBuf.avaiable := by
    show _ ≤ k.tcpSock.sendBuf.avaiable
    rw [hroom]
    rw [List.length_singleton] at hsmall
    omega
  have hok : k.countSeqno.tcpSock.sendBuf.Ok := by
    show k.tcpSock.sendBuf.Ok
    exact hbuf ▸ .empty (by decide)
  have hlast := (queued_serializeAndSendToPeer hok hfit (.sent 100)).queued
  refine ⟨(k.countSeqno.pushMessage Wire.protobuf [1] (.sent 100)).2, ?_, ?_⟩
  · rw [refusing, Run.run_append, hrun, Option.bind_some, Run.run_cons, clientStep, hrefused,
      Option.bind_some, Run.run_cons, clientStep, Option.bind_some, Run.run_nil]
  · have hnum : (k.countSeqno.dataMsg [1]).head.sequence.toUInt64 = 4 := by
      show (k.seqno + 1).toInt64.toUInt64 = 4
      rw [hseqno]
      rfl
    rw [pushMessage_snd (by decide), hlast, List.map_append, List.map_singleton, hnum]
    show k.queued.map _ ++ [4] = _
    rw [hqueued]
    rfl

/-- A session rejects messages with a gap in their numbers. -/
theorem not_accepts_gap {ms : List CSMsg}
    (h : ms.map (·.head.sequence.toUInt64) = [1, 2, 4]) : ¬ ConnectorSession.new.Accepts ms := by
  intro haccepts
  have hall : ∀ n ∈ ms.map (·.head.sequence.toUInt64), n ≠ 0 := by
    simp [h]
  have hchain := haccepts.isChain fun m hm => hall _ (List.mem_map_of_mem hm)
  simp [h] at hchain

/-- The number of the refused payload is missing from the stream, and the session of the connector
rejects what comes after it. -/
theorem refusing_out_of_sequence : ∃ k,
    Run.run (clientStep Wire.protobuf) (start ⟨[97], [98], [99]⟩ 7)
        (refusing (List.replicate (2 * 1024 * 1024) 0)) = some k ∧
      ¬ ConnectorSession.new.Accepts k.queued ∧ ¬ InSequence Wire.protobuf k := by
  obtain ⟨k, hrun, hqueued⟩ := refusing_queued List.length_replicate
  have hrejected := not_accepts_gap hqueued
  exact ⟨k, hrun, hrejected, fun h => hrejected h.accepted⟩

end Client

end Rapidapp.Connector
