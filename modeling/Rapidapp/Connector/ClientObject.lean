import Rapidapp.Connector.ClientSequence
import Rapidapp.Connector.RecvQueue

/-!
# A client over its whole life

The object of `server/connector/client_api/connector_client_api_imp.{h,cpp}` from its
construction on, with `Start`, `Terminate` and `Resume`. Every state it comes to has two buffers
that are in order, whatever the application calls and whatever the kernel does.
-/

namespace Rapidapp.Connector

open TSocketUtil

/-! ## What `Recv` does in every state of the socket -/

section Recv

variable {t : TcpSocketUtil}

/-- Up to the call of `recv` only the buffer is touched, and it keeps what it has. Without a call
`Recv` does not say that the peer has closed. -/
theorem beforeRecv_spec (h : t.recvBuf.Ok) :
    ∃ b : RingBuffer, b.Ok ∧ b.buffSize = t.recvBuf.buffSize ∧ b.content = t.recvBuf.content ∧
      t.beforeRecv.2 = { t with recvBuf := b } ∧
      ((∃ ret, t.beforeRecv.1 = .inl ret ∧ ret ≠ peerClosed ∧ ret ≠ recvFailed) ∨
        t.beforeRecv.1 = .inr (b.buffSize - b.end_) ∧ b.end_ < b.buffSize ∧
          (t.socketState = .netConnected ∨ t.socketState = .netSendFailed)) := by
  have hend := h.end_le
  have hroom := h.avaiable_eq
  have hok := h.recycle
  have hroom' := hok.avaiable_eq
  have hend' := hok.end_le
  rw [TcpSocketUtil.beforeRecv]
  by_cases hassert : t.socketState = .netAssertFail
  · rw [if_pos hassert]
    exact ⟨_, h, rfl, rfl, rfl, .inl ⟨_, rfl, by decide, by decide⟩⟩
  rw [if_neg hassert]
  by_cases hfailed : t.socketState = .netRecvFailed ∨ t.socketState = .netPeerClosed
  · rw [if_pos hfailed]
    exact ⟨_, h, rfl, rfl, rfl, .inl ⟨_, rfl, by decide, by decide⟩⟩
  rw [if_neg hfailed]
  by_cases hconn : t.socketState ≠ .netConnected ∧ t.socketState ≠ .netSendFailed
  · rw [if_pos hconn]
    exact ⟨_, h, rfl, rfl, rfl, .inl ⟨_, rfl, by decide, by decide⟩⟩
  have hstate : t.socketState = .netConnected ∨ t.socketState = .netSendFailed := by
    rw [not_and_or, not_not, not_not] at hconn
    exact hconn
  rw [if_neg hconn, if_neg (by omega)]
  by_cases hfull : t.recvBuf.avaiable = 0
  · rw [if_pos hfull]
    refine ⟨t.recvBuf.recycle, hok, RingBuffer.buffSize_recycle _, RingBuffer.content_recycle _, ?_⟩
    dsimp only
    by_cases hfull' : t.recvBuf.recycle.avaiable = 0
    · rw [if_pos hfull']
      exact ⟨rfl, .inl ⟨_, rfl, by decide, by decide⟩⟩
    · rw [if_neg hfull', uint64_avaiable hok]
      exact ⟨rfl, .inr ⟨rfl, by omega, hstate⟩⟩
  · rw [if_neg hfull, uint64_avaiable h]
    exact ⟨t.recvBuf, h, rfl, rfl, rfl, .inr ⟨rfl, by omega, hstate⟩⟩

/-- The state of the socket after `Recv` returned `ret`. -/
def stateAfter (ret : Int) (t : TcpSocketUtil) : TSocketUtil.NetState :=
  if ret = recvFailed then .netRecvFailed else if ret = peerClosed then .netPeerClosed
  else t.socketState

/-- What `Recv` leaves of the socket: the bytes that arrive go behind the others, and fit. -/
theorem recv_spec (h : t.recvBuf.Ok) {outcome : RecvOutcome}
    (hdata : outcome.bytes.length ≤ offered t) :
    ∃ b : RingBuffer,
      (t.recv outcome).2 =
          { t with recvBuf := b, socketState := stateAfter (t.recv outcome).1 t } ∧
        b.Ok ∧ b.buffSize = t.recvBuf.buffSize ∧
        b.content = t.recvBuf.content ++ outcome.bytes := by
  obtain ⟨b, hok, hsize, hcontent, hsock, ⟨ret, hbefore, hclosed, hfailed⟩ | ⟨hbefore, hlt, _⟩⟩ :=
    beforeRecv_spec h
  · rw [offered, hbefore] at hdata
    have hnil : outcome.bytes = [] := List.length_eq_zero_iff.mp (Nat.le_zero.mp hdata)
    refine ⟨b, ?_, hok, hsize, by rw [hnil, List.append_nil, hcontent]⟩
    rcases hb : t.beforeRecv with ⟨r, t'⟩
    rw [hb] at hbefore hsock
    obtain rfl : r = .inl ret := hbefore
    obtain rfl : t' = { t with recvBuf := b } := hsock
    rw [TcpSocketUtil.recv, hb]
    simp only [stateAfter, hclosed, hfailed, if_false]
  · rw [offered, hbefore] at hdata
    dsimp only at hdata
    rcases hb : t.beforeRecv with ⟨r, t'⟩
    rw [hb] at hbefore hsock
    obtain rfl : r = .inr (b.buffSize - b.end_) := hbefore
    obtain rfl : t' = { t with recvBuf := b } := hsock
    rw [TcpSocketUtil.recv, hb]
    cases outcome with
    | wouldBlock => exact ⟨b, rfl, hok, hsize, by simp [RecvOutcome.bytes, hcontent]⟩
    | failed => exact ⟨b, rfl, hok, hsize, by simp [RecvOutcome.bytes, hcontent]⟩
    | received data =>
      simp only [RecvOutcome.bytes, TcpSocketUtil.afterRecv] at hdata ⊢
      by_cases hnil : data.length = 0
      · simp only [hnil, if_true]
        refine ⟨b, rfl, hok, hsize, ?_⟩
        rw [List.length_eq_zero_iff.mp hnil, List.append_nil, hcontent]
      · simp only [hnil, if_false]
        refine ⟨b.append data, rfl, hok.append (by omega), hsize, ?_⟩
        rw [RingBuffer.content_append hok, hcontent]

/-- `Recv` says that the peer has closed when `recv` was called and returned nothing. -/
theorem recv_peerClosed_iff (h : t.recvBuf.Ok) (outcome : RecvOutcome) :
    (t.recv outcome).1 = peerClosed ↔ 0 < offered t ∧ outcome = .received [] := by
  obtain ⟨b, _, _, _, hsock, ⟨ret, hbefore, hne, _⟩ | ⟨hbefore, hlt, _⟩⟩ := beforeRecv_spec h
  · have hrecv : (t.recv outcome).1 = ret := by
      rw [TcpSocketUtil.recv]
      rcases hb : t.beforeRecv with ⟨r, t'⟩
      rw [hb] at hbefore
      obtain rfl : r = .inl ret := hbefore
      rfl
    simp [hrecv, hne, offered, hbefore]
  · have hrecv : (t.recv outcome).1 = (t.beforeRecv.2.afterRecv outcome).1 := by
      rw [TcpSocketUtil.recv]
      rcases hb : t.beforeRecv with ⟨r, t'⟩
      rw [hb] at hbefore
      obtain rfl : r = .inr (b.buffSize - b.end_) := hbefore
      rfl
    have hoffered : 0 < offered t := by
      rw [offered, hbefore]
      exact Nat.sub_pos_of_lt hlt
    rw [hrecv, and_iff_right hoffered]
    cases outcome with
    | wouldBlock => simp [TcpSocketUtil.afterRecv, normal, peerClosed]
    | failed => simp [TcpSocketUtil.afterRecv, recvFailed, peerClosed]
    | received data =>
      by_cases hnil : data.length = 0
      · simp [TcpSocketUtil.afterRecv, List.length_eq_zero_iff.mp hnil]
      · have hne : data ≠ [] := fun heq => hnil (by rw [heq]; rfl)
        simp [TcpSocketUtil.afterRecv, hne, normal, peerClosed]

end Recv

/-! ## The object -/

/-- The buffers and the parser as the constructor leaves them. -/
def Client.new (handshakeDone : Bool) : Client where
  settings := ⟨[], [], []⟩
  tcpSock := .new
  sessionState := .sessionStateInited
  handshakeDone := handshakeDone

/-- `class ConnectorClientProtocolImp`: the client, and whether there is a
`protocol_event_listener_`. -/
structure ClientObject where
  client : Client
  listening : Bool

/-- A call of the application; `OnGetSettings` fills in the settings during `Start`, and `fd` is what
`tcpsocket_connect_nonblock` returns. `elsewhere` is the first `Update` in `SESSION_STATE_DONE` of
another object of the process, it sets the static variable. -/
inductive ClientCall where
  | start (settings : ClientSettings) (fd : Int)
  | update (net : NetOutcome)
  | terminate
  | resume (fd : Int)
  | pushMessage (data : List UInt8) (send : SendOutcome)
  | peekMessage
  | popMessage
  | elsewhere

namespace ClientObject

/-- `ConnectorClientProtocolImp::ConnectorClientProtocolImp`
(`connector_client_api_imp.cpp:56-63`). -/
def new (handshakeDone : Bool) : ClientObject := ⟨.new handshakeDone, false⟩

variable (pb : Protobuf)

/-- `ConnectorClientProtocolImp::Start` (`connector_client_api_imp.cpp:94-121`). -/
def start (settings : ClientSettings) (fd : Int) (o : ClientObject) : Int × ClientObject :=
  let k := { o.client with
    settings := settings
    tcpSock := o.client.tcpSock.initAgain getPkgLen (kMaxPkgSize * 2) }
  match k.connect fd with
  | (ret, k) => (if ret ≠ 0 then -1 else 0, ⟨k, true⟩)

/-- `ConnectorClientProtocolImp::Terminate` (`connector_client_api_imp.cpp:124-130`) and
`ConnectorClientProtocolImp::Close` (`connector_client_api_imp.cpp:88-92`). -/
def terminate (o : ClientObject) : Int × ClientObject :=
  (0, { o with client := { o.client with
    tcpSock := o.client.tcpSock.close
    sessionState := .sessionStateFini } })

/-- `ConnectorClientProtocolImp::Resume` (`connector_client_api_imp.cpp:133-153`). -/
def resume (fd : Int) (o : ClientObject) : Int × ClientObject :=
  if o.listening = false then (-1, o)
  else
    match { o.client with tcpSock := o.client.tcpSock.close.reset }.connect fd with
    | (ret, k) => (if ret ≠ 0 then -1 else 0, { o with client := k })

/-- `ConnectorClientProtocolImp::Update` (`connector_client_api_imp.cpp:369-482`). -/
def update (net : NetOutcome) (o : ClientObject) : Int × ClientObject :=
  if o.listening = false then (-1, o)
  else
    match o.client.update pb net with
    | (ret, k) => (ret, { o with client := k })

/-- One call: what it returns, and the object. -/
def call (o : ClientObject) : ClientCall → Int × ClientObject
  | .start settings fd => o.start settings fd
  | .update net => o.update pb net
  | .terminate => o.terminate
  | .resume fd => o.resume fd
  | .pushMessage data send =>
    match o.client.pushMessage pb data send with
    | (ret, k) => (ret, { o with client := k })
  | .peekMessage =>
    match o.client.peekMessage pb with
    | (ret, _, k) => (ret, { o with client := k })
  | .popMessage =>
    match o.client.popMessage with
    | (ret, k) => (ret, { o with client := k })
  | .elsewhere => (0, { o with client := { o.client with handshakeDone := true } })

/-- What the kernel and protobuf can do during a call: `recv` hands over no more than it is offered
room for, and what is serialized has a length that is an `int`. -/
def Possible (o : ClientObject) : ClientCall → Prop
  | .update net =>
    net.recv.bytes.length ≤ offered o.client.tcpSock ∧
      ∀ m ∈ o.client.makes pb (.update net), (Client.frame pb m).length < 2 ^ 31
  | .pushMessage data send =>
    ∀ m ∈ o.client.makes pb (.pushMessage data send), (Client.frame pb m).length < 2 ^ 31
  | _ => True

instance (o : ClientObject) : ∀ e, Decidable (Possible pb o e)
  | .update _ => inferInstanceAs (Decidable (_ ∧ ∀ m ∈ _, _))
  | .pushMessage _ _ => inferInstanceAs (Decidable (∀ m ∈ _, _))
  | .start _ _ => isTrue trivial
  | .terminate => isTrue trivial
  | .resume _ => isTrue trivial
  | .peekMessage => isTrue trivial
  | .popMessage => isTrue trivial
  | .elsewhere => isTrue trivial

def step (o : ClientObject) (e : ClientCall) : Option ClientObject :=
  if Possible pb o e then some (o.call pb e).2 else none

/-- A state that an object comes to; the static variable may be set before it is constructed. -/
def Reachable (o : ClientObject) : Prop :=
  ∃ handshakeDone es, Run.run (step pb) (new handshakeDone) es = some o

end ClientObject

/-! ## The buffers -/

/-- A buffer in order, that is not larger than `Start` makes it. -/
structure Bounded (b : RingBuffer) : Prop where
  ok : b.Ok
  size_le : b.buffSize ≤ kMaxPkgSize * 2

structure Buffers (t : TcpSocketUtil) : Prop where
  send : Bounded t.sendBuf
  recv : Bounded t.recvBuf

/-- What every operation of a socket keeps. -/
structure Keeps (t t' : TcpSocketUtil) : Prop where
  buffers : Buffers t → Buffers t'
  parser : t'.tcpPkgParserImp = t.tcpPkgParserImp

section Keeps

variable {t t' t'' : TcpSocketUtil}

theorem Keeps.refl (t : TcpSocketUtil) : Keeps t t := ⟨id, rfl⟩

theorem Keeps.trans (h : Keeps t t') (h' : Keeps t' t'') : Keeps t t'' :=
  ⟨h'.buffers ∘ h.buffers, h'.parser.trans h.parser⟩

/-- Code that does not touch the buffers. -/
theorem keeps_of_bufs (hsend : t'.sendBuf = t.sendBuf) (hrecv : t'.recvBuf = t.recvBuf)
    (hparser : t'.tcpPkgParserImp = t.tcpPkgParserImp) : Keeps t t' where
  buffers h := ⟨hsend ▸ h.send, hrecv ▸ h.recv⟩
  parser := hparser

theorem bufSize_lt : kMaxPkgSize * 2 < 2 ^ 31 := by decide

theorem bounded_empty {n : Nat} (h : n ≤ kMaxPkgSize * 2) : Bounded (.empty n) :=
  ⟨.empty (lt_of_le_of_lt h bufSize_lt), h⟩

theorem Bounded.recycle {b : RingBuffer} (h : Bounded b) : Bounded b.recycle := by
  refine ⟨h.ok.recycle, ?_⟩
  rw [RingBuffer.buffSize_recycle]
  exact h.size_le

theorem Bounded.skip {b : RingBuffer} (h : Bounded b) {len : Nat}
    (hlen : len ≤ b.content.length) : Bounded (b.skip len) := ⟨h.ok.skip hlen, h.size_le⟩

/-- New bytes for the same positions. -/
theorem Bounded.malloc {b : RingBuffer} (h : Bounded b) : Bounded (b.malloc (kMaxPkgSize * 2)) := by
  have hend : (b.malloc (kMaxPkgSize * 2)).end_ = b.end_ := List.length_replicate
  refine ⟨⟨?_, ?_, bufSize_lt⟩, le_refl _⟩
  · rw [hend]
    exact h.ok.begin_le
  · rw [hend]
    exact h.ok.end_le.trans h.size_le

theorem keeps_reset (t : TcpSocketUtil) : Keeps t t.reset where
  buffers h := ⟨bounded_empty h.send.size_le, bounded_empty h.recv.size_le⟩
  parser := rfl

theorem keeps_close (t : TcpSocketUtil) : Keeps t t.close where
  buffers h := ⟨bounded_empty h.send.size_le, bounded_empty h.recv.size_le⟩
  parser := rfl

theorem keeps_connectNonBlock (t : TcpSocketUtil) (fd : Int) :
    Keeps t (t.connectNonBlock fd).2 := by
  unfold TcpSocketUtil.connectNonBlock
  split_ifs
  · exact keeps_of_bufs rfl rfl rfl
  · exact keeps_of_bufs rfl rfl rfl

theorem keeps_checkNonBlock (t : TcpSocketUtil) (check : Int) :
    Keeps t (t.checkNonBlock check).2 := by
  unfold TcpSocketUtil.checkNonBlock
  split_ifs
  · exact keeps_of_bufs rfl rfl rfl
  · exact keeps_of_bufs rfl rfl rfl
  · exact keeps_close t
  · exact Keeps.refl t

/-- `Send` does not touch the receive queue. -/
theorem recv_side_send (t : TcpSocketUtil) (outcome : SendOutcome) :
    (t.send outcome).2.2.recvBuf = t.recvBuf ∧
      (t.send outcome).2.2.tcpPkgParserImp = t.tcpPkgParserImp := by
  unfold TcpSocketUtil.send
  cases outcome with
  | sent len =>
    dsimp only
    split_ifs <;> exact ⟨rfl, rfl⟩
  | wouldBlock => split_ifs <;> exact ⟨rfl, rfl⟩
  | failed => split_ifs <;> exact ⟨rfl, rfl⟩

theorem keeps_send (t : TcpSocketUtil) (outcome : SendOutcome) :
    Keeps t (t.send outcome).2.2 := by
  obtain ⟨hrecv, hparser⟩ := recv_side_send t outcome
  refine ⟨fun h => ⟨?_, hrecv ▸ h.recv⟩, hparser⟩
  obtain ⟨_, hbuf⟩ | ⟨len, hlen, _, hbuf⟩ := t.send_cases outcome
  · rw [hbuf]
    exact h.send
  · rw [hbuf]
    exact (h.send.skip hlen).recycle

theorem parser_recv (t : TcpSocketUtil) (outcome : RecvOutcome) :
    (t.recv outcome).2.tcpPkgParserImp = t.tcpPkgParserImp := by
  have hbefore : t.beforeRecv.2.tcpPkgParserImp = t.tcpPkgParserImp := by
    unfold TcpSocketUtil.beforeRecv
    dsimp only
    split_ifs <;> rfl
  rw [← hbefore, TcpSocketUtil.recv]
  rcases t.beforeRecv with ⟨ret | room, t'⟩
  · rfl
  · cases outcome with
    | received data =>
      simp only [TcpSocketUtil.afterRecv]
      split_ifs <;> rfl
    | wouldBlock => rfl
    | failed => rfl

theorem keeps_recv {outcome : RecvOutcome} (hdata : outcome.bytes.length ≤ offered t) :
    Keeps t (t.recv outcome).2 where
  buffers h := by
    obtain ⟨b, hsock, hok, hsize, _⟩ := recv_spec h.recv.ok hdata
    rw [hsock]
    exact ⟨h.send, hok, hsize.symm ▸ h.recv.size_le⟩
  parser := parser_recv t outcome

theorem keeps_hasNewPkg (t : TcpSocketUtil) : Keeps t t.hasNewPkg.2 := by
  unfold TcpSocketUtil.hasNewPkg
  cases hparser : t.tcpPkgParserImp with
  | none => exact keeps_of_bufs rfl rfl hparser.symm
  | some getPkgLen => exact Keeps.refl t

theorem keeps_peekFromRecvQ (t : TcpSocketUtil) : Keeps t t.peekFromRecvQ.2.2 := by
  unfold TcpSocketUtil.peekFromRecvQ
  cases hparser : t.tcpPkgParserImp with
  | none => exact keeps_of_bufs rfl rfl hparser.symm
  | some getPkgLen => exact Keeps.refl t

theorem keeps_popFromRecvQ (t : TcpSocketUtil) : Keeps t t.popFromRecvQ.2 := by
  unfold TcpSocketUtil.popFromRecvQ
  cases hparser : t.tcpPkgParserImp with
  | none => exact keeps_of_bufs rfl rfl hparser.symm
  | some getPkgLen =>
    dsimp only
    by_cases hlen : getPkgLen t.recvBuf.content ≤ 0 ∨
        getPkgLen t.recvBuf.content > t.recvBuf.datalen
    · rw [if_pos hlen]
      exact ⟨fun h => ⟨h.send, h.recv.recycle⟩, hparser.symm⟩
    · rw [if_neg hlen]
      refine ⟨fun h => ⟨h.send, h.recv.skip ?_⟩, hparser.symm⟩
      have hdatalen := h.recv.ok.datalen_eq
      omega

/-- A message is queued whole, or refused. -/
theorem keeps_pushvToSendQ {iov : List (List UInt8)} (hint : iov.flatten.length < 2 ^ 31) :
    Keeps t (t.pushvToSendQ iov).2 where
  buffers h := by
    by_cases hfit : (iov.flatten.length : Int) ≤ t.sendBuf.avaiable
    · obtain ⟨hpush, hok⟩ := t.pushvToSendQ_fits h.send.ok hfit
      rw [hpush]
      exact ⟨⟨hok, h.send.size_le⟩, h.recv⟩
    · rw [t.pushvToSendQ_full (lt_of_not_ge hfit) hint]
      exact h
  parser := by
    unfold TcpSocketUtil.pushvToSendQ
    split_ifs <;> rfl

end Keeps

/-! ## The functions of the client -/

namespace Client

variable {pb : Protobuf} {k k' : Client} {m : CSMsg}

theorem keeps_connect (k : Client) (fd : Int) : Keeps k.tcpSock (k.connect fd).2.tcpSock := by
  have h := keeps_connectNonBlock k.tcpSock fd
  unfold connect
  rcases hc : k.tcpSock.connectNonBlock fd with ⟨ret, sock⟩
  rw [hc] at h
  dsimp only
  split_ifs <;> exact h

theorem keeps_checkConnect (k : Client) (check : Int) :
    Keeps k.tcpSock (k.checkConnect check).2.tcpSock := by
  have h := keeps_checkNonBlock k.tcpSock check
  unfold checkConnect
  rcases hc : k.tcpSock.checkNonBlock check with ⟨ret, sock⟩
  rw [hc] at h
  exact h

theorem keeps_serializeAndSendToPeer (hint : (frame pb m).length < 2 ^ 31)
    (outcome : SendOutcome) :
    Keeps k.tcpSock (k.serializeAndSendToPeer pb m outcome).2.tcpSock := by
  rw [frame] at hint
  have hpush := keeps_pushvToSendQ (t := k.tcpSock) hint
  rcases hp : k.tcpSock.pushvToSendQ (iov pb m) with ⟨ret, sock⟩
  rw [hp] at hpush
  have hsend := keeps_send sock outcome
  rw [serializeAndSendToPeer, hp]
  dsimp only
  split_ifs
  · exact hpush
  · exact hpush.trans hsend
  · exact hpush.trans hsend

theorem keeps_sendHandShake (hint : (frame pb m).length < 2 ^ 31) (state : ClientState)
    (outcome : SendOutcome) :
    Keeps k.tcpSock (k.sendHandShake pb m state outcome).2.tcpSock := by
  have h : Keeps k.tcpSock (k.countSeqno.serializeAndSendToPeer pb m outcome).2.tcpSock :=
    keeps_serializeAndSendToPeer (k := k.countSeqno) hint outcome
  rcases hs : k.countSeqno.serializeAndSendToPeer pb m outcome with ⟨ret, k'⟩
  rw [hs] at h
  rw [sendHandShake, hs]
  dsimp only
  split_ifs
  · exact h
  · exact h

variable (pb) in
theorem keeps_tryToRecv {outcome : RecvOutcome}
    (hdata : outcome.bytes.length ≤ offered k.tcpSock) :
    Keeps k.tcpSock (k.tryToRecvFromPeerAndParse pb outcome).2.tcpSock := by
  have hrecv := keeps_recv hdata
  unfold tryToRecvFromPeerAndParse
  rcases hr : k.tcpSock.recv outcome with ⟨ret, sock⟩
  rw [hr] at hrecv
  have hhas := hrecv.trans (keeps_hasNewPkg sock)
  rcases hh : sock.hasNewPkg with ⟨_ | _, sock₁⟩
  · rw [hh] at hhas
    dsimp only
    split_ifs
    · exact hrecv
    · simp only [hh]
      exact hhas
  rw [hh] at hhas
  have hpeek := hhas.trans (keeps_peekFromRecvQ sock₁)
  rcases hp : sock₁.peekFromRecvQ with ⟨ret₁, buf, sock₂⟩
  rw [hp] at hpeek
  have hpop := hpeek.trans (keeps_popFromRecvQ sock₂)
  rcases ho : sock₂.popFromRecvQ with ⟨ret₂, sock₃⟩
  rw [ho] at hpop
  simp only [hh, hp, ho]
  split_ifs
  · exact hrecv
  · exact hpeek
  all_goals exact hpop

variable (pb) in
theorem keeps_handShakeTryAck {outcome : RecvOutcome}
    (hdata : outcome.bytes.length ≤ offered k.tcpSock) :
    Keeps k.tcpSock (k.handShakeTryAck pb outcome).2.tcpSock := by
  have h := keeps_tryToRecv pb hdata
  unfold handShakeTryAck
  rcases hr : k.tryToRecvFromPeerAndParse pb outcome with ⟨ret, k'⟩
  rw [hr] at h
  dsimp only
  split_ifs <;> exact h

theorem keeps_tryHandShake (bodyid : CSBodyCmdId) {next : Client → Client}
    (hnext : ∀ k, (next k).tcpSock = k.tcpSock) {outcome : RecvOutcome}
    (hdata : outcome.bytes.length ≤ offered k.tcpSock) :
    Keeps k.tcpSock (k.tryHandShake pb bodyid next outcome).2.tcpSock := by
  have h := keeps_tryToRecv pb hdata
  unfold tryHandShake
  rcases hr : k.tryToRecvFromPeerAndParse pb outcome with ⟨ret, k'⟩
  rw [hr] at h
  dsimp only
  split_ifs
  · exact h
  · exact h
  · exact h
  · rw [hnext]
    exact h

/-- The `switch` of `Update`. -/
theorem keeps_driveState {net : NetOutcome} (hdata : net.recv.bytes.length ≤ offered k.tcpSock)
    (hint : ∀ m ∈ k.makes pb (.update net), (frame pb m).length < 2 ^ 31) {ret busy : Int}
    (hdrive : k.driveState pb net = some (ret, busy, k')) : Keeps k.tcpSock k'.tcpSock := by
  have hdriven := driveState_cases hdrive
  generalize k.makes pb (.update net) = made at hdriven hint
  have hcheck := k.keeps_checkConnect net.check
  have htry := keeps_handShakeTryAck pb hdata
  have hrecv := keeps_recv hdata
  have hhas := hrecv.trans (keeps_hasNewPkg _)
  cases hdriven with
  | connect => exact k.keeps_connect net.connectFd
  | connecting => exact hcheck
  | syn =>
    have hmsg : (k.checkConnect net.check).2.synMsg = k.synMsg := rfl
    have hlen := hint _ rfl
    rw [← hmsg] at hlen
    rw [handShakeSyn]
    exact hcheck.trans (keeps_sendHandShake hlen _ _)
  | noAck => exact htry
  | ackFails => exact htry
  | auth =>
    have hmsg := authMsg_of_quiet (k.quiet_handShakeTryAck pb net.recv)
    have hlen := hint _ rfl
    rw [← hmsg] at hlen
    rw [handShakeAuth]
    exact htry.trans (keeps_sendHandShake hlen _ _)
  | tryReady =>
    rw [handShakeTryReady]
    refine keeps_tryHandShake _ ?_ hdata
    intro k
    rfl
  | tryDone =>
    rw [handShakeTryDone]
    refine keeps_tryHandShake _ ?_ hdata
    intro k
    rfl
  | succeed => exact Keeps.refl _
  | recvFails => exact hrecv
  | noPkg => exact hhas
  | incoming => exact hhas

theorem keeps_update {net : NetOutcome} (hdata : net.recv.bytes.length ≤ offered k.tcpSock)
    (hint : ∀ m ∈ k.makes pb (.update net), (frame pb m).length < 2 ^ 31) :
    Keeps k.tcpSock (k.update pb net).2.tcpSock := by
  rw [update]
  cases hdrive : k.driveState pb net with
  | none => exact Keeps.refl _
  | some out =>
    obtain ⟨ret, busy, k'⟩ := out
    have h := keeps_driveState hdata hint hdrive
    dsimp only
    split_ifs <;> exact h

theorem keeps_pushMessage {data : List UInt8} {send : SendOutcome}
    (hint : ∀ m ∈ k.makes pb (.pushMessage data send), (frame pb m).length < 2 ^ 31) :
    Keeps k.tcpSock (k.pushMessage pb data send).2.tcpSock := by
  unfold makes at hint
  by_cases hdata : data.length = 0
  · rw [pushMessage_empty hdata]
    exact Keeps.refl _
  · rw [pushMessage_snd hdata]
    exact keeps_serializeAndSendToPeer (k := k.countSeqno) (hint _ (if_neg hdata)) send

theorem keeps_peekMessage (k : Client) : Keeps k.tcpSock (k.peekMessage pb).2.2.tcpSock := by
  have hhas := keeps_hasNewPkg k.tcpSock
  unfold peekMessage
  rcases hh : k.tcpSock.hasNewPkg with ⟨_ | _, sock⟩
  · rw [hh] at hhas
    exact hhas
  · rw [hh] at hhas
    have hpeek := hhas.trans (keeps_peekFromRecvQ sock)
    dsimp only
    split_ifs <;> exact hpeek

theorem keeps_popMessage (k : Client) : Keeps k.tcpSock k.popMessage.2.tcpSock := by
  have hpop := keeps_popFromRecvQ k.tcpSock
  unfold popMessage
  dsimp only
  split_ifs <;> exact hpop

/-! ### The state of the session -/

theorem sessionState_serializeAndSendToPeer (k : Client) (m : CSMsg) (outcome : SendOutcome) :
    (k.serializeAndSendToPeer pb m outcome).2.sessionState = k.sessionState := by
  rcases hp : k.tcpSock.pushvToSendQ (iov pb m) with ⟨ret, sock⟩
  rw [serializeAndSendToPeer, hp]
  dsimp only
  split_ifs <;> rfl

theorem sessionState_pushMessage (k : Client) (data : List UInt8) (outcome : SendOutcome) :
    (k.pushMessage pb data outcome).2.sessionState = k.sessionState := by
  by_cases hdata : data.length = 0
  · rw [pushMessage_empty hdata]
  · rw [pushMessage_snd hdata, sessionState_serializeAndSendToPeer]
    rfl

theorem sessionState_peekMessage (k : Client) :
    (k.peekMessage pb).2.2.sessionState = k.sessionState := by
  unfold peekMessage
  rcases k.tcpSock.hasNewPkg with ⟨_ | _, sock⟩
  · rfl
  · dsimp only
    split_ifs <;> rfl

theorem sessionState_popMessage (k : Client) : k.popMessage.2.sessionState = k.sessionState := by
  unfold popMessage
  dsimp only
  split_ifs <;> rfl

end Client

/-! ## The invariant of an object -/

namespace ClientObject

variable {pb : Protobuf} {o o' : ClientObject}

/-- Two buffers that are in order. Without a listener `Start` was not called, so nothing is under
way; with one the socket has the parser of the client. -/
structure Ok (o : ClientObject) : Prop where
  buffers : Buffers o.client.tcpSock
  parser : o.listening = true → o.client.tcpSock.tcpPkgParserImp = some getPkgLen
  idle : o.listening = false →
    o.client.sessionState = .sessionStateInited ∨ o.client.sessionState = .sessionStateFini

/-- A new object that is started is the client whose connection `ClientSequence` is about. -/
theorem start_new (settings : ClientSettings) (fd : Int) :
    ((new false).start settings fd).2 = ⟨Client.start settings fd, true⟩ := rfl

theorem ok_new (handshakeDone : Bool) : (new handshakeDone).Ok where
  buffers := ⟨bounded_empty (Nat.zero_le _), bounded_empty (Nat.zero_le _)⟩
  parser h := by cases h
  idle _ := .inl rfl

theorem update_not_listening (h : o.listening = false) (net : NetOutcome) :
    o.update pb net = (-1, o) := by
  rw [ClientObject.update, if_pos h]

/-- With a listener it is the `Update` of the client. -/
theorem update_listening (h : o.listening = true) (net : NetOutcome) :
    o.update pb net =
      ((o.client.update pb net).1, { o with client := (o.client.update pb net).2 }) := by
  rw [ClientObject.update, if_neg (by rw [h]; decide)]

/-- A call that keeps the socket in order and leaves listener and session alone. -/
theorem Ok.of_keeps (h : o.Ok) {k : Client} (hkeeps : Keeps o.client.tcpSock k.tcpSock)
    (hstate : k.sessionState = o.client.sessionState) : Ok { o with client := k } where
  buffers := hkeeps.buffers h.buffers
  parser hlistening := hkeeps.parser.trans (h.parser hlistening)
  idle hlistening := hstate ▸ h.idle hlistening

/-- A call made while there is a listener. -/
theorem Ok.of_listening (h : o.Ok) (hlistening : o.listening = true) {k : Client}
    (hkeeps : Keeps o.client.tcpSock k.tcpSock) : Ok { o with client := k } where
  buffers := hkeeps.buffers h.buffers
  parser _ := hkeeps.parser.trans (h.parser hlistening)
  idle hnot := by
    rw [hlistening] at hnot
    cases hnot

theorem Ok.start (h : o.Ok) (settings : ClientSettings) (fd : Int) : (o.start settings fd).2.Ok := by
  unfold ClientObject.start
  have hkeeps := Client.keeps_connect { o.client with
    settings := settings
    tcpSock := o.client.tcpSock.initAgain getPkgLen (kMaxPkgSize * 2) } fd
  have hbuffers : Buffers (o.client.tcpSock.initAgain getPkgLen (kMaxPkgSize * 2)) :=
    ⟨h.buffers.send.malloc, h.buffers.recv.malloc⟩
  refine ⟨hkeeps.buffers hbuffers, fun _ => hkeeps.parser, fun hnot => ?_⟩
  cases hnot

theorem Ok.terminate (h : o.Ok) : o.terminate.2.Ok where
  buffers := (keeps_close o.client.tcpSock).buffers h.buffers
  parser hlistening := h.parser hlistening
  idle _ := .inr rfl

theorem Ok.resume (h : o.Ok) (fd : Int) : (o.resume fd).2.Ok := by
  unfold ClientObject.resume
  by_cases hlistening : o.listening = false
  · rw [if_pos hlistening]
    exact h
  · rw [if_neg hlistening]
    rw [Bool.not_eq_false] at hlistening
    refine h.of_listening hlistening ?_
    have hreset := (keeps_close o.client.tcpSock).trans (keeps_reset _)
    exact hreset.trans (Client.keeps_connect { o.client with
      tcpSock := o.client.tcpSock.close.reset } fd)

/-- Every call keeps the object in order. -/
theorem Ok.call (h : o.Ok) {e : ClientCall} (hpossible : Possible pb o e) : (o.call pb e).2.Ok := by
  cases e with
  | start settings fd => exact h.start settings fd
  | update net =>
    obtain ⟨hdata, hint⟩ := hpossible
    rw [ClientObject.call]
    cases hlistening : o.listening with
    | true =>
      rw [update_listening hlistening]
      exact h.of_listening hlistening (Client.keeps_update hdata hint)
    | false =>
      rw [update_not_listening hlistening]
      exact h
  | terminate => exact h.terminate
  | resume fd => exact h.resume fd
  | pushMessage data send =>
    exact h.of_keeps (Client.keeps_pushMessage hpossible) (o.client.sessionState_pushMessage data send)
  | peekMessage =>
    exact h.of_keeps o.client.keeps_peekMessage o.client.sessionState_peekMessage
  | popMessage => exact h.of_keeps o.client.keeps_popMessage o.client.sessionState_popMessage
  | elsewhere => exact h.of_keeps (Keeps.refl _) rfl

theorem step_some {e : ClientCall} (hstep : step pb o e = some o') :
    Possible pb o e ∧ o' = (o.call pb e).2 := by
  rw [step] at hstep
  split_ifs at hstep with hpossible
  exact ⟨hpossible, (Option.some.inj hstep).symm⟩

theorem Ok.step (h : o.Ok) {e : ClientCall} (hstep : ClientObject.step pb o e = some o') :
    o'.Ok := by
  obtain ⟨hpossible, rfl⟩ := step_some hstep
  exact h.call hpossible

theorem Reachable.step (h : Reachable pb o) {e : ClientCall}
    (hstep : ClientObject.step pb o e = some o') : Reachable pb o' := by
  obtain ⟨handshakeDone, es, hrun⟩ := h
  exact ⟨handshakeDone, es ++ [e], Run.run_concat_some.mpr ⟨o, hrun, hstep⟩⟩

/-- Whatever the application and the kernel do. -/
theorem Reachable.ok (h : Reachable pb o) : o.Ok := by
  obtain ⟨handshakeDone, es, hrun⟩ := h
  exact Run.run_preserves (fun _ _ _ hok hstep => hok.step hstep) (ok_new handshakeDone) hrun

/-- A session that goes on has a listener. -/
theorem Ok.listening (h : o.Ok) (hinited : o.client.sessionState ≠ .sessionStateInited)
    (hfini : o.client.sessionState ≠ .sessionStateFini) : o.listening = true := by
  cases hl : o.listening with
  | true => rfl
  | false =>
    obtain hidle | hidle := h.idle hl
    · exact absurd hidle hinited
    · exact absurd hidle hfini

end ClientObject

end Rapidapp.Connector
