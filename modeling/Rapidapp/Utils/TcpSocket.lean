import Rapidapp.Misc.CInt

/-!
# TcpSocketUtil: a socket with a send and a receive queue

`utils/tsocket_util.{h,cpp}`, built without `TSOCKET_UTIL_ATOMIC`. What the system calls do
is an argument of the operation that makes them. The timestamps and the url are not
modelled, nothing reads them.
-/

namespace Rapidapp.TSocketUtil

/-- `enum NET_STATE` (`tsocket_util.h:9-17`). -/
inductive NetState where
  | netInited
  | netConnecting
  | netConnected
  | netSendFailed
  | netRecvFailed
  | netPeerClosed
  | netAssertFail
  deriving DecidableEq, Repr

/-! The return values (`tsocket_util.h:19-35`). -/

def normal : Int := 0
def invldArgument : Int := -1
def sendBuffFull : Int := -50
def connectFailed : Int := -101
def notConnected : Int := -102
def sendFailed : Int := -201
def sendUncompleted : Int := -202
def recvFailed : Int := -301
def peerClosed : Int := -302
def assertFailed : Int := -1000

/-! ## RingBuffer -/

/-- `struct RingBuffer` (`tsocket_util.h:38-105`): the bytes of `buff` below `end`, so `end` is
their number; what lies behind is never read. -/
structure RingBuffer where
  buffSize : Nat
  buff : List UInt8
  begin : Nat
  deriving DecidableEq

namespace RingBuffer

/-- `end`. -/
def end_ (b : RingBuffer) : Nat := b.buff.length

/-- After `Malloc`, or after `Reset`. -/
def empty (buffSize : Nat) : RingBuffer := ⟨buffSize, [], 0⟩

/-- `Malloc` and the size set behind it (`tsocket_util.h:64-67`): new bytes, all zero, for the old
`begin` and `end`. -/
def malloc (size : Nat) (b : RingBuffer) : RingBuffer :=
  { buffSize := size, buff := List.replicate b.end_ 0, begin := b.begin }

/-- `Avaiable` (`tsocket_util.h:78`), an `int`. -/
def avaiable (b : RingBuffer) : Int := CInt.int32 ((b.buffSize : Int) - b.end_)

/-- `Datalen` (`tsocket_util.h:79`), an `int`. -/
def datalen (b : RingBuffer) : Int := CInt.int32 ((b.end_ : Int) - b.begin)

/-- The bytes from `begin` to `end`. -/
def content (b : RingBuffer) : List UInt8 := b.buff.drop b.begin

/-- `Recycle_ATOMIC` (`tsocket_util.h:84-103`). -/
def recycle (b : RingBuffer) : RingBuffer :=
  if b.begin > 0 then { b with buff := b.buff.drop b.begin, begin := 0 } else b

/-- `memcpy` to `end`, and `end` moves past it. -/
def append (b : RingBuffer) (bytes : List UInt8) : RingBuffer :=
  { b with buff := b.buff ++ bytes }

/-- `begin += len`. -/
def skip (b : RingBuffer) (len : Nat) : RingBuffer := { b with begin := b.begin + len }

/-- `begin <= end <= buff_size`, in a buffer whose size is an `int`. -/
structure Ok (b : RingBuffer) : Prop where
  begin_le : b.begin ≤ b.end_
  end_le : b.end_ ≤ b.buffSize
  size_lt : b.buffSize < 2 ^ 31

variable {b : RingBuffer}

theorem Ok.empty {n : Nat} (h : n < 2 ^ 31) : (RingBuffer.empty n).Ok := ⟨le_refl _, n.zero_le, h⟩

theorem Ok.avaiable_eq (h : b.Ok) : b.avaiable = (b.buffSize : Int) - b.end_ := by
  have h₁ := h.end_le
  have h₂ := h.size_lt
  exact CInt.int32_of_range (by omega) (by omega)

theorem Ok.datalen_eq (h : b.Ok) : b.datalen = (b.content.length : Int) := by
  have h₁ := h.begin_le
  have h₂ := h.end_le
  have h₃ := h.size_lt
  have hlen : b.content.length = b.end_ - b.begin := List.length_drop
  rw [datalen, CInt.int32_of_range (by omega) (by omega), hlen]
  omega

@[simp] theorem content_empty (n : Nat) : (RingBuffer.empty n).content = [] := rfl

@[simp] theorem content_recycle (b : RingBuffer) : b.recycle.content = b.content := by
  unfold recycle
  split_ifs
  · rfl
  · rfl

@[simp] theorem buffSize_recycle (b : RingBuffer) : b.recycle.buffSize = b.buffSize := by
  unfold recycle
  split_ifs <;> rfl

theorem begin_recycle (b : RingBuffer) : b.recycle.begin = 0 := by
  unfold recycle
  split_ifs with h
  · rfl
  · exact Nat.eq_zero_of_not_pos h

theorem end_recycle (b : RingBuffer) : b.recycle.end_ = b.end_ - b.begin := by
  unfold recycle
  split_ifs with h
  · exact List.length_drop
  · rw [Nat.eq_zero_of_not_pos h, Nat.sub_zero]

theorem Ok.recycle (h : b.Ok) : b.recycle.Ok where
  begin_le := by rw [begin_recycle]; exact Nat.zero_le _
  end_le := by
    rw [end_recycle, buffSize_recycle]
    exact (Nat.sub_le _ _).trans h.end_le
  size_lt := by rw [buffSize_recycle]; exact h.size_lt

theorem content_append (h : b.Ok) (bytes : List UInt8) :
    (b.append bytes).content = b.content ++ bytes :=
  List.drop_append_of_le_length h.begin_le

theorem Ok.append (h : b.Ok) {bytes : List UInt8} (hfit : b.end_ + bytes.length ≤ b.buffSize) :
    (b.append bytes).Ok where
  begin_le := by
    have := h.begin_le
    simp only [RingBuffer.append, end_, List.length_append] at this ⊢
    omega
  end_le := by
    simp only [RingBuffer.append, end_, List.length_append] at hfit ⊢
    exact hfit
  size_lt := h.size_lt

@[simp] theorem content_skip (b : RingBuffer) (len : Nat) :
    (b.skip len).content = b.content.drop len := by
  rw [content, content, skip, List.drop_drop]

theorem Ok.skip (h : b.Ok) {len : Nat} (hlen : len ≤ b.content.length) : (b.skip len).Ok where
  begin_le := by
    have h₁ := h.begin_le
    have h₂ : b.content.length = b.end_ - b.begin := List.length_drop
    simp only [RingBuffer.skip, end_] at h₁ h₂ ⊢
    omega
  end_le := h.end_le
  size_lt := h.size_lt

end RingBuffer

/-! ## TcpSocketUtil -/

/-- `ITcpPkgParser::GetPkgLen` (`tsocket_util.h:107-114`), a function of the buffer. -/
abbrev PkgParser := List UInt8 → Int

/-- `class TcpSocketUtil` (`tsocket_util.h:117-198`). -/
structure TcpSocketUtil where
  socketState : NetState
  fd : Int
  tcpPkgParserImp : Option PkgParser
  sendBuf : RingBuffer
  recvBuf : RingBuffer

/-- What `send` does. -/
inductive SendOutcome where
  | sent (len : Nat)
  | wouldBlock
  | failed
  deriving DecidableEq

/-- What `recv` does. -/
inductive RecvOutcome where
  | received (data : List UInt8)
  | wouldBlock
  | failed
  deriving DecidableEq

/-- The bytes that `recv` hands over. -/
def RecvOutcome.bytes : RecvOutcome → List UInt8
  | .received data => data
  | .wouldBlock => []
  | .failed => []

namespace TcpSocketUtil

/-- `TcpSocketUtil::Init` (`tsocket_util.cpp:16-44`), when both `calloc`s succeed. -/
def init (parser : PkgParser) (buffSize : Nat) : TcpSocketUtil where
  socketState := .netInited
  fd := -1
  tcpPkgParserImp := some parser
  sendBuf := .empty buffSize
  recvBuf := .empty buffSize

/-- `TcpSocketUtil::TcpSocketUtil` (`tsocket_util.cpp:5-9`). -/
def new : TcpSocketUtil where
  socketState := .netInited
  fd := -1
  tcpPkgParserImp := none
  sendBuf := .empty 0
  recvBuf := .empty 0

/-- `TcpSocketUtil::Init` of a socket that may have been used. -/
def initAgain (parser : PkgParser) (buffSize : Nat) (t : TcpSocketUtil) : TcpSocketUtil :=
  { t with
    tcpPkgParserImp := some parser
    sendBuf := t.sendBuf.malloc buffSize
    recvBuf := t.recvBuf.malloc buffSize }

theorem initAgain_new (parser : PkgParser) (buffSize : Nat) :
    new.initAgain parser buffSize = init parser buffSize := rfl

/-- `TcpSocketUtil::Reset` (`tsocket_util.cpp:54-63`). -/
def reset (t : TcpSocketUtil) : TcpSocketUtil :=
  { t with
    sendBuf := .empty t.sendBuf.buffSize
    recvBuf := .empty t.recvBuf.buffSize
    socketState := .netInited }

/-- `TcpSocketUtil::ConnectNonBlock` (`tsocket_util.cpp:65-79`); `fd` is what
`tcpsocket_connect_nonblock` returns. -/
def connectNonBlock (t : TcpSocketUtil) (fd : Int) : Int × TcpSocketUtil :=
  if fd < 0 then (connectFailed, { t with fd := fd })
  else (normal, { t with fd := fd, socketState := .netConnecting })

/-- `TcpSocketUtil::Close` (`tsocket_util.cpp:125-135`). -/
def close (t : TcpSocketUtil) : TcpSocketUtil :=
  { t with fd := if 0 ≤ t.fd then -1 else t.fd }.reset

/-- `TcpSocketUtil::CheckNonBlock` (`tsocket_util.cpp:81-102`); `check` is what
`tcpsocket_check_connect` returns. -/
def checkNonBlock (t : TcpSocketUtil) (check : Int) : Int × TcpSocketUtil :=
  if t.fd < 0 then (assertFailed, { t with socketState := .netAssertFail })
  else if check = 0 then (normal, { t with socketState := .netConnected })
  else if check < 0 then (connectFailed, t.close)
  else (normal, t)

/-- `TcpSocketUtil::Send` (`tsocket_util.cpp:137-205`): the return value, the bytes that `send`
took (never more than it was given) and the socket afterwards. -/
def send (t : TcpSocketUtil) (outcome : SendOutcome) : Int × List UInt8 × TcpSocketUtil :=
  if t.socketState = .netAssertFail then (assertFailed, [], t)
  else if t.socketState = .netSendFailed then (normal, [], t)
  else if t.socketState ≠ .netConnected ∧ t.socketState ≠ .netRecvFailed ∧
      t.socketState ≠ .netPeerClosed then (notConnected, [], t)
  else if t.sendBuf.datalen < 0 then (assertFailed, [], { t with socketState := .netAssertFail })
  else if t.sendBuf.datalen = 0 then (normal, [], t)
  else
    match outcome with
    | .wouldBlock => (sendUncompleted, [], t)
    | .failed => (sendFailed, [], { t with socketState := .netSendFailed })
    | .sent len =>
      let bytes := t.sendBuf.content.take len
      if bytes.length = 0 then (normal, [], t)
      else
        (if (bytes.length : Int) < t.sendBuf.datalen then sendUncompleted else normal, bytes,
          { t with sendBuf := (t.sendBuf.skip bytes.length).recycle })

/-- `TcpSocketUtil::Recv` up to the call of `recv` (`tsocket_util.cpp:208-243`): the value it
returns without a call, or the number of free bytes it offers. -/
def beforeRecv (t : TcpSocketUtil) : (Int ⊕ Nat) × TcpSocketUtil :=
  if t.socketState = .netAssertFail then (.inl assertFailed, t)
  else if t.socketState = .netRecvFailed ∨ t.socketState = .netPeerClosed then (.inl normal, t)
  else if t.socketState ≠ .netConnected ∧ t.socketState ≠ .netSendFailed then
    (.inl notConnected, t)
  else if t.recvBuf.avaiable < 0 then
    (.inl assertFailed, { t with socketState := .netAssertFail })
  else if t.recvBuf.avaiable = 0 then
    let t := { t with recvBuf := t.recvBuf.recycle }
    if t.recvBuf.avaiable = 0 then (.inl normal, t)
    else (.inr (CInt.uint64 t.recvBuf.avaiable), t)
  else (.inr (CInt.uint64 t.recvBuf.avaiable), t)

/-- The rest of it (`tsocket_util.cpp:244-279`); no bytes mean that the peer has closed. -/
def afterRecv (t : TcpSocketUtil) : RecvOutcome → Int × TcpSocketUtil
  | .wouldBlock => (normal, t)
  | .failed => (recvFailed, { t with socketState := .netRecvFailed })
  | .received data =>
    if data.length = 0 then (peerClosed, { t with socketState := .netPeerClosed })
    else (normal, { t with recvBuf := t.recvBuf.append data })

/-- `TcpSocketUtil::Recv` (`tsocket_util.cpp:207-280`). -/
def recv (t : TcpSocketUtil) (outcome : RecvOutcome) : Int × TcpSocketUtil :=
  match t.beforeRecv with
  | (.inl ret, t) => (ret, t)
  | (.inr _, t) => t.afterRecv outcome

/-- `total_len` of `PushvToSendQ` (`tsocket_util.cpp:316-324`). -/
def totalLen (iov : List (List UInt8)) : Nat := iov.foldl (fun n v => n + v.length) 0

/-- `TcpSocketUtil::PushvToSendQ` (`tsocket_util.cpp:309-358`), for an `iov` that exists and is not
empty. -/
def pushvToSendQ (t : TcpSocketUtil) (iov : List (List UInt8)) : Int × TcpSocketUtil :=
  if CInt.int32 (totalLen iov : Int) > t.sendBuf.avaiable then (sendBuffFull, t)
  else (normal, { t with sendBuf := t.sendBuf.append iov.flatten })

/-- `TcpSocketUtil::HasNewPkg` (`tsocket_util.cpp:360-377`). -/
def hasNewPkg (t : TcpSocketUtil) : Bool × TcpSocketUtil :=
  match t.tcpPkgParserImp with
  | none => (false, { t with socketState := .netAssertFail })
  | some getPkgLen =>
    let len := getPkgLen t.recvBuf.content
    (decide (len > 0 ∧ len ≤ t.recvBuf.datalen), t)

/-- `TcpSocketUtil::PeekFromRecvQ` (`tsocket_util.cpp:379-405`): the return value and the bytes
`buf` and `buf_len` describe, none when `buf` is null. -/
def peekFromRecvQ (t : TcpSocketUtil) : Int × Option (List UInt8) × TcpSocketUtil :=
  match t.tcpPkgParserImp with
  | none => (assertFailed, none, { t with socketState := .netAssertFail })
  | some getPkgLen =>
    let len := getPkgLen t.recvBuf.content
    (normal, if len > 0 ∧ len ≤ t.recvBuf.datalen then some (t.recvBuf.content.take len.toNat)
      else none, t)

/-- `TcpSocketUtil::PopFromRecvQ` (`tsocket_util.cpp:407-425`). -/
def popFromRecvQ (t : TcpSocketUtil) : Int × TcpSocketUtil :=
  match t.tcpPkgParserImp with
  | none => (assertFailed, { t with socketState := .netAssertFail })
  | some getPkgLen =>
    let len := getPkgLen t.recvBuf.content
    if len ≤ 0 ∨ len > t.recvBuf.datalen then (normal, { t with recvBuf := t.recvBuf.recycle })
    else (normal, { t with recvBuf := t.recvBuf.skip len.toNat })

/-! ## What the operations leave alone -/

variable (t : TcpSocketUtil)

@[simp] theorem sendBuf_beforeRecv : t.beforeRecv.2.sendBuf = t.sendBuf := by
  unfold beforeRecv
  dsimp only
  split_ifs <;> rfl

@[simp] theorem sendBuf_afterRecv (outcome : RecvOutcome) :
    (t.afterRecv outcome).2.sendBuf = t.sendBuf := by
  cases outcome with
  | received data =>
    unfold afterRecv
    dsimp only
    split_ifs <;> rfl
  | wouldBlock => rfl
  | failed => rfl

@[simp] theorem sendBuf_recv (outcome : RecvOutcome) : (t.recv outcome).2.sendBuf = t.sendBuf := by
  rw [← t.sendBuf_beforeRecv, recv]
  rcases t.beforeRecv with ⟨ret | room, t'⟩
  · rfl
  · exact t'.sendBuf_afterRecv outcome

@[simp] theorem sendBuf_hasNewPkg : t.hasNewPkg.2.sendBuf = t.sendBuf := by
  unfold hasNewPkg
  cases t.tcpPkgParserImp <;> rfl

@[simp] theorem sendBuf_peekFromRecvQ : t.peekFromRecvQ.2.2.sendBuf = t.sendBuf := by
  unfold peekFromRecvQ
  cases t.tcpPkgParserImp <;> rfl

@[simp] theorem sendBuf_popFromRecvQ : t.popFromRecvQ.2.sendBuf = t.sendBuf := by
  unfold popFromRecvQ
  cases t.tcpPkgParserImp with
  | none => rfl
  | some getPkgLen =>
    dsimp only
    split_ifs <;> rfl

/-- `Send` leaves the queue alone, or takes bytes from its front. -/
theorem send_cases (outcome : SendOutcome) :
    (t.send outcome).2.1 = [] ∧ (t.send outcome).2.2.sendBuf = t.sendBuf ∨
    ∃ len ≤ t.sendBuf.content.length, (t.send outcome).2.1 = t.sendBuf.content.take len ∧
      (t.send outcome).2.2.sendBuf = (t.sendBuf.skip len).recycle := by
  unfold send
  cases outcome with
  | sent n =>
    by_cases hzero : (t.sendBuf.content.take n).length = 0
    · refine .inl ?_
      simp only [hzero, if_true]
      split_ifs <;> exact ⟨rfl, rfl⟩
    · simp only [hzero, if_false]
      split_ifs
      any_goals exact .inl ⟨rfl, rfl⟩
      all_goals
        refine .inr ⟨_, List.length_take_le' n _, ?_, rfl⟩
        rw [List.length_take, ← List.take_take, List.take_length]
  | wouldBlock => split_ifs <;> exact .inl ⟨rfl, rfl⟩
  | failed => split_ifs <;> exact .inl ⟨rfl, rfl⟩

/-- What `Send` took is no longer in the queue. -/
theorem send_content (outcome : SendOutcome) :
    (t.send outcome).2.1 ++ (t.send outcome).2.2.sendBuf.content = t.sendBuf.content := by
  obtain ⟨hbytes, hbuf⟩ | ⟨len, _, hbytes, hbuf⟩ := t.send_cases outcome
  · rw [hbytes, hbuf, List.nil_append]
  · rw [hbytes, hbuf, RingBuffer.content_recycle, RingBuffer.content_skip,
      List.take_append_drop]

theorem send_ok (h : t.sendBuf.Ok) (outcome : SendOutcome) : (t.send outcome).2.2.sendBuf.Ok := by
  obtain ⟨_, hbuf⟩ | ⟨len, hlen, _, hbuf⟩ := t.send_cases outcome
  · rw [hbuf]; exact h
  · rw [hbuf]; exact (h.skip hlen).recycle

theorem totalLen_eq (iov : List (List UInt8)) : totalLen iov = iov.flatten.length := by
  have hfold : ∀ n, iov.foldl (fun n v => n + v.length) n = n + iov.flatten.length := by
    induction iov with
    | nil => intro n; rfl
    | cons v iov ih =>
      intro n
      rw [List.foldl_cons, ih, List.flatten_cons, List.length_append, Nat.add_assoc]
  rw [totalLen, hfold, Nat.zero_add]

/-- A frame that fits is queued whole. -/
theorem pushvToSendQ_fits (h : t.sendBuf.Ok) {iov : List (List UInt8)}
    (hfit : (iov.flatten.length : Int) ≤ t.sendBuf.avaiable) :
    t.pushvToSendQ iov = (normal, { t with sendBuf := t.sendBuf.append iov.flatten }) ∧
      (t.sendBuf.append iov.flatten).Ok := by
  rw [h.avaiable_eq] at hfit
  have hsize := h.size_lt
  have hint : CInt.int32 (iov.flatten.length : Int) = iov.flatten.length :=
    CInt.int32_of_range (by omega) (by omega)
  refine ⟨?_, h.append (by omega)⟩
  rw [pushvToSendQ, totalLen_eq, hint, h.avaiable_eq, if_neg (by omega)]

/-- A connected socket that cannot send at once has only not finished. -/
theorem send_wouldBlock (hstate : t.socketState = .netConnected) (h : t.sendBuf.Ok) :
    (t.send .wouldBlock).1 = normal ∨ (t.send .wouldBlock).1 = sendUncompleted := by
  have hlen := h.datalen_eq
  rw [send]
  simp only [hstate, reduceCtorEq, if_false, ne_eq, not_true, false_and]
  rw [if_neg (by omega)]
  by_cases hzero : t.sendBuf.datalen = 0
  · rw [if_pos hzero]
    exact .inl rfl
  · rw [if_neg hzero]
    exact .inr rfl

/-- A frame that does not fit is refused, whatever is in it. -/
theorem pushvToSendQ_full {iov : List (List UInt8)}
    (hfull : t.sendBuf.avaiable < (iov.flatten.length : Int))
    (hint : iov.flatten.length < 2 ^ 31) : t.pushvToSendQ iov = (sendBuffFull, t) := by
  have hlen : CInt.int32 (iov.flatten.length : Int) = iov.flatten.length :=
    CInt.int32_of_range (by omega) (by omega)
  rw [pushvToSendQ, totalLen_eq, hlen, if_pos hfull]

end TcpSocketUtil

end Rapidapp.TSocketUtil
