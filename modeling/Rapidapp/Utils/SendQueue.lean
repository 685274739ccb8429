import Rapidapp.Misc.Run
import Rapidapp.Utils.TcpSocket

/-!
# The send queue of TcpSocketUtil

`PushToSendQ`, `PushvToSendQ` and `Send` of `utils/tsocket_util.cpp:137-358` on one connection.
The size of the buffer is any `size_t`: `Avaiable` and `Datalen` are `int`s, but what was ever
pushed fits into the `int` that `Avaiable` was at the start (`InRange`).
-/

namespace Rapidapp.TSocketUtil

/-- `struct iovec`: a null `iov_base` with some `iov_len`, or the bytes it points to. -/
inductive IoVec where
  | null (len : Nat)
  | bytes (data : List UInt8)
  deriving DecidableEq

/-- The bytes of an entry, if it is not passed over (`tsocket_util.cpp:319-322`, `341-344`). -/
def IoVec.data : IoVec → Option (List UInt8)
  | .null _ => none
  | .bytes data => if data.length = 0 then none else some data

/-- The bytes of the entries, in order. -/
def iovData (iov : List IoVec) : List UInt8 := (iov.filterMap IoVec.data).flatten

namespace TcpSocketUtil

/-- `TcpSocketUtil::PushToSendQ` (`tsocket_util.cpp:282-307`). -/
def pushToSendQ (t : TcpSocketUtil) (buf : List UInt8) : Int × TcpSocketUtil :=
  if CInt.int32 (buf.length : Int) > t.sendBuf.avaiable then (sendBuffFull, t)
  else (normal, { t with sendBuf := t.sendBuf.append buf })

/-- `PushvToSendQ` from its entry on (`tsocket_util.cpp:309-358`); `none` is a null `iov`. -/
def pushIoVec (t : TcpSocketUtil) : Option (List IoVec) → Int × TcpSocketUtil
  | none => (invldArgument, t)
  | some iov =>
    if iov.length = 0 then (invldArgument, t) else t.pushvToSendQ (iov.filterMap IoVec.data)

end TcpSocketUtil

/-! ## Calls on one connection -/

/-- A call on the socket. `Recv` is there because it changes the state of the socket. -/
inductive SendCall where
  | pushToSendQ (buf : List UInt8)
  | pushvToSendQ (iov : Option (List IoVec))
  | send (outcome : SendOutcome)
  | recv (outcome : RecvOutcome)

namespace SendCall

/-- The bytes a call is to queue. -/
def data : SendCall → List UInt8
  | .pushToSendQ buf => buf
  | .pushvToSendQ iov => iovData (iov.getD [])
  | .send _ => []
  | .recv _ => []

/-- A call: what it returns, what the kernel took, and the socket afterwards. -/
def run (t : TcpSocketUtil) : SendCall → Int × List UInt8 × TcpSocketUtil
  | .pushToSendQ buf => ((t.pushToSendQ buf).1, [], (t.pushToSendQ buf).2)
  | .pushvToSendQ iov => ((t.pushIoVec iov).1, [], (t.pushIoVec iov).2)
  | .send outcome => t.send outcome
  | .recv outcome => ((t.recv outcome).1, [], (t.recv outcome).2)

end SendCall

/-- The socket with two ghost records: the bytes `send` took, and the bytes of the calls that
returned `NORMAL`. -/
structure SendQueue where
  sock : TcpSocketUtil
  accepted : List UInt8
  pushed : List UInt8

namespace SendQueue

/-- Before the first call on a connection; the send buffer is empty. -/
def start (t : TcpSocketUtil) : SendQueue := ⟨t, [], []⟩

/-- One call. -/
def call (q : SendQueue) (c : SendCall) : Option SendQueue :=
  some
    { sock := (c.run q.sock).2.2
      accepted := q.accepted ++ (c.run q.sock).2.1
      pushed := if (c.run q.sock).1 = normal then q.pushed ++ c.data else q.pushed }

/-- What the queue promises. -/
structure Sound (q : SendQueue) : Prop where
  stream : q.accepted ++ q.sock.sendBuf.content = q.pushed
  begin_le : q.sock.sendBuf.begin ≤ q.sock.sendBuf.end_
  end_le : q.sock.sendBuf.end_ ≤ q.sock.sendBuf.buffSize
  refused : ∀ {c : SendCall} {sent sock}, c.run q.sock = (sendBuffFull, sent, sock) →
    sent = [] ∧ sock = q.sock

end SendQueue

/-! ## The bounds of the buffer -/

/-- The buffer begins at 0, and what is in it fits into the `int` that its size is. -/
structure InRange (b : RingBuffer) : Prop where
  begin_eq : b.begin = 0
  end_le : (b.end_ : Int) ≤ max 0 (CInt.int32 b.buffSize)

namespace InRange

variable {b : RingBuffer}

theorem empty (n : Nat) : InRange (.empty n) := ⟨rfl, le_max_left _ _⟩

theorem end_le_size (h : InRange b) : b.end_ ≤ b.buffSize := by
  have hend := h.end_le
  have hint := CInt.int32_le b.buffSize
  omega

theorem content_eq (h : InRange b) : b.content = b.buff := by
  rw [RingBuffer.content, h.begin_eq, List.drop_zero]

/-- `Avaiable` does not wrap around where there is room at all. -/
theorem avaiable_eq (h : InRange b) :
    b.avaiable < 0 ∧ b.end_ = 0 ∨ b.avaiable = CInt.int32 b.buffSize - b.end_ := by
  have hend := h.end_le
  by_cases hneg : CInt.int32 b.buffSize < 0
  · left
    have hzero : b.end_ = 0 := by omega
    refine ⟨?_, hzero⟩
    rw [RingBuffer.avaiable, hzero]
    simpa using hneg
  · right
    rw [RingBuffer.avaiable]
    exact CInt.int32_sub (by omega)

theorem append (h : InRange b) {bytes : List UInt8} (hlen : bytes.length < 2 ^ 31)
    (hfits : ¬ CInt.int32 (bytes.length : Int) > b.avaiable) : InRange (b.append bytes) := by
  have hint : CInt.int32 (bytes.length : Int) = bytes.length :=
    CInt.int32_of_range (by omega) (by omega)
  rw [hint] at hfits
  refine ⟨h.begin_eq, ?_⟩
  simp only [RingBuffer.append, RingBuffer.end_, List.length_append, Nat.cast_add]
  rcases h.avaiable_eq with ⟨hneg, _⟩ | heq
  · omega
  · rw [RingBuffer.end_] at heq
    omega

theorem drop (h : InRange b) (len : Nat) :
    InRange (b.skip len).recycle := by
  have hend := h.end_le
  refine ⟨RingBuffer.begin_recycle _, ?_⟩
  rw [RingBuffer.end_recycle, RingBuffer.buffSize_recycle]
  simp only [RingBuffer.skip, RingBuffer.end_] at hend ⊢
  omega

end InRange

/-! ## What a call does -/

/-- A push is refused and changes nothing, or the bytes are at the end of the queue. -/
structure Pushed (data : List UInt8) (t : TcpSocketUtil) (r : Int × TcpSocketUtil) : Prop where
  refused : r.1 ≠ normal → r.2 = t
  queued : r.1 = normal → InRange r.2.sendBuf ∧
    r.2.sendBuf.content = t.sendBuf.content ++ data

section Push

variable {t : TcpSocketUtil} (h : InRange t.sendBuf)
include h

theorem pushed_append {data : List UInt8} (hlen : data.length < 2 ^ 31) :
    Pushed data t (if CInt.int32 (data.length : Int) > t.sendBuf.avaiable then (sendBuffFull, t)
      else (normal, { t with sendBuf := t.sendBuf.append data })) := by
  by_cases hfull : CInt.int32 (data.length : Int) > t.sendBuf.avaiable
  · rw [if_pos hfull]
    exact ⟨fun _ => rfl, fun hret => by cases hret⟩
  · rw [if_neg hfull]
    have happend := h.append hlen hfull
    refine ⟨fun hret => absurd rfl hret, fun _ => ⟨happend, ?_⟩⟩
    rw [happend.content_eq, h.content_eq]
    rfl

theorem pushed_pushToSendQ {buf : List UInt8} (hlen : buf.length < 2 ^ 31) :
    Pushed buf t (t.pushToSendQ buf) := pushed_append h hlen

theorem pushed_pushIoVec {iov : Option (List IoVec)} (hlen : (iovData (iov.getD [])).length < 2 ^ 31) :
    Pushed (iovData (iov.getD [])) t (t.pushIoVec iov) := by
  have hinvalid : ∀ data, Pushed data t (invldArgument, t) :=
    fun _ => ⟨fun _ => rfl, fun hret => by cases hret⟩
  cases iov with
  | none => exact hinvalid _
  | some iov =>
    rw [TcpSocketUtil.pushIoVec]
    by_cases hzero : iov.length = 0
    · rw [if_pos hzero]
      exact hinvalid _
    · rw [if_neg hzero, TcpSocketUtil.pushvToSendQ, TcpSocketUtil.totalLen_eq]
      exact pushed_append h hlen

end Push

namespace SendQueue

/-- What every call keeps. -/
structure Inv (q : SendQueue) : Prop where
  stream : q.accepted ++ q.sock.sendBuf.content = q.pushed
  inRange : InRange q.sock.sendBuf

variable {q q' : SendQueue}

/-- A push: it is refused, or its bytes are queued. -/
theorem Inv.push (h : Inv q) {c : SendCall} {r : Int × TcpSocketUtil}
    (hrun : c.run q.sock = (r.1, [], r.2)) (hpush : Pushed c.data q.sock r)
    (hcall : q.call c = some q') : Inv q' := by
  rw [call, hrun, List.append_nil] at hcall
  obtain rfl := Option.some.inj hcall
  by_cases hret : r.1 = normal
  · obtain ⟨hrange, hcontent⟩ := hpush.queued hret
    refine ⟨?_, hrange⟩
    dsimp only
    rw [if_pos hret, hcontent, ← List.append_assoc, h.stream]
  · refine ⟨?_, ?_⟩
    · dsimp only
      rw [if_neg hret, hpush.refused hret]
      exact h.stream
    · dsimp only
      rw [hpush.refused hret]
      exact h.inRange

/-- Another call moves bytes from the queue to the kernel, or none. -/
theorem Inv.moved (h : Inv q) {c : SendCall} (hdata : c.data = [])
    (hcontent : (c.run q.sock).2.1 ++ (c.run q.sock).2.2.sendBuf.content = q.sock.sendBuf.content)
    (hrange : InRange (c.run q.sock).2.2.sendBuf) (hcall : q.call c = some q') : Inv q' := by
  rw [call, hdata, List.append_nil, ite_self] at hcall
  obtain rfl := Option.some.inj hcall
  refine ⟨?_, hrange⟩
  dsimp only
  rw [List.append_assoc, hcontent]
  exact h.stream

theorem Inv.call (h : Inv q) {c : SendCall} (hlen : c.data.length < 2 ^ 31)
    (hcall : q.call c = some q') : Inv q' := by
  cases c with
  | pushToSendQ buf => exact h.push (c := .pushToSendQ buf) rfl (pushed_pushToSendQ h.inRange hlen) hcall
  | pushvToSendQ iov => exact h.push (c := .pushvToSendQ iov) rfl (pushed_pushIoVec h.inRange hlen) hcall
  | send outcome =>
    apply h.moved (c := .send outcome) rfl (q.sock.send_content outcome) _ hcall
    rcases q.sock.send_cases outcome with ⟨_, hbuf⟩ | ⟨len, _, _, hbuf⟩
    · rw [SendCall.run, hbuf]
      exact h.inRange
    · rw [SendCall.run, hbuf]
      exact h.inRange.drop len
  | recv outcome =>
    have hsame := q.sock.sendBuf_recv outcome
    apply h.moved (c := .recv outcome) rfl _ _ hcall
    · simp only [SendCall.run, hsame, List.nil_append]
    · simp only [SendCall.run, hsame]
      exact h.inRange

theorem send_ne_sendBuffFull (t : TcpSocketUtil) (outcome : SendOutcome) :
    (t.send outcome).1 ≠ sendBuffFull := by
  unfold TcpSocketUtil.send
  cases outcome <;> dsimp only <;> split_ifs <;>
    simp [normal, assertFailed, notConnected, sendUncompleted, sendFailed, sendBuffFull]

theorem recv_ne_sendBuffFull (t : TcpSocketUtil) (outcome : RecvOutcome) :
    (t.recv outcome).1 ≠ sendBuffFull := by
  unfold TcpSocketUtil.recv TcpSocketUtil.beforeRecv TcpSocketUtil.afterRecv
  cases outcome <;> dsimp only <;> split_ifs <;>
    simp [normal, assertFailed, notConnected, recvFailed, peerClosed, sendBuffFull]

theorem pushToSendQ_cases (t : TcpSocketUtil) (buf : List UInt8) :
    t.pushToSendQ buf = (sendBuffFull, t) ∨ (t.pushToSendQ buf).1 ≠ sendBuffFull := by
  have hnormal : normal ≠ sendBuffFull := by simp [normal, sendBuffFull]
  unfold TcpSocketUtil.pushToSendQ
  split_ifs
  · exact .inl rfl
  · exact .inr hnormal

theorem pushIoVec_cases (t : TcpSocketUtil) (iov : Option (List IoVec)) :
    t.pushIoVec iov = (sendBuffFull, t) ∨ (t.pushIoVec iov).1 ≠ sendBuffFull := by
  have hinvalid : invldArgument ≠ sendBuffFull := by simp [invldArgument, sendBuffFull]
  have hnormal : normal ≠ sendBuffFull := by simp [normal, sendBuffFull]
  cases iov with
  | none => exact .inr hinvalid
  | some iov =>
    unfold TcpSocketUtil.pushIoVec TcpSocketUtil.pushvToSendQ
    dsimp only
    split_ifs
    · exact .inr hinvalid
    · exact .inl rfl
    · exact .inr hnormal

/-- Only a push returns `SEND_BUFF_FULL`, and then it has changed nothing. -/
theorem run_sendBuffFull {t : TcpSocketUtil} {c : SendCall} {sent : List UInt8}
    {sock : TcpSocketUtil} (hrun : c.run t = (sendBuffFull, sent, sock)) :
    sent = [] ∧ sock = t := by
  cases c with
  | pushToSendQ buf =>
    simp only [SendCall.run, Prod.mk.injEq] at hrun
    obtain ⟨hret, hsent, hsock⟩ := hrun
    rcases pushToSendQ_cases t buf with heq | hne
    · rw [heq] at hsock
      exact ⟨hsent.symm, hsock.symm⟩
    · exact absurd hret hne
  | pushvToSendQ iov =>
    simp only [SendCall.run, Prod.mk.injEq] at hrun
    obtain ⟨hret, hsent, hsock⟩ := hrun
    rcases pushIoVec_cases t iov with heq | hne
    · rw [heq] at hsock
      exact ⟨hsent.symm, hsock.symm⟩
    · exact absurd hret hne
  | send outcome =>
    rw [SendCall.run] at hrun
    exact absurd (congrArg Prod.fst hrun) (send_ne_sendBuffFull t outcome)
  | recv outcome =>
    simp only [SendCall.run, Prod.mk.injEq] at hrun
    exact absurd hrun.1 (recv_ne_sendBuffFull t outcome)

theorem Inv.sound (h : Inv q) : Sound q where
  stream := h.stream
  begin_le := by
    rw [h.inRange.begin_eq]
    exact Nat.zero_le _
  end_le := h.inRange.end_le_size
  refused := run_sendBuffFull

/-- The send queue of a connection, whatever the order of the calls and whatever `send` does. -/
theorem sendQueue_run {t : TcpSocketUtil} {buffSize : Nat} (ht : t.sendBuf = .empty buffSize)
    {cs : List SendCall} (hlen : ∀ c ∈ cs, c.data.length < 2 ^ 31)
    (hrun : Run.run call (start t) cs = some q) : Sound q := by
  have hstart : Inv (start t) := by
    refine ⟨?_, ?_⟩ <;> simp only [start, ht]
    · rfl
    · exact InRange.empty buffSize
  have halong : Run.Along call (fun _ c => c.data.length < 2 ^ 31) (start t) cs :=
    Run.along_of_forall (fun c hc _ => hlen c hc) _
  apply Inv.sound
  apply Run.run_inv (I := Inv) _ hstart halong hrun
  intro s c s' h hc hcall
  exact h.call (c := c) hc hcall

/-- A connected socket with eight bytes to queue in. -/
def connected : TcpSocketUtil :=
  { TcpSocketUtil.init (fun _ => 0) 8 with socketState := .netConnected }

/-- A partial `send`, entries that are passed over, and a push for which there is no room. -/
def partlySent : List SendCall :=
  [.pushToSendQ [1, 2, 3], .send (.sent 2),
    .pushvToSendQ (some [.null 4, .bytes [4], .bytes [], .bytes [5, 6]]),
    .pushToSendQ [7, 7, 7, 7, 7], .send .wouldBlock, .send (.sent 3)]

theorem sendQueue_partlySent : ∃ q, Run.run call (start connected) partlySent = some q ∧
    q.accepted = [1, 2, 3, 4, 5] ∧ q.pushed = [1, 2, 3, 4, 5, 6] ∧ Sound q := by
  have hsent : (Run.run call (start connected) partlySent).map
      (fun q => (q.accepted, q.pushed)) = some ([1, 2, 3, 4, 5], [1, 2, 3, 4, 5, 6]) := by
    decide +kernel
  obtain ⟨q, hrun, hq⟩ := Option.map_eq_some_iff.mp hsent
  obtain ⟨haccepted, hpushed⟩ := Prod.mk.inj hq
  have hshort : ∀ c ∈ partlySent, c.data.length ≤ 5 := by decide
  have hlen : ∀ c ∈ partlySent, c.data.length < 2 ^ 31 := by
    intro c hc
    have hle := hshort c hc
    omega
  exact ⟨q, hrun, haccepted, hpushed, sendQueue_run rfl hlen hrun⟩

end SendQueue

end Rapidapp.TSocketUtil
