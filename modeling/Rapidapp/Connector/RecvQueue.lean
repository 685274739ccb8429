import Rapidapp.Misc.Framing
import Rapidapp.Misc.Run
import Rapidapp.Connector.Client

/-!
# The receive queue of a client

`TcpSocketUtil` (`utils/tsocket_util.{h,cpp}`) with the `ConnectorPkgParser` of the client, and
the stream it receives from. The kernel hands over any number of bytes that have arrived, at
most as many as `recv` was offered room for.
-/

namespace Rapidapp.Connector

open TSocketUtil

/-! ## The parser as a decoder -/

/-- What the queue takes for a package at the front of its bytes. -/
def pkgDecoder : Framing.Decoder UInt8 where
  next buf :=
    if 0 < getPkgLen buf ∧ getPkgLen buf ≤ buf.length then some (getPkgLen buf).toNat else none
  next_pos := by
    intro buf n h
    split_ifs at h with hlen
    cases h
    omega
  next_le := by
    intro buf n h
    split_ifs at h with hlen
    cases h
    omega

/-- A frame: it has a header and at least one byte, the header is its length, and it fits into the
buffer. -/
structure IsPkg (buffSize : Nat) (f : List UInt8) : Prop where
  five_le : 5 ≤ f.length
  length_le : f.length ≤ buffSize
  header : Bytes.readBe32 f = f.length

/-- The decoder finds the frames, whole. -/
theorem IsPkg.isFrame {buffSize : Nat} {f : List UInt8} (h : IsPkg buffSize f)
    (hsize : buffSize < 2 ^ 31) : pkgDecoder.IsFrame f := by
  have hle := h.length_le
  have hfive := h.five_le
  have hint : CInt.int32 (f.length : Int) = f.length :=
    CInt.int32_of_range (by omega) (by omega)
  constructor
  · intro t
    have hlen : getPkgLen (f ++ t) = f.length := by
      have hread := Bytes.readBe32_prefix (List.prefix_append f t) (by omega)
      rw [getPkgLen, if_neg (by rw [List.length_append, kMsgLenFieldSize]; omega), ← hread,
        h.header, hint]
    rw [pkgDecoder]
    dsimp only
    rw [hlen, List.length_append, if_pos (by omega), Int.toNat_natCast]
  · intro p hp hne
    have hlt : p.length < f.length :=
      lt_of_le_of_ne hp.length_le fun heq => hne (hp.eq_of_length heq)
    rw [pkgDecoder]
    dsimp only
    rw [getPkgLen, kMsgLenFieldSize]
    by_cases hshort : p.length ≤ 4
    · rw [if_pos hshort, if_neg (by omega)]
    · rw [if_neg hshort, Bytes.readBe32_prefix hp (by omega), h.header, hint, if_neg (by omega)]

/-! ## The operations on the queue -/

/-- The room that the next `Recv` offers to `recv`, none when it does not call it. -/
def offered (t : TcpSocketUtil) : Nat :=
  match t.beforeRecv.1 with
  | .inl _ => 0
  | .inr room => room

/-- What `recv` does when these bytes are there to be handed over. -/
def arrived (data : List UInt8) : RecvOutcome :=
  if data = [] then .wouldBlock else .received data

section Operations

variable {t : TcpSocketUtil}

theorem hasNewPkg_eq (hparser : t.tcpPkgParserImp = some getPkgLen) (h : t.recvBuf.Ok) :
    t.hasNewPkg = ((pkgDecoder.next t.recvBuf.content).isSome, t) := by
  rw [TcpSocketUtil.hasNewPkg, hparser, h.datalen_eq]
  simp only [pkgDecoder]
  split_ifs with hlen <;> simp [hlen]

theorem peekFromRecvQ_eq (hparser : t.tcpPkgParserImp = some getPkgLen) (h : t.recvBuf.Ok) :
    t.peekFromRecvQ =
      (normal, (pkgDecoder.next t.recvBuf.content).map t.recvBuf.content.take, t) := by
  rw [TcpSocketUtil.peekFromRecvQ, hparser, h.datalen_eq]
  simp only [pkgDecoder]
  split_ifs with hlen
  · rfl
  · rfl

theorem popFromRecvQ_none (hparser : t.tcpPkgParserImp = some getPkgLen) (h : t.recvBuf.Ok)
    (hnext : pkgDecoder.next t.recvBuf.content = none) :
    t.popFromRecvQ = (normal, { t with recvBuf := t.recvBuf.recycle }) := by
  rw [TcpSocketUtil.popFromRecvQ, hparser, h.datalen_eq]
  simp only [pkgDecoder] at hnext ⊢
  split_ifs at hnext with hlen
  rw [if_pos (by omega)]

theorem popFromRecvQ_some (hparser : t.tcpPkgParserImp = some getPkgLen) (h : t.recvBuf.Ok)
    {n : Nat} (hnext : pkgDecoder.next t.recvBuf.content = some n) :
    t.popFromRecvQ = (normal, { t with recvBuf := t.recvBuf.skip n }) := by
  rw [TcpSocketUtil.popFromRecvQ, hparser, h.datalen_eq]
  simp only [pkgDecoder] at hnext ⊢
  split_ifs at hnext with hlen
  cases hnext
  rw [if_neg (by omega)]

/-- The free room of a buffer, as `Recv` passes it to `recv`. -/
theorem uint64_avaiable {b : RingBuffer} (h : b.Ok) :
    CInt.uint64 b.avaiable = b.buffSize - b.end_ := by
  have hle := h.end_le
  have hsize := h.size_lt
  rw [h.avaiable_eq, CInt.uint64_of_nonneg (by omega) (by omega)]
  omega

/-- `Recv` does not call `recv` when the buffer is full and has nothing to recycle; else it offers
all the free room. -/
theorem beforeRecv_cases (hstate : t.socketState = .netConnected) (h : t.recvBuf.Ok) :
    ∃ b : RingBuffer, b.Ok ∧ b.buffSize = t.recvBuf.buffSize ∧ b.content = t.recvBuf.content ∧
      b.end_ ≤ t.recvBuf.end_ ∧
      (b.content.length = b.buffSize ∧ t.beforeRecv = (.inl normal, { t with recvBuf := b }) ∨
        b.end_ < b.buffSize ∧
          t.beforeRecv = (.inr (b.buffSize - b.end_), { t with recvBuf := b })) := by
  have hle := h.end_le
  have hroom := h.avaiable_eq
  rw [TcpSocketUtil.beforeRecv]
  simp only [hstate, reduceCtorEq, or_false, ne_eq, not_true, false_and, if_false]
  rw [if_neg (by omega)]
  by_cases hfull : t.recvBuf.avaiable = 0
  · have hok := h.recycle
    have hle' := hok.end_le
    have hroom' := hok.avaiable_eq
    have hlen : t.recvBuf.recycle.content.length = t.recvBuf.recycle.end_ := by
      rw [RingBuffer.content, RingBuffer.begin_recycle, List.drop_zero, RingBuffer.end_]
    have hend : t.recvBuf.recycle.end_ ≤ t.recvBuf.end_ := by
      rw [RingBuffer.end_recycle]
      exact Nat.sub_le _ _
    refine ⟨t.recvBuf.recycle, hok, RingBuffer.buffSize_recycle _, RingBuffer.content_recycle _,
      hend, ?_⟩
    rw [if_pos hfull]
    by_cases hfull' : t.recvBuf.recycle.avaiable = 0
    · exact .inl ⟨by omega, if_pos hfull'⟩
    · refine .inr ⟨by omega, ?_⟩
      rw [← uint64_avaiable hok]
      exact if_neg hfull'
  · refine ⟨t.recvBuf, h, rfl, rfl, le_refl _, .inr ⟨by omega, ?_⟩⟩
    rw [if_neg hfull, uint64_avaiable h, ← hstate]

/-- What fits behind the bytes in the buffer is offered room. -/
theorem le_offered (hstate : t.socketState = .netConnected) (h : t.recvBuf.Ok) {len : Nat}
    (hroom : t.recvBuf.end_ + len ≤ t.recvBuf.buffSize) : len ≤ offered t := by
  obtain ⟨b, _, hsize, hcontent, hend, ⟨hfull, hbefore⟩ | ⟨_, hbefore⟩⟩ :=
    beforeRecv_cases hstate h
  · have hlen : t.recvBuf.content.length = t.recvBuf.end_ - t.recvBuf.begin := List.length_drop
    rw [hcontent] at hfull
    omega
  · rw [offered, hbefore]
    dsimp only
    omega

/-- What arrives goes behind the other bytes, and fits. -/
theorem recv_arrived (hstate : t.socketState = .netConnected) (h : t.recvBuf.Ok)
    {data : List UInt8} (hdata : data.length ≤ offered t) :
    ∃ b : RingBuffer, (t.recv (arrived data)).2 = { t with recvBuf := b } ∧ b.Ok ∧
      b.buffSize = t.recvBuf.buffSize ∧ b.content = t.recvBuf.content ++ data ∧
      b.end_ ≤ t.recvBuf.end_ + data.length := by
  obtain ⟨b, hok, hsize, hcontent, hend, ⟨_, hbefore⟩ | ⟨hlt, hbefore⟩⟩ :=
    beforeRecv_cases hstate h
  · rw [offered, hbefore] at hdata
    have hnil : data = [] := List.length_eq_zero_iff.mp (Nat.le_zero.mp hdata)
    refine ⟨b, ?_, hok, hsize, by rw [hnil, List.append_nil, hcontent], by omega⟩
    rw [TcpSocketUtil.recv, hbefore]
  · rw [offered, hbefore] at hdata
    dsimp only at hdata
    rw [TcpSocketUtil.recv, hbefore, arrived]
    dsimp only
    by_cases hnil : data = []
    · refine ⟨b, ?_, hok, hsize, by rw [hnil, List.append_nil, hcontent], by omega⟩
      rw [if_pos hnil, TcpSocketUtil.afterRecv]
    · have hlen : data.length ≠ 0 := fun hzero => hnil (List.length_eq_zero_iff.mp hzero)
      refine ⟨b.append data, ?_, hok.append (by omega), hsize, ?_, ?_⟩
      · rw [if_neg hnil, TcpSocketUtil.afterRecv, if_neg hlen]
      · rw [RingBuffer.content_append hok, hcontent]
      · rw [RingBuffer.end_, RingBuffer.append, List.length_append]
        exact Nat.add_le_add_right hend _

end Operations

/-! ## The queue and the stream -/

/-- A connected socket, the bytes its peer has still in flight, and the frames popped so far. -/
structure RecvQueue where
  sock : TcpSocketUtil
  inFlight : List UInt8
  popped : List (List UInt8)

/-- A call; `recv len` is one during which the kernel hands over at most `len` bytes. -/
inductive QueueCall where
  | recv (len : Nat)
  | hasNewPkg
  | peekFromRecvQ
  | popFromRecvQ
  deriving DecidableEq

namespace RecvQueue

/-- The socket has just been connected. -/
def start (buffSize fd : Nat) (frames : List (List UInt8)) : RecvQueue where
  sock := (((TcpSocketUtil.init getPkgLen buffSize).connectNonBlock fd).2.checkNonBlock 0).2
  inFlight := frames.flatten
  popped := []

/-- The bytes that the next `PopFromRecvQ` takes from the queue. -/
def consumed (q : RecvQueue) : List UInt8 :=
  q.sock.recvBuf.content.take
    (q.sock.recvBuf.content.length - q.sock.popFromRecvQ.2.recvBuf.content.length)

/-- One call. -/
def call (q : RecvQueue) : QueueCall → Option RecvQueue
  | .recv len =>
    if (q.inFlight.take len).length ≤ offered q.sock then
      some { q with
        sock := (q.sock.recv (arrived (q.inFlight.take len))).2
        inFlight := q.inFlight.drop len }
    else none
  | .hasNewPkg => some { q with sock := q.sock.hasNewPkg.2 }
  | .peekFromRecvQ => some { q with sock := q.sock.peekFromRecvQ.2.2 }
  | .popFromRecvQ =>
    some { q with
      sock := q.sock.popFromRecvQ.2
      popped := if q.consumed = [] then q.popped else q.popped ++ [q.consumed] }

/-- The frame at the head of the queue, whether it has arrived or not. -/
def head (frames : List (List UInt8)) (q : RecvQueue) : Option (List UInt8) :=
  frames[q.popped.length]?

/-- What the queue promises. -/
structure Sound (frames : List (List UInt8)) (q : RecvQueue) : Prop where
  begin_le : q.sock.recvBuf.begin ≤ q.sock.recvBuf.end_
  end_le : q.sock.recvBuf.end_ ≤ q.sock.recvBuf.buffSize
  popped : q.popped <+: frames
  peek : ∀ f, q.sock.peekFromRecvQ.2.1 = some f ↔ f ≠ [] ∧ q.consumed = f
  peek_stays : ∀ f, q.sock.peekFromRecvQ.2.1 = some f → ∀ es q',
    (∀ e ∈ es, e ≠ .popFromRecvQ) → Run.run call q es = some q' → q'.consumed = f
  hasNewPkg : ∀ f, q.head frames = some f →
    (q.sock.hasNewPkg.1 = true ↔ f.length ≤ q.sock.recvBuf.content.length)
  noJam : ∀ f, q.head frames = some f → q.sock.recvBuf.content.length < f.length →
    0 < offered q.sock

/-- What every call keeps: nothing of the stream is lost. -/
structure Inv (frames : List (List UInt8)) (buffSize : Nat) (q : RecvQueue) : Prop where
  state : q.sock.socketState = .netConnected
  parser : q.sock.tcpPkgParserImp = some getPkgLen
  ok : q.sock.recvBuf.Ok
  size : q.sock.recvBuf.buffSize = buffSize
  stream : ∃ rest, frames = q.popped ++ rest ∧
    q.sock.recvBuf.content ++ q.inFlight = rest.flatten

theorem sock_start (buffSize fd : Nat) (frames : List (List UInt8)) :
    (start buffSize fd frames).sock =
      { TcpSocketUtil.init getPkgLen buffSize with
        fd := fd
        socketState := .netConnected } := by
  have hfd : ¬ (fd : Int) < 0 := by omega
  simp only [start, TcpSocketUtil.connectNonBlock, TcpSocketUtil.checkNonBlock, hfd, if_false,
    if_true]

theorem inv_start {buffSize : Nat} (hsize : buffSize < 2 ^ 31) (fd : Nat)
    (frames : List (List UInt8)) : Inv frames buffSize (start buffSize fd frames) := by
  have hsock := sock_start buffSize fd frames
  refine ⟨?_, ?_, ?_, ?_, frames, rfl, ?_⟩
  · rw [hsock]
  · rw [hsock]; rfl
  · rw [hsock]; exact .empty hsize
  · rw [hsock]; rfl
  · rw [hsock]; rfl

variable {frames : List (List UInt8)} {buffSize : Nat} {q q' : RecvQueue}

/-- `Recv` moves bytes from the stream into the buffer. -/
theorem Inv.recv {len : Nat} (h : Inv frames buffSize q) (hcall : q.call (.recv len) = some q') :
    Inv frames buffSize q' ∧ q'.popped = q.popped ∧
      q'.sock.recvBuf.content = q.sock.recvBuf.content ++ q.inFlight.take len := by
  obtain ⟨rest, hframes, hstream⟩ := h.stream
  rw [call] at hcall
  split_ifs at hcall with hroom
  cases hcall
  obtain ⟨b, hsock, hok, hsize, hcontent, _⟩ := recv_arrived h.state h.ok hroom
  simp only [hsock]
  refine ⟨⟨h.state, h.parser, hok, hsize.trans h.size, rest, hframes, ?_⟩, trivial, hcontent⟩
  rw [hcontent, List.append_assoc, List.take_append_drop, hstream]

theorem Inv.hasNewPkg (h : Inv frames buffSize q) : q.call .hasNewPkg = some q := by
  rw [call, hasNewPkg_eq h.parser h.ok]

theorem Inv.peekFromRecvQ (h : Inv frames buffSize q) : q.call .peekFromRecvQ = some q := by
  rw [call, peekFromRecvQ_eq h.parser h.ok]

/-- What stands at the front of the buffer: the frame the queue has to hand out next, or a part of
it. -/
theorem Inv.next (h : Inv frames buffSize q) (hsize : buffSize < 2 ^ 31)
    (hframes : ∀ f ∈ frames, IsPkg buffSize f) :
    q.head frames = none ∧ q.sock.recvBuf.content = [] ∨
      ∃ f, q.head frames = some f ∧ f.length ≤ buffSize ∧ f ≠ [] ∧
        pkgDecoder.next q.sock.recvBuf.content =
          (if f.length ≤ q.sock.recvBuf.content.length then some f.length else none) ∧
        (f.length ≤ q.sock.recvBuf.content.length →
          q.sock.recvBuf.content.take f.length = f) := by
  obtain ⟨rest, hsplit, hstream⟩ := h.stream
  have hhead : q.head frames = rest.head? := by
    rw [head, hsplit, List.getElem?_append_right (le_refl _), Nat.sub_self, List.head?_eq_getElem?]
  cases rest with
  | nil =>
    refine .inl ⟨hhead, ?_⟩
    exact (List.append_eq_nil_iff.mp hstream).1
  | cons f rest =>
    have hpkg := hframes f (by rw [hsplit]; simp)
    have hprefix : q.sock.recvBuf.content <+: f ++ rest.flatten := ⟨_, hstream⟩
    have hne : f ≠ [] := by
      have := hpkg.five_le
      rintro rfl
      simp at this
    refine .inr ⟨f, hhead, hpkg.length_le, hne, (hpkg.isFrame hsize).next_head hprefix, ?_⟩
    intro hlen
    have := List.prefix_of_prefix_length_le (List.prefix_append f _) hprefix hlen
    exact (List.prefix_iff_eq_take.mp this).symm

theorem Inv.consumed_none (h : Inv frames buffSize q)
    (hnext : pkgDecoder.next q.sock.recvBuf.content = none) : q.consumed = [] := by
  rw [consumed, popFromRecvQ_none h.parser h.ok hnext]
  simp

theorem Inv.consumed_some (h : Inv frames buffSize q) {n : Nat}
    (hnext : pkgDecoder.next q.sock.recvBuf.content = some n) :
    q.consumed = q.sock.recvBuf.content.take n ∧ q.consumed ≠ [] := by
  have hle := pkgDecoder.next_le hnext
  have hpos := pkgDecoder.next_pos hnext
  have hconsumed : q.consumed = q.sock.recvBuf.content.take n := by
    rw [consumed, popFromRecvQ_some h.parser h.ok hnext]
    simp only [RingBuffer.content_skip, List.length_drop]
    congr 1
    omega
  refine ⟨hconsumed, ?_⟩
  rw [hconsumed, ← List.length_pos_iff, List.length_take]
  omega

theorem Inv.popFromRecvQ (h : Inv frames buffSize q) (hsize : buffSize < 2 ^ 31)
    (hframes : ∀ f ∈ frames, IsPkg buffSize f) (hcall : q.call .popFromRecvQ = some q') :
    Inv frames buffSize q' := by
  obtain ⟨rest, hsplit, hstream⟩ := h.stream
  rw [call] at hcall
  cases hcall
  cases hnext : pkgDecoder.next q.sock.recvBuf.content with
  | none =>
    simp only [h.consumed_none hnext, popFromRecvQ_none h.parser h.ok hnext, if_true]
    refine ⟨h.state, h.parser, h.ok.recycle, ?_, rest, hsplit, ?_⟩
    · rw [RingBuffer.buffSize_recycle, h.size]
    · rw [RingBuffer.content_recycle, hstream]
  | some n =>
    obtain ⟨hconsumed, hne⟩ := h.consumed_some hnext
    have hle := pkgDecoder.next_le hnext
    simp only [hne, popFromRecvQ_some h.parser h.ok hnext, if_false]
    refine ⟨h.state, h.parser, h.ok.skip hle, h.size, ?_⟩
    obtain ⟨_, hnil⟩ | ⟨f, hhead, _, _, hfound, htake⟩ := h.next hsize hframes
    · rw [hnil, Framing.Decoder.next_nil] at hnext
      cases hnext
    · rw [hfound] at hnext
      split_ifs at hnext with hlen
      cases hnext
      have hrest : rest.head? = some f := by
        rw [← hhead, head, hsplit, List.getElem?_append_right (le_refl _), Nat.sub_self,
          List.head?_eq_getElem?]
      obtain ⟨rest', rfl⟩ := List.head?_eq_some_iff.mp hrest
      refine ⟨rest', ?_, ?_⟩
      · rw [hconsumed, htake hlen, hsplit]
        simp
      · rw [RingBuffer.content_skip]
        rw [List.flatten_cons, ← List.take_append_drop f.length q.sock.recvBuf.content,
          htake hlen, List.append_assoc] at hstream
        exact List.append_cancel_left hstream

theorem Inv.call (h : Inv frames buffSize q) (hsize : buffSize < 2 ^ 31)
    (hframes : ∀ f ∈ frames, IsPkg buffSize f) {e : QueueCall} (hcall : q.call e = some q') :
    Inv frames buffSize q' := by
  cases e with
  | recv len => exact (h.recv hcall).1
  | hasNewPkg => exact Option.some.inj (h.hasNewPkg.symm.trans hcall) ▸ h
  | peekFromRecvQ => exact Option.some.inj (h.peekFromRecvQ.symm.trans hcall) ▸ h
  | popFromRecvQ => exact h.popFromRecvQ hsize hframes hcall

/-- A call that pops nothing only adds to the buffer. -/
theorem Inv.call_keeps (h : Inv frames buffSize q) {e : QueueCall} (he : e ≠ .popFromRecvQ)
    (hcall : q.call e = some q') :
    q'.popped = q.popped ∧ q.sock.recvBuf.content <+: q'.sock.recvBuf.content := by
  cases e with
  | recv len =>
    obtain ⟨_, hpopped, hcontent⟩ := h.recv hcall
    exact ⟨hpopped, hcontent ▸ List.prefix_append _ _⟩
  | hasNewPkg => exact Option.some.inj (h.hasNewPkg.symm.trans hcall) ▸ ⟨rfl, List.prefix_refl _⟩
  | peekFromRecvQ =>
    exact Option.some.inj (h.peekFromRecvQ.symm.trans hcall) ▸ ⟨rfl, List.prefix_refl _⟩
  | popFromRecvQ => exact absurd rfl he

theorem Inv.peek_iff (h : Inv frames buffSize q) (f : List UInt8) :
    q.sock.peekFromRecvQ.2.1 = some f ↔ f ≠ [] ∧ q.consumed = f := by
  rw [peekFromRecvQ_eq h.parser h.ok]
  cases hnext : pkgDecoder.next q.sock.recvBuf.content with
  | none =>
    rw [h.consumed_none hnext]
    constructor
    · intro heq
      cases heq
    · rintro ⟨hne, rfl⟩
      exact absurd rfl hne
  | some n =>
    obtain ⟨hconsumed, hne⟩ := h.consumed_some hnext
    rw [Option.map_some, Option.some.injEq, ← hconsumed]
    constructor
    · rintro rfl
      exact ⟨hne, rfl⟩
    · exact And.right

/-- What is about to be popped is the frame at the head, and it has arrived. -/
theorem Inv.consumed_iff (h : Inv frames buffSize q) (hsize : buffSize < 2 ^ 31)
    (hframes : ∀ f ∈ frames, IsPkg buffSize f) {f : List UInt8} :
    f ≠ [] ∧ q.consumed = f ↔
      q.head frames = some f ∧ f.length ≤ q.sock.recvBuf.content.length := by
  obtain ⟨hhead, hnil⟩ | ⟨w, hhead, _, hne, hnext, htake⟩ := h.next hsize hframes
  · have hnext : pkgDecoder.next q.sock.recvBuf.content = none := by
      rw [hnil, Framing.Decoder.next_nil]
    rw [h.consumed_none hnext, hhead]
    constructor
    · rintro ⟨hne, rfl⟩
      exact absurd rfl hne
    · rintro ⟨heq, _⟩
      cases heq
  · rw [hhead, Option.some.injEq]
    by_cases hlen : w.length ≤ q.sock.recvBuf.content.length
    · rw [if_pos hlen] at hnext
      rw [(h.consumed_some hnext).1, htake hlen]
      constructor
      · rintro ⟨_, rfl⟩
        exact ⟨rfl, hlen⟩
      · rintro ⟨rfl, _⟩
        exact ⟨hne, rfl⟩
    · rw [if_neg hlen] at hnext
      rw [h.consumed_none hnext]
      constructor
      · rintro ⟨hf, rfl⟩
        exact absurd rfl hf
      · rintro ⟨rfl, hle⟩
        exact absurd hle hlen

theorem Inv.offered_pos (h : Inv frames buffSize q)
    (hroom : q.sock.recvBuf.content.length < buffSize) : 0 < offered q.sock := by
  obtain ⟨b, _, hsize, hcontent, _, ⟨hfull, _⟩ | ⟨hlt, hbefore⟩⟩ := beforeRecv_cases h.state h.ok
  · rw [hcontent, hsize, h.size] at hfull
    omega
  · rw [offered, hbefore]
    exact Nat.sub_pos_of_lt hlt

/-- A frame that can be popped is not lost before it is. -/
theorem Inv.consumed_run (h : Inv frames buffSize q) (hsize : buffSize < 2 ^ 31)
    (hframes : ∀ f ∈ frames, IsPkg buffSize f) {f : List UInt8}
    (hpeek : f ≠ [] ∧ q.consumed = f) {es : List QueueCall}
    (hes : ∀ e ∈ es, e ≠ .popFromRecvQ) (hrun : Run.run RecvQueue.call q es = some q') :
    q'.consumed = f := by
  have hkept : Inv frames buffSize q' ∧ q'.popped = q.popped ∧
      q.sock.recvBuf.content <+: q'.sock.recvBuf.content := by
    refine Run.run_inv
      (I := fun r => Inv frames buffSize r ∧ r.popped = q.popped ∧
        q.sock.recvBuf.content <+: r.sock.recvBuf.content)
      (P := fun _ e => e ≠ .popFromRecvQ) ?_ ⟨h, rfl, List.prefix_refl _⟩
      (Run.along_of_forall (fun e he _ => hes e he) q) hrun
    rintro r e r' ⟨hinv, hpopped, hcontent⟩ he hcall
    obtain ⟨hpopped', hcontent'⟩ := hinv.call_keeps he hcall
    exact ⟨hinv.call hsize hframes hcall, hpopped'.trans hpopped, hcontent.trans hcontent'⟩
  obtain ⟨hinv, hpopped, hcontent⟩ := hkept
  obtain ⟨hhead, hlen⟩ := (h.consumed_iff hsize hframes).mp hpeek
  refine ((hinv.consumed_iff hsize hframes).mpr ⟨?_, hlen.trans hcontent.length_le⟩).2
  rw [head, hpopped]
  exact hhead

theorem Inv.sound (h : Inv frames buffSize q) (hsize : buffSize < 2 ^ 31)
    (hframes : ∀ f ∈ frames, IsPkg buffSize f) : Sound frames q where
  begin_le := h.ok.begin_le
  end_le := h.ok.end_le
  popped := by
    obtain ⟨rest, hsplit, _⟩ := h.stream
    exact hsplit ▸ List.prefix_append _ _
  peek := h.peek_iff
  peek_stays := by
    intro f hpeek es q' hes hrun
    exact h.consumed_run hsize hframes ((h.peek_iff f).mp hpeek) hes hrun
  hasNewPkg := by
    intro f hf
    rw [hasNewPkg_eq h.parser h.ok]
    obtain ⟨hhead, _⟩ | ⟨w, hhead, _, _, hnext, _⟩ := h.next hsize hframes
    · rw [hhead] at hf
      cases hf
    · rw [hhead] at hf
      cases hf
      rw [hnext]
      split_ifs with hlen <;> simp [hlen]
  noJam := by
    intro f hf hlen
    obtain ⟨hhead, _⟩ | ⟨w, hhead, hle, _⟩ := h.next hsize hframes
    · rw [hhead] at hf
      cases hf
    · rw [hhead] at hf
      cases hf
      exact h.offered_pos (by omega)

/-- The receive queue, whatever the order of the calls and however the stream is cut. -/
theorem sound_run {buffSize : Nat} (hsize : buffSize < 2 ^ 31) {frames : List (List UInt8)}
    (hframes : ∀ f ∈ frames, IsPkg buffSize f) (fd : Nat) {es : List QueueCall}
    (hrun : Run.run call (start buffSize fd frames) es = some q) : Sound frames q :=
  (Run.run_preserves (fun _ _ _ h hcall => Inv.call h hsize hframes hcall)
    (inv_start hsize fd frames) hrun).sound hsize hframes

/-! ## A run -/

/-- Two frames, the second as long as the buffer. -/
def twoFrames : List (List UInt8) := [[0, 0, 0, 5, 7], [0, 0, 0, 8, 9, 10, 11, 12]]

/-- They arrive in pieces of three bytes at most, until both are popped. -/
def pieces : List QueueCall :=
  [.recv 3, .popFromRecvQ, .recv 3, .hasNewPkg, .recv 2, .peekFromRecvQ, .popFromRecvQ, .recv 3,
    .recv 3, .hasNewPkg, .popFromRecvQ]

theorem sound_pieces : ∃ q, Run.run call (start 8 4 twoFrames) pieces = some q ∧
    q.popped = twoFrames ∧ Sound twoFrames q := by
  have hpopped : (Run.run call (start 8 4 twoFrames) pieces).map (·.popped) = some twoFrames := by
    decide
  obtain ⟨q, hrun, hq⟩ := Option.map_eq_some_iff.mp hpopped
  refine ⟨q, hrun, hq, sound_run (by decide) ?_ 4 hrun⟩
  intro f hf
  have hpkg : ∀ f ∈ twoFrames, 5 ≤ f.length ∧ f.length ≤ 8 ∧ Bytes.readBe32 f = f.length := by
    decide
  obtain ⟨hfive, hle, hheader⟩ := hpkg f hf
  exact ⟨hfive, hle, hheader⟩

end RecvQueue

end Rapidapp.Connector
