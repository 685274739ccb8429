import Rapidapp.Framework.FrameCuts
import Rapidapp.Connector.RecvQueue

/-!
# Two decoders of one wire format

A client cuts its stream with `ConnectorPkgParser` and `HasNewPkg`, `PeekFromRecvQ` and
`PopFromRecvQ` (`server/connector/client_api/connector_client_api_imp.cpp:14-32`, `206-224`,
`utils/tsocket_util.cpp:360-425`), the server with `GetMsgLength` and the loop of
`OnFrontEndMsg` (`framework/rapidapp_framework_imp.cpp:1099-1141`). Both read the same
four-byte header, but the client wants more than four bytes before it looks at it, and
neither asks that the length covers the header. Buffers with room for the whole stream are large
enough for both (`clientSplit_isSome`, `serverSplit_isSome`).
-/

namespace Rapidapp.Connector

open TSocketUtil Framing

/-- A frame cut from the stream, the payload size computed for it, and the payload. -/
structure Piece where
  frame : List UInt8
  size : Int
  payload : List UInt8
  deriving DecidableEq

/-- A frame whose header is counted in its length. -/
def Piece.ofFrame (frame : List UInt8) : Piece where
  frame := frame
  size := (frame.length : Int) - 4
  payload := frame.drop 4

/-! ## The client -/

/-- What `TryToRecvFromPeerAndParse` does after `Recv` (`connector_client_api_imp.cpp:190-224`) as
far as the socket goes: the package it hands to `ParseFromArray`, if there is one. -/
def takePkg (t : TcpSocketUtil) : Option (Piece × TcpSocketUtil) :=
  match t.hasNewPkg with
  | (false, _) => none
  | (true, t) =>
    match t.peekFromRecvQ with
    | (_, none, _) => none
    | (_, some buf, t) =>
      let size := (buf.length : Int) - kMsgLenFieldSize
      some (⟨buf, size, (buf.drop kMsgLenFieldSize).take size.toNat⟩, t.popFromRecvQ.2)

/-- This, again and again until there is no complete package. It runs on fuel: `none` means that
there was still one when the fuel was used up. -/
def takePkgs : Nat → TcpSocketUtil → Option (List Piece × TcpSocketUtil)
  | 0, _ => none
  | fuel + 1, t =>
    match takePkg t with
    | none => some ([], t)
    | some (x, t) => (takePkgs fuel t).map fun r => (x :: r.1, r.2)

/-- A piece of the stream is received, at most as much as `recv` was offered room for, and all
complete packages are taken. -/
def clientFeed (st : List Piece × TcpSocketUtil) (chunk : List UInt8) :
    Option (List Piece × TcpSocketUtil) :=
  if chunk.length ≤ offered st.2 then
    let t := (st.2.recv (arrived chunk)).2
    (takePkgs (t.recvBuf.content.length + 1) t).map fun r => (st.1 ++ r.1, r.2)
  else none

/-- What a client that has just connected makes of the stream: the packages and the bytes that
stay in the buffer. `none`: a chunk did not fit into the buffer. -/
def clientSplit (buffSize fd : Nat) (chunks : List (List UInt8)) :
    Option (List Piece × List UInt8) :=
  (chunks.foldlM clientFeed ([], (RecvQueue.start buffSize fd []).sock)).map
    fun st => (st.1, st.2.recvBuf.content)

/-! ## The server -/

/-- The frame at `elapsed` as the loop of `OnFrontEndMsg` hands it out. -/
def framePiece (buf : List UInt8) (elapsed msglen : Nat) : Piece where
  frame := (buf.drop elapsed).take msglen
  size := payloadSize msglen
  payload := payloadBytes buf elapsed msglen

/-- A piece of the stream arrives and the loop of `OnFrontEndMsg` runs over the input, which it
has copied to the receive buffer; the rest stays in the input. -/
def serverFeed (recvBuff : RapBuffer) (st : List Piece × List UInt8) (chunk : List UInt8) :
    Option (List Piece × List UInt8) :=
  let buf := st.2 ++ chunk
  if buf.length ≤ recvBuff.size then
    (frameLoop (fun elapsed msglen pieces => (pieces ++ [framePiece buf elapsed msglen], true)) buf
      (buf.length + 1) 0 st.1).map fun r => (r.1, buf.drop r.2.1)
  else none

/-- What the server makes of the stream: the frames and the bytes that stay in the input. `none`:
the receive buffer was too small for the input. -/
def serverSplit (recvBuff : RapBuffer) (chunks : List (List UInt8)) :
    Option (List Piece × List UInt8) :=
  chunks.foldlM (serverFeed recvBuff) ([], [])

/-! ## The property -/

/-- Both cut the stream alike, and no payload size is negative or larger than its frame. -/
structure SplitAlike (client server : List Piece × List UInt8) : Prop where
  pieces : client.1 = server.1
  rest : client.2 = server.2
  sizes : ∀ x ∈ client.1 ++ server.1, 0 ≤ x.size ∧ x.size ≤ x.frame.length

/-- A whole frame: the header is its length, an `int`, and counts itself. -/
structure IsWhole (w : List UInt8) : Prop where
  four_le : 4 ≤ w.length
  length_lt : w.length < 2 ^ 31
  header : Bytes.readBe32 w = w.length

/-- The bytes begin with a length of 1, 2 or 3, or are a header of length 4 with nothing behind
it. -/
def Misleads (t : List UInt8) : Prop :=
  4 ≤ t.length ∧ 0 < Bytes.readBe32 t ∧
    (Bytes.readBe32 t < 4 ∨ Bytes.readBe32 t = 4 ∧ t.length = 4)

/-- Behind no whole frames at the head of the stream stand such bytes. -/
def WellHeaded (stream : List UInt8) : Prop :=
  ∀ (ws : List (List UInt8)) (t : List UInt8), stream = ws.flatten ++ t →
    (∀ w ∈ ws, IsWhole w) → ¬ Misleads t

/-! ## The decoders -/

theorem pkg_next_eq_some {buf : List UInt8} {n : Nat} :
    pkgDecoder.next buf = some n ↔
      4 < buf.length ∧ CInt.int32 (Bytes.readBe32 buf) = n ∧ 0 < n ∧ n ≤ buf.length := by
  rw [pkgDecoder]
  dsimp only
  rw [getPkgLen, kMsgLenFieldSize]
  by_cases hfour : buf.length ≤ 4
  · rw [if_pos hfour]
    simp only [lt_irrefl, false_and, if_false, reduceCtorEq, false_iff]
    omega
  · rw [if_neg hfour]
    split_ifs with hlen
    · rw [Option.some.injEq]
      omega
    · simp only [false_iff]
      omega

theorem stable_pkgDecoder : pkgDecoder.Stable := by
  intro buf n h t
  obtain ⟨hfour, hlen, hpos, hle⟩ := pkg_next_eq_some.mp h
  rw [Bytes.readBe32_prefix (List.prefix_append buf t) (by omega)] at hlen
  apply pkg_next_eq_some.mpr
  rw [List.length_append]
  exact ⟨by omega, hlen, hpos, by omega⟩

theorem getMsgLength_append {buf : List UInt8} (h : 4 ≤ buf.length) (t : List UInt8) :
    getMsgLength (buf ++ t) = getMsgLength buf := by
  have hlong : ¬ (buf ++ t).length < 4 := by
    rw [List.length_append]
    omega
  rw [getMsgLength, getMsgLength, if_neg hlong, if_neg (not_lt.mpr h),
    Bytes.readBe32_prefix (List.prefix_append buf t) h]

theorem four_le_of_next {buf : List UInt8} {n : Nat} (h : msgDecoder.next buf = some n) :
    4 ≤ buf.length := by
  obtain ⟨hlen, hpos, _⟩ := next_eq_some.mp h
  by_contra hfour
  rw [getMsgLength, if_pos (not_le.mp hfour), CInt.uint64_zero] at hlen
  omega

theorem stable_msgDecoder : msgDecoder.Stable := by
  intro buf n h t
  obtain ⟨hlen, hpos, hle⟩ := next_eq_some.mp h
  apply next_eq_some.mpr
  rw [getMsgLength_append (four_le_of_next h), List.length_append]
  exact ⟨hlen, hpos, by omega⟩

/-- What the client finds the server finds. -/
theorem msg_of_pkg {buf : List UInt8} {n : Nat} (h : pkgDecoder.next buf = some n) :
    msgDecoder.next buf = some n := by
  obtain ⟨hfour, hlen, hpos, hle⟩ := pkg_next_eq_some.mp h
  have hlt := CInt.int32_lt (Bytes.readBe32 buf)
  apply next_eq_some.mpr
  refine ⟨?_, hpos, hle⟩
  rw [getMsgLength, if_neg (by omega), hlen, CInt.uint64_natCast (by omega)]

/-- The header of what the client finds is the length as it stands. -/
theorem header_of_pkg {buf : List UInt8} {n : Nat} (h : pkgDecoder.next buf = some n) :
    Bytes.readBe32 buf = n ∧ n < 2 ^ 31 := by
  obtain ⟨_, hlen, hpos, _⟩ := pkg_next_eq_some.mp h
  have hlt := CInt.int32_lt (Bytes.readBe32 buf)
  have hsame := CInt.int32_nonneg (Bytes.readBe32_lt buf) (by omega)
  omega

/-- In a buffer that exists, they differ only at bytes that mislead. -/
theorem next_eq {buf : List UInt8} (hbuf : buf.length < 2 ^ 63) (h : ¬ Misleads buf) :
    msgDecoder.next buf = pkgDecoder.next buf := by
  cases hpkg : pkgDecoder.next buf with
  | some n => exact msg_of_pkg hpkg
  | none =>
    cases hmsg : msgDecoder.next buf with
    | none => rfl
    | some n =>
      obtain ⟨hread, hlt, hfour⟩ := header_of_next hbuf hmsg
      obtain ⟨_, hpos, hle⟩ := next_eq_some.mp hmsg
      have hnot : ¬ 4 < buf.length := by
        intro hmore
        have hsome := pkg_next_eq_some.mpr ⟨hmore, by
          rw [hread]
          exact CInt.int32_of_range (by omega) (by omega), hpos, hle⟩
        rw [hpkg] at hsome
        cases hsome
      exact absurd ⟨hfour, by omega, by omega⟩ h

theorem IsWhole.pkg_next {w : List UInt8} (h : IsWhole w) {t : List UInt8} (ht : t ≠ []) :
    pkgDecoder.next (w ++ t) = some w.length := by
  have hlen := h.length_lt
  have hpos := List.length_pos_iff.mpr ht
  apply pkg_next_eq_some.mpr
  rw [← Bytes.readBe32_prefix (List.prefix_append w t) h.four_le, h.header, List.length_append]
  exact ⟨by have := h.four_le; omega, CInt.int32_of_range (by omega) (by omega),
    by have := h.four_le; omega, by omega⟩

/-- A stream that misleads nobody is cut alike, and each frame covers its header. -/
theorem split_eq {stream : List UInt8} (h : WellHeaded stream)
    (hrest : (pkgDecoder.split stream).2.length < 2 ^ 63) :
    msgDecoder.split stream = pkgDecoder.split stream ∧
      ∀ f ∈ (pkgDecoder.split stream).1, 4 ≤ f.length ∧ f.length < 2 ^ 63 := by
  induction stream using Decoder.cuts_induction (d := pkgDecoder) with
  | none buf hnext =>
    have hhead := h [] buf rfl (by simp)
    rw [Decoder.split_of_none hnext] at hrest ⊢
    have hmsg := next_eq hrest hhead
    exact ⟨Decoder.split_of_none (hmsg.trans hnext), by simp⟩
  | some buf n hnext ih =>
    have hle := pkgDecoder.next_le hnext
    have hpos := pkgDecoder.next_pos hnext
    obtain ⟨hread, hlt⟩ := header_of_pkg hnext
    obtain ⟨hmore, _⟩ := pkg_next_eq_some.mp hnext
    have hlength : (buf.take n).length = n := List.length_take_of_le hle
    have hfour : 4 ≤ n := by
      by_contra hshort
      exact h [] buf rfl (by simp) ⟨by omega, by omega, .inl (by omega)⟩
    have hwhole : IsWhole (buf.take n) := by
      refine ⟨by omega, by omega, ?_⟩
      rw [Bytes.readBe32_prefix (List.take_prefix n buf) (by omega), hread, hlength]
    have hdrop : WellHeaded (buf.drop n) := by
      intro ws t hsplit hws
      apply h (buf.take n :: ws) t
      · rw [List.flatten_cons, List.append_assoc, ← hsplit, List.take_append_drop]
      · intro w hw
        rcases List.mem_cons.mp hw with rfl | hw
        · exact hwhole
        · exact hws w hw
    rw [Decoder.split_of_some hnext] at hrest ⊢
    obtain ⟨heq, hfours⟩ := ih hdrop hrest
    rw [Decoder.split_of_some (msg_of_pkg hnext), heq]
    refine ⟨rfl, fun f hf => ?_⟩
    rcases List.mem_cons.mp hf with rfl | hf
    · omega
    · exact hfours f hf

/-! ## What the server's loop hands out -/

/-- The pieces are these frames, each with the size the server computes for it, and with its payload
where the frame covers its header. -/
structure ServerPieces (pieces : List Piece) (frames : List (List UInt8)) : Prop where
  frames : pieces.map Piece.frame = frames
  size : ∀ x ∈ pieces, x.size = payloadSize x.frame.length
  payload : ∀ x ∈ pieces, 4 ≤ x.frame.length → x.frame.length < 2 ^ 63 → x.payload = x.frame.drop 4

theorem ServerPieces.append {xs ys : List Piece} {fs gs : List (List UInt8)}
    (hx : ServerPieces xs fs) (hy : ServerPieces ys gs) : ServerPieces (xs ++ ys) (fs ++ gs) where
  frames := by rw [List.map_append, hx.frames, hy.frames]
  size x hmem := (List.mem_append.mp hmem).elim (hx.size x) (hy.size x)
  payload x hmem := (List.mem_append.mp hmem).elim (hx.payload x) (hy.payload x)

theorem payloadSize_of_le {n : Nat} (hfour : 4 ≤ n) (hlt : n < 2 ^ 63) : payloadSize n = n - 4 := by
  rw [payloadSize, CInt.uint64_of_nonneg (by omega) (by omega)]
  omega

theorem serverPieces_one (buf : List UInt8) {elapsed n : Nat} (hle : n ≤ (buf.drop elapsed).length) :
    ServerPieces [framePiece buf elapsed n] [(buf.drop elapsed).take n] := by
  have hlength : ((buf.drop elapsed).take n).length = n := List.length_take_of_le hle
  refine ⟨rfl, ?_, ?_⟩
  · intro x hx
    rw [List.mem_singleton.mp hx, framePiece]
    dsimp only
    rw [hlength]
  · intro x hx hfour hlt
    rw [List.mem_singleton.mp hx, framePiece] at hfour hlt ⊢
    dsimp only at hfour hlt ⊢
    rw [hlength] at hfour hlt
    rw [payloadBytes, payloadSize_of_le hfour hlt, List.drop_take, List.drop_drop]

theorem foldFrames_collect (buf : List UInt8) (elapsed : Nat) (acc : List Piece) :
    ∃ xs, foldFrames (fun elapsed msglen pieces => (pieces ++ [framePiece buf elapsed msglen], true))
        elapsed (msgDecoder.cuts (buf.drop elapsed)) acc =
      (acc ++ xs, elapsed + (msgDecoder.cuts (buf.drop elapsed)).sum, true) ∧
      ServerPieces xs (msgDecoder.split (buf.drop elapsed)).1 ∧
      buf.drop (elapsed + (msgDecoder.cuts (buf.drop elapsed)).sum) =
        (msgDecoder.split (buf.drop elapsed)).2 := by
  generalize hrest : buf.drop elapsed = rest
  induction rest using Decoder.cuts_induction (d := msgDecoder) generalizing elapsed acc with
  | none rest hnext =>
    rw [Decoder.cuts_of_none hnext, Decoder.split_of_none hnext]
    refine ⟨[], by rw [foldFrames, List.append_nil]; rfl, ⟨rfl, by simp, by simp⟩, hrest⟩
  | some rest n hnext ih =>
    have hle := msgDecoder.next_le hnext
    subst hrest
    obtain ⟨xs, hfold, hxs, hdrop⟩ := ih (elapsed + n) (acc ++ [framePiece buf elapsed n])
      (List.drop_drop).symm
    rw [Decoder.cuts_of_some hnext, Decoder.split_of_some hnext, foldFrames]
    dsimp only
    rw [hfold, List.sum_cons, ← Nat.add_assoc]
    refine ⟨framePiece buf elapsed n :: xs, by rw [List.append_assoc]; rfl, ?_, hdrop⟩
    exact (serverPieces_one buf hle).append hxs

/-- One piece of the stream. -/
theorem serverFeed_eq (recvBuff : RapBuffer) {st st' : List Piece × List UInt8}
    {chunk : List UInt8} (h : serverFeed recvBuff st chunk = some st') :
    (st.2 ++ chunk).length ≤ recvBuff.size ∧ ∃ xs, st'.1 = st.1 ++ xs ∧
      ServerPieces xs (msgDecoder.split (st.2 ++ chunk)).1 ∧
      st'.2 = (msgDecoder.split (st.2 ++ chunk)).2 := by
  rw [serverFeed] at h
  split_ifs at h with hfit
  obtain ⟨xs, hfold, hxs, hdrop⟩ := foldFrames_collect (st.2 ++ chunk) 0 st.1
  have hloop := frameLoop_eq
    (fun elapsed msglen pieces => (pieces ++ [framePiece (st.2 ++ chunk) elapsed msglen], true))
    (st.2 ++ chunk) (show (st.2 ++ chunk).length - 0 < (st.2 ++ chunk).length + 1 by omega) st.1
  rw [hfold] at hloop
  rw [hloop, Option.map_some] at h
  cases h
  rw [List.drop_zero] at hxs hdrop
  exact ⟨hfit, xs, rfl, hxs, hdrop⟩

/-- However it arrives, the server cuts the stream as its decoder does. -/
theorem serverSplit_eq (recvBuff : RapBuffer) {chunks : List (List UInt8)}
    {s : List Piece × List UInt8} (h : serverSplit recvBuff chunks = some s) :
    ServerPieces s.1 (msgDecoder.split chunks.flatten).1 ∧
      s.2 = (msgDecoder.split chunks.flatten).2 := by
  have hall : ∀ (buf : List UInt8) (st : List Piece × List UInt8),
      ServerPieces st.1 (msgDecoder.split buf).1 → st.2 = (msgDecoder.split buf).2 →
      chunks.foldlM (serverFeed recvBuff) st = some s →
      ServerPieces s.1 (msgDecoder.split (buf ++ chunks.flatten)).1 ∧
        s.2 = (msgDecoder.split (buf ++ chunks.flatten)).2 := by
    clear h
    induction chunks with
    | nil =>
      intro buf st hst hrest hrun
      cases hrun
      rw [List.flatten_nil, List.append_nil]
      exact ⟨hst, hrest⟩
    | cons chunk chunks ih =>
      intro buf st hst hrest hrun
      rw [List.foldlM_cons] at hrun
      obtain ⟨st', hone, hrun⟩ := Option.bind_eq_some_iff.mp hrun
      obtain ⟨_, xs, hxs, hpieces, hrest'⟩ := serverFeed_eq recvBuff hone
      have hsplit := Decoder.split_append stable_msgDecoder buf chunk
      rw [← hrest] at hsplit
      rw [List.flatten_cons, ← List.append_assoc]
      apply ih (buf ++ chunk) st'
      · rw [hsplit, hxs]
        exact hst.append hpieces
      · rw [hsplit, hrest']
      · exact hrun
  have hnil : msgDecoder.split [] = ([], []) := Decoder.split_of_none Decoder.next_nil
  have hrun := hall [] ([], []) (by rw [hnil]; exact ⟨rfl, by simp, by simp⟩) (by rw [hnil]) h
  rwa [List.nil_append] at hrun

/-! ## What the client takes -/

/-- A connected socket of a client. -/
structure Receiving (buffSize : Nat) (t : TcpSocketUtil) : Prop where
  state : t.socketState = .netConnected
  parser : t.tcpPkgParserImp = some getPkgLen
  ok : t.recvBuf.Ok
  size : t.recvBuf.buffSize = buffSize

variable {buffSize : Nat} {t : TcpSocketUtil}

theorem takePkg_none (h : Receiving buffSize t) (hnext : pkgDecoder.next t.recvBuf.content = none) :
    takePkg t = none := by
  rw [takePkg, hasNewPkg_eq h.parser h.ok, hnext]
  rfl

theorem takePkg_some (h : Receiving buffSize t) {n : Nat}
    (hnext : pkgDecoder.next t.recvBuf.content = some n) :
    takePkg t = some (⟨t.recvBuf.content.take n, n - 4,
        ((t.recvBuf.content.take n).drop 4).take (n - 4)⟩,
      { t with recvBuf := t.recvBuf.skip n }) := by
  have hlength : (t.recvBuf.content.take n).length = n :=
    List.length_take_of_le (pkgDecoder.next_le hnext)
  have hsize : ((n : Int) - (4 : Nat)).toNat = n - 4 := by omega
  rw [takePkg, hasNewPkg_eq h.parser h.ok, hnext]
  dsimp only [Option.isSome_some]
  rw [peekFromRecvQ_eq h.parser h.ok, hnext]
  dsimp only [Option.map_some]
  rw [popFromRecvQ_some h.parser h.ok hnext, hlength, kMsgLenFieldSize, hsize]
  rfl

/-- The payload of a package with a payload. -/
theorem Piece.ofFrame_eq {f : List UInt8} :
    (⟨f, (f.length : Int) - 4, (f.drop 4).take (f.length - 4)⟩ : Piece) = .ofFrame f := by
  rw [ofFrame, List.take_of_length_le (by rw [List.length_drop])]

theorem takePkgs_eq {fuel : Nat} (h : Receiving buffSize t)
    (hfuel : t.recvBuf.content.length < fuel) :
    ∃ t', takePkgs fuel t = some ((pkgDecoder.split t.recvBuf.content).1.map .ofFrame, t') ∧
      Receiving buffSize t' ∧ t'.recvBuf.content = (pkgDecoder.split t.recvBuf.content).2 ∧
      t'.recvBuf.end_ = t.recvBuf.end_ := by
  induction fuel generalizing t with
  | zero => omega
  | succ fuel ih =>
    rw [takePkgs]
    cases hnext : pkgDecoder.next t.recvBuf.content with
    | none =>
      rw [takePkg_none h hnext, Decoder.split_of_none hnext]
      exact ⟨t, rfl, h, rfl, rfl⟩
    | some n =>
      have hle := pkgDecoder.next_le hnext
      have hpos := pkgDecoder.next_pos hnext
      have hcontent : (t.recvBuf.skip n).content = t.recvBuf.content.drop n :=
        RingBuffer.content_skip _ _
      have hskip : Receiving buffSize { t with recvBuf := t.recvBuf.skip n } :=
        ⟨h.state, h.parser, h.ok.skip hle, h.size⟩
      have hlength : (t.recvBuf.content.take n).length = n := List.length_take_of_le hle
      obtain ⟨t', hrest, ht', hleft, hend⟩ := ih hskip (by
        rw [hcontent, List.length_drop]
        omega)
      rw [hcontent] at hrest hleft
      rw [takePkg_some h hnext, Decoder.split_of_some hnext]
      dsimp only
      rw [hrest, Option.map_some, List.map_cons, ← Piece.ofFrame_eq, hlength]
      exact ⟨t', rfl, ht', hleft, hend⟩

/-- One piece of the stream. -/
theorem clientFeed_eq {xs : List Piece} (h : Receiving buffSize t) {chunk : List UInt8}
    {st : List Piece × TcpSocketUtil} (hfeed : clientFeed (xs, t) chunk = some st) :
    st.1 = xs ++ (pkgDecoder.split (t.recvBuf.content ++ chunk)).1.map .ofFrame ∧
      Receiving buffSize st.2 ∧
      st.2.recvBuf.content = (pkgDecoder.split (t.recvBuf.content ++ chunk)).2 ∧
      st.2.recvBuf.end_ ≤ t.recvBuf.end_ + chunk.length := by
  rw [clientFeed] at hfeed
  split_ifs at hfeed with hroom
  obtain ⟨b, hsock, hok, hsize, hcontent, hend⟩ := recv_arrived h.state h.ok hroom
  have hrecv : Receiving buffSize { t with recvBuf := b } :=
    ⟨h.state, h.parser, hok, hsize.trans h.size⟩
  rw [hsock] at hfeed
  dsimp only at hfeed
  obtain ⟨t', htake, ht', hleft, hsame⟩ := takePkgs_eq hrecv (Nat.lt_add_one b.content.length)
  rw [htake, Option.map_some] at hfeed
  cases hfeed
  rw [← hcontent]
  exact ⟨rfl, ht', hleft, hsame.trans_le hend⟩

theorem receiving_start (hsize : buffSize < 2 ^ 31) (fd : Nat) :
    Receiving buffSize (RecvQueue.start buffSize fd []).sock :=
  have hstart := RecvQueue.inv_start hsize fd []
  ⟨hstart.state, hstart.parser, hstart.ok, hstart.size⟩

/-- However it arrives, a client cuts the stream as its decoder does. -/
theorem clientSplit_eq (hsize : buffSize < 2 ^ 31) {fd : Nat} {chunks : List (List UInt8)}
    {c : List Piece × List UInt8} (h : clientSplit buffSize fd chunks = some c) :
    c.1 = (pkgDecoder.split chunks.flatten).1.map .ofFrame ∧
      c.2 = (pkgDecoder.split chunks.flatten).2 ∧ c.2.length < 2 ^ 31 := by
  obtain ⟨st, hrun, rfl⟩ := Option.map_eq_some_iff.mp h
  have hall : ∀ (buf : List UInt8) (xs : List Piece) (t : TcpSocketUtil), Receiving buffSize t →
      xs = (pkgDecoder.split buf).1.map .ofFrame →
      t.recvBuf.content = (pkgDecoder.split buf).2 →
      chunks.foldlM clientFeed (xs, t) = some st →
      st.1 = (pkgDecoder.split (buf ++ chunks.flatten)).1.map .ofFrame ∧
        Receiving buffSize st.2 ∧
        st.2.recvBuf.content = (pkgDecoder.split (buf ++ chunks.flatten)).2 := by
    clear h hrun
    induction chunks with
    | nil =>
      intro buf xs t ht hxs hcontent hrun
      cases hrun
      rw [List.flatten_nil, List.append_nil]
      exact ⟨hxs, ht, hcontent⟩
    | cons chunk chunks ih =>
      intro buf xs t ht hxs hcontent hrun
      rw [List.foldlM_cons] at hrun
      obtain ⟨⟨ys, t'⟩, hone, hrun⟩ := Option.bind_eq_some_iff.mp hrun
      obtain ⟨hys, ht', hcontent', _⟩ := clientFeed_eq ht hone
      dsimp only at hys
      have hsplit := Decoder.split_append stable_pkgDecoder buf chunk
      rw [← hcontent] at hsplit
      rw [List.flatten_cons, ← List.append_assoc]
      apply ih (buf ++ chunk) ys t' ht' _ _ hrun
      · rw [hsplit, hys, List.map_append, hxs]
      · rw [hsplit, hcontent']
  have hnil : pkgDecoder.split [] = ([], []) := Decoder.split_of_none Decoder.next_nil
  have hempty : (RecvQueue.start buffSize fd []).sock.recvBuf.content = [] := by
    rw [RecvQueue.sock_start]
    rfl
  have hrun := hall [] [] _ (receiving_start hsize fd) (by rw [hnil]; rfl) (by rw [hnil, hempty])
    hrun
  rw [List.nil_append] at hrun
  obtain ⟨hpieces, ht, hcontent⟩ := hrun
  refine ⟨hpieces, hcontent, ?_⟩
  have hend := ht.ok.end_le
  have hlength : st.2.recvBuf.content.length = st.2.recvBuf.end_ - st.2.recvBuf.begin :=
    List.length_drop
  have hlimit := ht.size
  dsimp only
  omega

/-! ## Whether they agree -/

/-- Bytes that mislead: the server takes the header for a frame of at most four bytes. -/
theorem Misleads.msg_next {buf : List UInt8} (h : Misleads buf) :
    msgDecoder.next buf = some (Bytes.readBe32 buf) := by
  obtain ⟨hfour, hpos, hvalue⟩ := h
  apply next_eq_some.mpr
  refine ⟨?_, hpos, by omega⟩
  rw [getMsgLength, if_neg (by omega), CInt.int32_of_range (by omega) (by omega),
    CInt.uint64_natCast (by omega)]

/-- Two decoders that agree on a stream were not misled by it. -/
theorem SplitAlike.wellHeaded {stream : List UInt8} {c s : List Piece × List UInt8}
    (h : SplitAlike c s) (hclient : c.2 = (pkgDecoder.split stream).2)
    (hserver : ServerPieces s.1 (msgDecoder.split stream).1)
    (hrest : s.2 = (msgDecoder.split stream).2) : WellHeaded stream := by
  intro ws t hstream hws hbad
  have hnext := hbad.msg_next
  obtain ⟨hfour, hpos, hvalue⟩ := hbad
  have ht : t ≠ [] := by
    rintro rfl
    simp at hfour
  have hpkg : pkgDecoder.split stream = (ws ++ (pkgDecoder.split t).1, (pkgDecoder.split t).2) := by
    rw [hstream]
    exact Decoder.split_frames (fun w hw u hu => (hws w hw).pkg_next hu) ht
  have hmsg : msgDecoder.split stream = (ws ++ (msgDecoder.split t).1, (msgDecoder.split t).2) := by
    rw [hstream]
    exact Decoder.split_frames (fun w hw u hu => msg_of_pkg ((hws w hw).pkg_next hu)) ht
  rw [Decoder.split_of_some hnext] at hmsg
  rcases hvalue with hshort | ⟨hvalue, hlength⟩
  · -- the server computes a payload size below zero
    have hmem : t.take (Bytes.readBe32 t) ∈ s.1.map Piece.frame := by
      rw [hserver.frames, hmsg]
      simp
    obtain ⟨x, hx, hframe⟩ := List.mem_map.mp hmem
    have hlen : x.frame.length = Bytes.readBe32 t := by
      rw [hframe]
      exact List.length_take_of_le (by omega)
    have hsize := (h.sizes x (List.mem_append_right _ hx)).2
    have hneg : 2 ^ 63 ≤ payloadSize (Bytes.readBe32 t) :=
      CInt.uint64_of_neg (by omega) (by omega)
    rw [hserver.size x hx, hlen] at hsize
    omega
  · -- the client waits for more
    have hnone : pkgDecoder.next t = none := by
      cases hp : pkgDecoder.next t with
      | none => rfl
      | some n =>
        obtain ⟨hmore, _⟩ := pkg_next_eq_some.mp hp
        omega
    have hleft := h.rest
    rw [hclient, hrest, hpkg, hmsg, Decoder.split_of_none hnone, hvalue] at hleft
    have hle := Decoder.length_rest_le (d := msgDecoder) (t.drop 4)
    rw [List.length_drop] at hle
    have hlengths := congrArg List.length hleft
    dsimp only at hlengths
    omega

/-- The pieces of the server, where all frames cover their headers. -/
theorem ServerPieces.eq_map {pieces : List Piece} {frames : List (List UInt8)}
    (h : ServerPieces pieces frames) (hframes : ∀ f ∈ frames, 4 ≤ f.length ∧ f.length < 2 ^ 63) :
    pieces = frames.map .ofFrame := by
  have hpiece : ∀ x ∈ pieces, x = .ofFrame x.frame := by
    intro x hx
    obtain ⟨hfour, hlt⟩ := hframes x.frame (by
      rw [← h.frames]
      exact List.mem_map_of_mem hx)
    have hsize := h.size x hx
    have hpayload := h.payload x hx hfour hlt
    rw [payloadSize_of_le hfour hlt] at hsize
    rcases x with ⟨frame, size, payload⟩
    dsimp only at hsize hpayload hfour
    rw [Piece.ofFrame, hsize, hpayload, Nat.cast_sub hfour]
    rfl
  calc pieces = pieces.map id := (List.map_id pieces).symm
    _ = pieces.map fun x => .ofFrame x.frame := List.map_congr_left hpiece
    _ = frames.map .ofFrame := by rw [← h.frames, List.map_map]; rfl

/-! ## Buffers that are large enough -/

theorem serverFeed_isSome {recvBuff : RapBuffer} {st : List Piece × List UInt8}
    {chunk : List UInt8} (hroom : (st.2 ++ chunk).length ≤ recvBuff.size) :
    ∃ st', serverFeed recvBuff st chunk = some st' ∧ st'.2.length ≤ (st.2 ++ chunk).length := by
  have hloop := frameLoop_eq
    (fun elapsed msglen pieces => (pieces ++ [framePiece (st.2 ++ chunk) elapsed msglen], true))
    (st.2 ++ chunk) (show (st.2 ++ chunk).length - 0 < (st.2 ++ chunk).length + 1 by omega) st.1
  rw [serverFeed, if_pos hroom, hloop, Option.map_some]
  refine ⟨_, rfl, ?_⟩
  rw [List.length_drop]
  exact Nat.sub_le _ _

/-- A server whose receive buffer has room for the stream takes every chunk of it. -/
theorem serverSplit_isSome {recvBuff : RapBuffer} {chunks : List (List UInt8)}
    (hroom : chunks.flatten.length ≤ recvBuff.size) : (serverSplit recvBuff chunks).isSome := by
  have hall : ∀ st : List Piece × List UInt8, st.2.length + chunks.flatten.length ≤ recvBuff.size →
      (chunks.foldlM (serverFeed recvBuff) st).isSome := by
    clear hroom
    induction chunks with
    | nil => exact fun _ _ => rfl
    | cons chunk chunks ih =>
      intro st hst
      rw [List.flatten_cons, List.length_append] at hst
      have hchunk : (st.2 ++ chunk).length ≤ recvBuff.size := by
        rw [List.length_append]
        omega
      obtain ⟨st', hone, hle⟩ := serverFeed_isSome hchunk
      rw [List.length_append] at hle
      rw [List.foldlM_cons, hone]
      exact ih st' (by omega)
  exact hall ([], []) (by rw [List.length_nil, Nat.zero_add]; exact hroom)

/-- A client whose receive queue has room for the stream takes every chunk of it. -/
theorem clientSplit_isSome (hsize : buffSize < 2 ^ 31) (fd : Nat) {chunks : List (List UInt8)}
    (hroom : chunks.flatten.length ≤ buffSize) : (clientSplit buffSize fd chunks).isSome := by
  have hall : ∀ (xs : List Piece) (t : TcpSocketUtil), Receiving buffSize t →
      t.recvBuf.end_ + chunks.flatten.length ≤ buffSize →
      (chunks.foldlM clientFeed (xs, t)).isSome := by
    clear hroom
    induction chunks with
    | nil => exact fun _ _ _ _ => rfl
    | cons chunk chunks ih =>
      intro xs t ht hend
      rw [List.flatten_cons, List.length_append] at hend
      have hoffered : chunk.length ≤ offered t :=
        le_offered ht.state ht.ok (by rw [ht.size]; omega)
      obtain ⟨⟨ys, t'⟩, hone⟩ : ∃ st, clientFeed (xs, t) chunk = some st := by
        obtain ⟨b, hsock, hok, hbuf, _⟩ := recv_arrived ht.state ht.ok hoffered
        have hrecv : Receiving buffSize { t with recvBuf := b } :=
          ⟨ht.state, ht.parser, hok, hbuf.trans ht.size⟩
        obtain ⟨t', htake, _⟩ := takePkgs_eq hrecv (Nat.lt_add_one b.content.length)
        rw [clientFeed, if_pos hoffered, hsock]
        dsimp only
        rw [htake]
        exact ⟨_, rfl⟩
      obtain ⟨_, ht', _, hend'⟩ := clientFeed_eq ht hone
      rw [List.foldlM_cons, hone]
      dsimp only at ht' hend'
      exact ih ys t' ht' (by omega)
  have hempty : (RecvQueue.start buffSize fd []).sock.recvBuf.end_ = 0 := by
    rw [RecvQueue.sock_start]
    rfl
  rw [clientSplit, Option.isSome_map]
  exact hall [] _ (receiving_start hsize fd) (by rw [hempty, Nat.zero_add]; exact hroom)

/-- However one stream arrives at a client and at the server, with buffers that are large enough,
they cut it alike exactly when no frame in it announces a length of 1, 2 or 3, and it does not
end behind a header that announces a length of 4. -/
theorem splitAlike_iff {recvBuff : RapBuffer} {fd : Nat} (hsize : buffSize < 2 ^ 31)
    {atClient atServer : List (List UInt8)} (hsame : atClient.flatten = atServer.flatten)
    {c s : List Piece × List UInt8} (hclient : clientSplit buffSize fd atClient = some c)
    (hserver : serverSplit recvBuff atServer = some s) :
    SplitAlike c s ↔ WellHeaded atClient.flatten := by
  obtain ⟨hpieces, hrest, hleft⟩ := clientSplit_eq hsize hclient
  obtain ⟨hframes, hrest'⟩ := serverSplit_eq recvBuff hserver
  rw [← hsame] at hframes hrest'
  constructor
  · intro h
    exact h.wellHeaded hrest hframes hrest'
  · intro h
    obtain ⟨heq, hlengths⟩ := split_eq h (by rw [← hrest]; omega)
    rw [heq] at hframes hrest'
    have hpieces' := hframes.eq_map hlengths
    refine ⟨hpieces.trans hpieces'.symm, hrest.trans hrest'.symm, ?_⟩
    rw [hpieces, hpieces']
    intro x hx
    have hmem : x ∈ (pkgDecoder.split atClient.flatten).1.map Piece.ofFrame := by
      rcases List.mem_append.mp hx with hx | hx <;> exact hx
    obtain ⟨f, hf, rfl⟩ := List.mem_map.mp hmem
    have hfour := (hlengths f hf).1
    rw [Piece.ofFrame]
    dsimp only
    omega

/-- Two frames and a piece of a third, cut in different ways. -/
theorem splitAlike_twoFrames :
    ∃ c s, clientSplit 64 4 [[0, 0, 0], [6, 7, 8, 0, 0, 0, 5, 9, 0], [0]] = some c ∧
      serverSplit .small [[0, 0, 0, 6, 7, 8, 0], [0, 0, 5, 9, 0, 0]] = some s ∧
      (SplitAlike c s ↔ WellHeaded [0, 0, 0, 6, 7, 8, 0, 0, 0, 5, 9, 0, 0]) := by
  have hclient : clientSplit 64 4 [[0, 0, 0], [6, 7, 8, 0, 0, 0, 5, 9, 0], [0]] =
      some ([.ofFrame [0, 0, 0, 6, 7, 8], .ofFrame [0, 0, 0, 5, 9]], [0, 0]) := by decide +kernel
  have hserver : serverSplit .small [[0, 0, 0, 6, 7, 8, 0], [0, 0, 5, 9, 0, 0]] =
      some ([.ofFrame [0, 0, 0, 6, 7, 8], .ofFrame [0, 0, 0, 5, 9]], [0, 0]) := by decide +kernel
  exact ⟨_, _, hclient, hserver, splitAlike_iff (by decide) (by rfl) hclient hserver⟩

/-- A header of length 4 at the end of the stream: the client waits for more, the server hands out
an empty payload. -/
theorem split_differently :
    ¬ ∀ (buffSize fd : Nat) (recvBuff : RapBuffer) (atClient atServer : List (List UInt8)) c s,
      buffSize < 2 ^ 31 → atClient.flatten = atServer.flatten →
      clientSplit buffSize fd atClient = some c → serverSplit recvBuff atServer = some s →
      SplitAlike c s := by
  intro h
  have hclient : clientSplit 64 4 [[0, 0, 0, 4]] = some ([], [0, 0, 0, 4]) := by decide +kernel
  have hserver : serverSplit .small [[0, 0, 0, 4]] = some ([.ofFrame [0, 0, 0, 4]], []) := by
    decide +kernel
  have hrest := (h 64 4 .small _ _ _ _ (by decide) rfl hclient hserver).rest
  exact absurd hrest (by decide)

end Rapidapp.Connector
