import Mathlib.Data.List.TakeWhile
import Rapidapp.Connector.RecvQueue
import Rapidapp.Connector.Wire

/-!
# Frames that are no data in the receive queue of a client

`PopMessageFromRecvQ` (`connector_client_api_imp.cpp:682-720`) over `PeekMessage` and `PopMessage`
(`connector_client_api_imp.cpp:510-575`). `PeekMessage` refuses a frame that is not
`DATA_TRANSPARENT` and nobody pops it, so it stays at the head of the queue; and it does not look
at what `ParseFromArray` returns, so a frame that does not parse counts by what is left of it.
-/

namespace Rapidapp.Connector

open TSocketUtil

/-- The part of the list in front of the first element without `p` is all there is with `q`. -/
theorem takeWhile_eq_filter_iff {α : Type*} (p q : α → Bool) (xs : List α) :
    xs.takeWhile p = xs.filter q ↔
      (∀ x ∈ xs.takeWhile p, q x = true) ∧ ∀ x ∈ xs.dropWhile p, q x = false := by
  have hsplit : xs.filter q = (xs.takeWhile p).filter q ++ (xs.dropWhile p).filter q := by
    rw [← List.filter_append, List.takeWhile_append_dropWhile]
  rw [hsplit]
  constructor
  · intro heq
    have hall : ∀ x ∈ xs.takeWhile p, q x = true := by
      intro x hx
      rw [heq, List.mem_append] at hx
      rcases hx with hx | hx
      · exact (List.mem_filter.mp hx).2
      · exact (List.mem_filter.mp hx).2
    refine ⟨hall, fun x hx => ?_⟩
    rw [List.filter_eq_self.mpr hall] at heq
    have hnil := List.self_eq_append_right.mp heq
    simpa using List.filter_eq_nil_iff.mp hnil x hx
  · rintro ⟨hall, hnone⟩
    have hnil : (xs.dropWhile p).filter q = [] :=
      List.filter_eq_nil_iff.mpr fun x hx => by simp [hnone x hx]
    rw [List.filter_eq_self.mpr hall, hnil, List.append_nil]

namespace Client

variable (pb : Protobuf)

/-- `ConnectorClientProtocolThreadImp::PopMessageFromRecvQ`, for a buffer of `bufLen` bytes: the
return value, what it copies into the buffer, and the object. -/
def popMessageFromRecvQ (bufLen : Nat) (k : Client) : Int × List UInt8 × Client :=
  if bufLen = 0 then (-1, [], k)
  else
    match k.peekMessage pb with
    | (ret, data, k) =>
      if ret ≠ 0 then (-1, [], k)
      else if bufLen < CInt.uint64 (CInt.int32 (data.length : Int)) then (-1, [], k)
      else
        match k.popMessage with
        | (ret, k) => (ret, data, k)

/-- The bytes that a call has taken from the queue. -/
def taken (k k' : Client) : List UInt8 :=
  k.tcpSock.recvBuf.content.take
    (k.tcpSock.recvBuf.content.length - k'.tcpSock.recvBuf.content.length)

/-- `n` calls one after the other: the frame each one that succeeded has taken from the queue, and
what it has copied. -/
def popAll (bufLen : Nat) : Nat → Client → List (List UInt8 × List UInt8)
  | 0, _ => []
  | n + 1, k =>
    let r := k.popMessageFromRecvQ pb bufLen
    (if r.1 = 0 then [(taken k r.2.2, r.2.1)] else []) ++ popAll bufLen n r.2.2

/-! ## Frames -/

/-- What `ParseFromArray` leaves of the frame has the `bodyid` of a data frame. -/
def looksLikeData (f : List UInt8) : Bool :=
  (parsePkg pb f).head.bodyid = CSBodyCmdId.dataTransparent.value

/-- The data of the frame. -/
def payload (f : List UInt8) : List UInt8 := (parsePkg pb f).body.data.getD []

/-- A `DATA_TRANSPARENT` frame; `parses` is what `ParseFromArray` returns. -/
def isData (parses : List UInt8 → Bool) (f : List UInt8) : Bool :=
  parses (f.drop kMsgLenFieldSize) && looksLikeData pb f

/-- The receive queue holds these frames, each with a header that gives its length. -/
structure Holding (fs : List (List UInt8)) (k : Client) : Prop where
  parser : k.tcpSock.tcpPkgParserImp = some getPkgLen
  ok : k.tcpSock.recvBuf.Ok
  content : k.tcpSock.recvBuf.content = fs.flatten
  header : ∀ f ∈ fs, 4 ≤ f.length ∧ Bytes.readBe32 f = f.length

/-- A buffer that is large enough for the data of the frame, the length of which is an `int`. -/
structure Enough (bufLen : Nat) (f : List UInt8) : Prop where
  fits : (payload pb f).length ≤ bufLen
  int : (payload pb f).length < 2 ^ 31

variable {pb} {bufLen : Nat} {k : Client} {f : List UInt8} {fs : List (List UInt8)}

/-! ## One call -/

theorem length_content_le {b : RingBuffer} (h : b.Ok) : b.content.length ≤ b.buffSize := by
  have hend := h.end_le
  have hlen : b.content.length = b.end_ - b.begin := List.length_drop
  omega

/-- The frame at the head of the queue is found, unless it is a mere header and the last. -/
theorem Holding.next (h : Holding (f :: fs) k) :
    pkgDecoder.next k.tcpSock.recvBuf.content = some f.length ∨
      f.length = 4 ∧ pkgDecoder.next k.tcpSock.recvBuf.content = none := by
  obtain ⟨hfour, hheader⟩ := h.header f List.mem_cons_self
  have hbuf := length_content_le h.ok
  have hsize := h.ok.size_lt
  have hlen : k.tcpSock.recvBuf.content.length = f.length + fs.flatten.length := by
    rw [h.content, List.flatten_cons, List.length_append]
  have hread : Bytes.readBe32 k.tcpSock.recvBuf.content = f.length := by
    rw [h.content, List.flatten_cons,
      ← Bytes.readBe32_prefix (List.prefix_append f fs.flatten) hfour, hheader]
  have hint : CInt.int32 (f.length : Int) = f.length :=
    CInt.int32_of_range (by omega) (by omega)
  simp only [pkgDecoder, getPkgLen, kMsgLenFieldSize, hread, hint]
  by_cases hshort : k.tcpSock.recvBuf.content.length ≤ 4
  · right
    refine ⟨by omega, ?_⟩
    simp [hshort]
  · left
    rw [if_neg hshort, if_pos (by omega)]
    simp

theorem Holding.take_head (h : Holding (f :: fs) k) :
    k.tcpSock.recvBuf.content.take f.length = f := by
  rw [h.content, List.flatten_cons, List.take_left]

/-- `PeekMessage` on a frame at the head of the queue that looks like data. -/
theorem peekMessage_data (h : Holding (f :: fs) k)
    (hnext : pkgDecoder.next k.tcpSock.recvBuf.content = some f.length)
    (hdata : looksLikeData pb f = true) :
    k.peekMessage pb = (0, payload pb f, { k with downMsg := parsePkg pb f }) := by
  have hbodyid : (parsePkg pb f).head.bodyid = CSBodyCmdId.dataTransparent.value := by
    simpa [looksLikeData] using hdata
  unfold peekMessage
  rw [hasNewPkg_eq h.parser h.ok, hnext]
  dsimp only [Option.isSome]
  rw [peekFromRecvQ_eq h.parser h.ok, hnext]
  simp only [Option.map_some, Option.getD_some, h.take_head]
  rw [if_neg (by simp [normal]), if_neg (not_not.mpr hbodyid)]
  rfl

/-- On any other frame it fails. -/
theorem peekMessage_other (h : Holding (f :: fs) k)
    (hnext : pkgDecoder.next k.tcpSock.recvBuf.content = some f.length)
    (hdata : looksLikeData pb f = false) :
    k.peekMessage pb = (-1, [], { k with downMsg := parsePkg pb f }) := by
  have hbodyid : (parsePkg pb f).head.bodyid ≠ CSBodyCmdId.dataTransparent.value := by
    simpa [looksLikeData] using hdata
  unfold peekMessage
  rw [hasNewPkg_eq h.parser h.ok, hnext]
  dsimp only [Option.isSome]
  rw [peekFromRecvQ_eq h.parser h.ok, hnext]
  simp only [Option.map_some, Option.getD_some, h.take_head]
  rw [if_neg (by simp [normal]), if_pos hbodyid]

/-- A frame that looks like data is copied and taken from the queue. -/
theorem pop_data (h : Holding (f :: fs) k)
    (hnext : pkgDecoder.next k.tcpSock.recvBuf.content = some f.length)
    (hdata : looksLikeData pb f = true) (hpos : 0 < bufLen) (henough : Enough pb bufLen f) :
    ∃ k', k.popMessageFromRecvQ pb bufLen = (0, payload pb f, k') ∧ Holding fs k' ∧
      taken k k' = f := by
  have hint : CInt.uint64 (CInt.int32 ((payload pb f).length : Int)) = (payload pb f).length := by
    have hlt := henough.int
    exact CInt.uint64_int32 (by omega)
  have hfits : ¬ bufLen < CInt.uint64 (CInt.int32 ((payload pb f).length : Int)) := by
    rw [hint]
    exact not_lt.mpr henough.fits
  have hbodyid : (parsePkg pb f).head.bodyid = CSBodyCmdId.dataTransparent.value := by
    simpa [looksLikeData] using hdata
  have hcontent := h.content
  have hlen : f.length ≤ k.tcpSock.recvBuf.content.length := by
    rw [hcontent, List.flatten_cons, List.length_append]
    exact Nat.le_add_right _ _
  have hdrop : k.tcpSock.recvBuf.content.drop f.length = fs.flatten := by
    rw [hcontent, List.flatten_cons, List.drop_left]
  refine ⟨{ k with
    downMsg := parsePkg pb f
    tcpSock := { k.tcpSock with recvBuf := k.tcpSock.recvBuf.skip f.length } }, ?_, ?_, ?_⟩
  · unfold popMessageFromRecvQ
    rw [if_neg (Nat.ne_of_gt hpos), peekMessage_data h hnext hdata]
    dsimp only
    rw [if_neg (by decide), if_neg hfits, popMessage, popFromRecvQ_some h.parser h.ok hnext]
    dsimp only
    rw [if_neg (by decide), if_neg (not_not.mpr hbodyid)]
  · refine ⟨h.parser, h.ok.skip hlen, ?_, fun g hg => h.header g (List.mem_cons_of_mem f hg)⟩
    dsimp only
    rw [RingBuffer.content_skip, hdrop]
  · unfold taken
    dsimp only
    rw [RingBuffer.content_skip, List.length_drop]
    have hsub : k.tcpSock.recvBuf.content.length -
        (k.tcpSock.recvBuf.content.length - f.length) = f.length := by omega
    rw [hsub, h.take_head]

/-- Without a whole package `PeekMessage` changes nothing. -/
theorem pop_none (hparser : k.tcpSock.tcpPkgParserImp = some getPkgLen)
    (hok : k.tcpSock.recvBuf.Ok) (hnext : pkgDecoder.next k.tcpSock.recvBuf.content = none) :
    k.popMessageFromRecvQ pb bufLen = (-1, [], k) := by
  unfold popMessageFromRecvQ
  split_ifs
  · rfl
  · unfold peekMessage
    rw [hasNewPkg_eq hparser hok, hnext]
    dsimp only [Option.isSome]
    rw [if_pos (by decide)]

variable (bufLen) in
/-- A frame that does not look like data makes the call fail and stays where it is. -/
theorem pop_stuck (h : Holding (f :: fs) k) (hdata : looksLikeData pb f = false) :
    ∃ k', k.popMessageFromRecvQ pb bufLen = (-1, [], k') ∧ Holding (f :: fs) k' := by
  rcases h.next with hnext | ⟨-, hnext⟩
  · unfold popMessageFromRecvQ
    split_ifs
    · exact ⟨k, rfl, h⟩
    · refine ⟨{ k with downMsg := parsePkg pb f }, ?_, h.parser, h.ok, h.content, h.header⟩
      rw [peekMessage_other h hnext hdata]
      dsimp only
      rw [if_pos (by decide)]
  · exact ⟨k, pop_none h.parser h.ok hnext, h⟩

/-! ## Any number of calls -/

/-- A mere header does not look like data: `ParseFromArray` of no bytes leaves the defaults. -/
theorem not_looksLikeData_header
    (hempty : (pb.parseCSMsg [] 0).head.bodyid ≠ CSBodyCmdId.dataTransparent.value)
    (hlen : f.length = 4) : looksLikeData pb f = false := by
  have hparse : parsePkg pb f = pb.parseCSMsg [] 0 := by
    rw [parsePkg, List.drop_eq_nil_of_le (by rw [hlen, kMsgLenFieldSize]), hlen]
    rfl
  simpa [looksLikeData, hparse] using hempty

/-- The calls hand out the frames in front of the first one that does not look like data. -/
theorem popAll_eq
    (hempty : (pb.parseCSMsg [] 0).head.bodyid ≠ CSBodyCmdId.dataTransparent.value)
    (hpos : 0 < bufLen) (n : Nat) (h : Holding fs k)
    (henough : ∀ f ∈ fs, looksLikeData pb f = true → Enough pb bufLen f) :
    popAll pb bufLen n k =
      ((fs.takeWhile (looksLikeData pb)).take n).map fun f => (f, payload pb f) := by
  induction n generalizing fs k with
  | zero => simp [popAll]
  | succ n ih =>
    cases fs with
    | nil =>
      have hnext : pkgDecoder.next k.tcpSock.recvBuf.content = none := by
        rw [h.content]
        exact pkgDecoder.next_nil
      simp only [popAll, pop_none h.parser h.ok hnext, ih h henough]
      simp
    | cons f fs =>
      cases hdata : looksLikeData pb f with
      | false =>
        obtain ⟨k', hpop, hk'⟩ := pop_stuck bufLen h hdata
        simp only [popAll, hpop, ih hk' henough, List.takeWhile_cons, hdata]
        simp
      | true =>
        have hnext : pkgDecoder.next k.tcpSock.recvBuf.content = some f.length := by
          rcases h.next with hnext | ⟨hfour, -⟩
          · exact hnext
          · rw [not_looksLikeData_header hempty hfour] at hdata
            cases hdata
        obtain ⟨k', hpop, hk', htaken⟩ :=
          pop_data h hnext hdata hpos (henough f List.mem_cons_self hdata)
        have hrest := ih hk' fun g hg => henough g (List.mem_cons_of_mem f hg)
        simp only [popAll, hpop, htaken, hrest, List.takeWhile_cons, hdata]
        simp

/-- From some number of calls on, those that succeeded have handed out the data frames of the queue,
all of them and no other, in order. -/
def YieldsData (pb : Protobuf) (parses : List UInt8 → Bool) (bufLen : Nat)
    (fs : List (List UInt8)) (k : Client) : Prop :=
  ∃ enough, ∀ n, enough ≤ n →
    popAll pb bufLen n k = (fs.filter (isData pb parses)).map fun f => (f, payload pb f)

/-- The queue hands out its data frames exactly when those in front of the first frame that does not
look like one do parse, and there is none behind it. -/
theorem yieldsData_iff (parses : List UInt8 → Bool)
    (hempty : (pb.parseCSMsg [] 0).head.bodyid ≠ CSBodyCmdId.dataTransparent.value)
    (hpos : 0 < bufLen) (h : Holding fs k)
    (henough : ∀ f ∈ fs, looksLikeData pb f = true → Enough pb bufLen f) :
    YieldsData pb parses bufLen fs k ↔
      (∀ f ∈ fs.takeWhile (looksLikeData pb), parses (f.drop kMsgLenFieldSize) = true) ∧
        ∀ f ∈ fs.dropWhile (looksLikeData pb), isData pb parses f = false := by
  have hall : ∀ n, (fs.takeWhile (looksLikeData pb)).length ≤ n →
      popAll pb bufLen n k =
        (fs.takeWhile (looksLikeData pb)).map fun f => (f, payload pb f) := by
    intro n hn
    rw [popAll_eq hempty hpos n h henough, List.take_of_length_le hn]
  have hlooks : ∀ f ∈ fs.takeWhile (looksLikeData pb), looksLikeData pb f = true := fun f hf =>
    List.mem_takeWhile_imp hf
  have hparses : (∀ f ∈ fs.takeWhile (looksLikeData pb), isData pb parses f = true) ↔
      ∀ f ∈ fs.takeWhile (looksLikeData pb), parses (f.drop kMsgLenFieldSize) = true := by
    refine forall₂_congr fun f hf => ?_
    rw [isData, hlooks f hf, Bool.and_true]
  rw [← hparses, ← takeWhile_eq_filter_iff]
  constructor
  · rintro ⟨enough, hyields⟩
    have heq := hyields (max enough (fs.takeWhile (looksLikeData pb)).length) (le_max_left _ _)
    rw [hall _ (le_max_right _ _)] at heq
    have hfst := congrArg (List.map Prod.fst) heq
    simpa [List.map_map, Function.comp_def] using hfst
  · intro heq
    exact ⟨_, fun n hn => by rw [hall n hn, heq]⟩

/-! ## Two queues -/

/-- A client in `SESSION_STATE_DONE` with these frames in its queue. -/
def doneHolding (fs : List (List UInt8)) : Client where
  settings := ⟨[], [], []⟩
  tcpSock :=
    { TcpSocketUtil.init getPkgLen 256 with
      socketState := .netConnected
      recvBuf := ⟨256, fs.flatten, 0⟩ }
  sessionState := .sessionStateDone

theorem holding_doneHolding {fs : List (List UInt8)} (hfits : fs.flatten.length ≤ 256)
    (hheader : ∀ f ∈ fs, 4 ≤ f.length ∧ Bytes.readBe32 f = f.length) :
    Holding fs (doneHolding fs) where
  parser := rfl
  ok := ⟨Nat.zero_le _, hfits, (by decide : 256 < 2 ^ 31)⟩
  content := rfl
  header := hheader

theorem parsePkg_frame (msg : CSMsg) : parsePkg Wire.protobuf (frame Wire.protobuf msg) = msg := by
  have hdrop : (frame Wire.protobuf msg).drop kMsgLenFieldSize = Wire.encodeCSMsg msg := by
    simp [frame, iov, kMsgLenFieldSize, Wire.protobuf, Bytes.be32]
  unfold parsePkg
  rw [hdrop]
  exact Wire.decode_encodeCSMsg msg

/-- The connector's error notice. -/
def errorMsg : CSMsg := { head := { bodyid := CSBodyCmdId.error.value } }

/-- Three bytes of data. -/
def dataMsg3 : CSMsg :=
  { head := { bodyid := CSBodyCmdId.dataTransparent.value }, body := { data := some [1, 2, 3] } }

theorem not_looksLikeData_empty :
    (Wire.protobuf.parseCSMsg [] 0).head.bodyid ≠ CSBodyCmdId.dataTransparent.value := by
  decide +kernel

theorem looksLikeData_errorMsg :
    looksLikeData Wire.protobuf (frame Wire.protobuf errorMsg) = false := by
  rw [looksLikeData, parsePkg_frame]
  decide

theorem enough_dataMsg3 : Enough Wire.protobuf 4096 (frame Wire.protobuf dataMsg3) := by
  have hpayload : payload Wire.protobuf (frame Wire.protobuf dataMsg3) = [1, 2, 3] := by
    rw [payload, parsePkg_frame]
    rfl
  constructor
  · rw [hpayload]
    decide
  · rw [hpayload]
    decide

/-- An error frame in front of a data frame: no call ever succeeds. -/
theorem errorFrame_blocks :
    let fs := [frame Wire.protobuf errorMsg, frame Wire.protobuf dataMsg3]
    Holding fs (doneHolding fs) ∧
      (∀ n, popAll Wire.protobuf 4096 n (doneHolding fs) = []) ∧
      ¬ YieldsData Wire.protobuf Wire.parsesCSMsg 4096 fs (doneHolding fs) := by
  intro fs
  have hholding : Holding fs (doneHolding fs) := holding_doneHolding (by decide +kernel)
    (by decide +kernel)
  have hnone : ∀ n, popAll Wire.protobuf 4096 n (doneHolding fs) = [] := by
    intro n
    rw [popAll_eq not_looksLikeData_empty (by decide) n hholding]
    · simp [fs, looksLikeData_errorMsg]
    · intro f hf hdata
      rcases List.mem_cons.mp hf with rfl | hf
      · rw [looksLikeData_errorMsg] at hdata
        cases hdata
      · rw [List.mem_singleton.mp hf]
        exact enough_dataMsg3
  refine ⟨hholding, hnone, ?_⟩
  rintro ⟨enough, hyields⟩
  have hfilter := hyields enough (le_refl _)
  have hdata : isData Wire.protobuf Wire.parsesCSMsg (frame Wire.protobuf dataMsg3) = true := by
    decide +kernel
  rw [hnone enough] at hfilter
  simp [fs, hdata] at hfilter

/-- The other way round the data frame is handed out. -/
theorem dataFrame_first :
    let fs := [frame Wire.protobuf dataMsg3, frame Wire.protobuf errorMsg]
    YieldsData Wire.protobuf Wire.parsesCSMsg 4096 fs (doneHolding fs) := by
  intro fs
  have hholding : Holding fs (doneHolding fs) := holding_doneHolding (by decide +kernel)
    (by decide +kernel)
  refine (yieldsData_iff Wire.parsesCSMsg not_looksLikeData_empty (by decide) hholding ?_).mpr
    (by decide +kernel)
  intro f hf hdata
  rcases List.mem_cons.mp hf with rfl | hf
  · exact enough_dataMsg3
  · rw [List.mem_singleton.mp hf, looksLikeData_errorMsg] at hdata
    cases hdata

end Client

end Rapidapp.Connector
