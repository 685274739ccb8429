import Rapidapp.Framework.FrameBorders
import Rapidapp.Connector.Callbacks
import Rapidapp.Connector.ClientSequence
import Rapidapp.Connector.Handshake

/-!
# What a client may send and what the connector can receive

The send queue of a client holds two megabytes, the receive buffer of the connector one
(`GetFrontEndMaxMsgSize` returns 0, so `NetHandlerMgr::Init` takes its default). A message the
client accepts is handed to `OnRecvFrontEnd` exactly when it lies in the first megabyte of the
connection's input; one that is longer blocks the connection for ever.
-/

namespace Rapidapp.Connector

open TSocketUtil World

/-! ## The two limits -/

/-- `ConnectorApp::GetFrontEndMaxMsgSize` (`connector_app.cpp:385-388`). -/
def ConnectorApp.getFrontEndMaxMsgSize : Nat := 0

/-- The size `InitNormalMode` passes to `NetHandlerMgr::Init`
(`rapidapp_framework_imp.cpp:615-616`). -/
def frontEndBuffer : RapBuffer := ⟨2 * ConnectorApp.getFrontEndMaxMsgSize, by decide⟩

theorem recvBuffer_frontEnd : (NetHandlerMgr.init frontEndBuffer).recvBuffer.size = kDefaultUpSize :=
  rfl

/-- A message whose length a header can hold is framed as the connector expects it. -/
theorem isMsg_frame (pb : Protobuf) (msg : CSMsg)
    (h : (Client.frame pb msg).length < 2 ^ 32) : IsMsg (Client.frame pb msg) := by
  have hlen : (Client.frame pb msg).length = (pb.serializeCSMsg msg).length + 4 := by
    simp [Client.frame, Client.iov, Nat.add_comm]
  rw [hlen] at h
  refine ⟨by omega, ?_⟩
  rw [hlen]
  show Bytes.readBe32 (Bytes.be32 ((pb.serializeCSMsg msg).length + 4) ++
    [pb.serializeCSMsg msg].flatten) = _
  rw [Bytes.readBe32_be32, Nat.mod_eq_of_lt h]

theorem Client.serializeAndSendToPeer_fst {pb : Protobuf} {k : Client} {msg : CSMsg}
    {outcome : SendOutcome} (h : (k.serializeAndSendToPeer pb msg outcome).1 = normal) :
    k.tcpSock.pushvToSendQ (iov pb msg) =
      (normal, { k.tcpSock with sendBuf := k.tcpSock.sendBuf.append (frame pb msg) }) := by
  rw [TcpSocketUtil.pushvToSendQ]
  split_ifs with hfull
  · have hpush : k.tcpSock.pushvToSendQ (iov pb msg) = (sendBuffFull, k.tcpSock) := by
      rw [TcpSocketUtil.pushvToSendQ, if_pos hfull]
    rw [serializeAndSendToPeer_refused hpush] at h
    cases h
  · rfl

/-- What a successful `PushMessage` puts into the stream. -/
theorem Client.pushMessage_stream {pb : Protobuf} {k k' : Client} {data : List UInt8}
    {outcome : SendOutcome} (h : k.tcpSock.sendBuf.Ok)
    (hpush : k.pushMessage pb data outcome = (0, k')) :
    k'.stream = k.stream ++ frame pb (k.dataMsg data) := by
  have hdata : data.length ≠ 0 := by
    intro hzero
    rw [pushMessage_empty hzero] at hpush
    cases hpush
  rw [pushMessage, if_neg hdata] at hpush
  have hret : (k.countSeqno.serializeAndSendToPeer pb (k.dataMsg data) outcome).1 = normal := by
    generalize k.countSeqno.serializeAndSendToPeer pb (k.dataMsg data) outcome = r at hpush
    rw [orFailed] at hpush
    by_contra hne
    have hfst := congrArg Prod.fst hpush
    dsimp only at hfst
    rw [if_pos (show r.1 ≠ 0 from hne)] at hfst
    cases hfst
  have hk' : k' = (k.countSeqno.serializeAndSendToPeer pb (k.dataMsg data) outcome).2 := by
    rw [← orFailed_snd, hpush]
  have hpushed := serializeAndSendToPeer_fst hret
  rw [hk', serializeAndSendToPeer_pushed hpushed]
  have hsent := TcpSocketUtil.send_content
    { k.tcpSock with sendBuf := k.tcpSock.sendBuf.append (frame pb (k.dataMsg data)) } outcome
  have hcontent := RingBuffer.content_append h (frame pb (k.dataMsg data))
  show (k.sent ++ _) ++ _ = (k.sent ++ k.tcpSock.sendBuf.content) ++ _
  rw [List.append_assoc, List.append_assoc, ← hcontent]
  exact congrArg _ hsent

/-- The message at this place of the input was handed to `OnRecvFrontEnd`, and if the connection
is still there its input has moved past it. -/
structure Passed (p : NetPtr) (b : BevPtr) (input : List UInt8) (before : Nat)
    (payload : List UInt8) (m m' : Monitor BackEndSet ConnectorSession) : Prop where
  handed : ∃ ds, m'.handed = m.handed ++ ds ∧ ∃ d ∈ ds, d.net = p ∧ d.offset = before + 4 ∧
    d.msglen = payload.length + 4 ∧ d.bytes = payload ∧ d.size = payload.length
  moved : ∀ n e', m'.world.heap.nets p = some n → m'.world.heap.bevs b = some e' →
    ∃ len, before + (payload.length + 4) ≤ len ∧ e'.input = input.drop len

/-- The frames found when some messages lie in the first `k` bytes of the input. -/
theorem cuts_take_of_le {ws : List (List UInt8)} (hws : ∀ f ∈ ws, IsMsg f) (t : List UInt8)
    {k : Nat} (hk : k < 2 ^ 31) (hfit : ws.flatten.length ≤ k) :
    ∃ rest, msgDecoder.cuts ((ws.flatten ++ t).take k) = ws.map List.length ++ rest := by
  obtain ⟨us, vs, rfl, _, _, hvs, hcuts⟩ := cuts_take hws t (k := k) (by omega)
  cases vs with
  | nil => exact ⟨_, by rw [hcuts, List.append_nil us]⟩
  | cons f vs =>
    exfalso
    rw [List.flatten_append, List.length_append, List.flatten_cons, List.length_append] at hfit
    obtain hfar | hlong := hvs f rfl
    · omega
    · omega

/-- The payload that is handed out for a frame that lies in the copy. -/
theorem ofFrame_bytes (p : NetPtr) (before payload later : List UInt8) {header : List UInt8}
    (hheader : header.length = 4) {k : Nat}
    (hfit : before.length + (payload.length + 4) ≤ k) (hk : k < 2 ^ 31) :
    let d := Dispatch.ofFrame p ((before ++ (header ++ payload ++ later)).take k) before.length
      (payload.length + 4) true
    d.bytes = payload ∧ d.size = payload.length := by
  have hsize : payloadSize (payload.length + 4) = payload.length := by
    rw [payloadSize, CInt.uint64_of_nonneg (by omega) (by omega)]
    omega
  refine ⟨?_, hsize⟩
  have hdrop : (before ++ (header ++ payload ++ later)).drop (before.length + 4) =
      payload ++ later := by
    rw [← List.drop_drop, List.drop_left, List.append_assoc, ← hheader, List.drop_left]
  show payloadBytes _ _ _ = _
  rw [payloadBytes, hsize, List.drop_take, hdrop, List.take_take,
    Nat.min_eq_left (by omega), List.take_left]

/-- Whatever else the input holds, one run of the handler passes a message that a client accepted
exactly when the messages before it and the message itself have together no more than the bytes
of the receive buffer. -/
theorem passed_iff (c : ConnectorApp) {k k' : Client} {data : List UInt8} {outcome : SendOutcome}
    (hok : k.tcpSock.sendBuf.Ok) (hpush : k.pushMessage c.pb data outcome = (0, k'))
    {p : NetPtr} {b : BevPtr} {m : Monitor BackEndSet ConnectorSession}
    (h : Attached .frontEnd p b m.world) (hmode : m.world.svcMode = .normal)
    (hrecv : m.world.frontendHandlerMgr.recvBuffer = (NetHandlerMgr.init frontEndBuffer).recvBuffer)
    {e : BufferEvent} (he : m.world.heap.bevs b = some e) {earlier : List (List UInt8)}
    (hearlier : ∀ f ∈ earlier, IsMsg f) {later : List UInt8}
    (hinput : e.input = earlier.flatten ++ (Client.frame c.pb (k.dataMsg data) ++ later)) :
    k'.stream = k.stream ++ Client.frame c.pb (k.dataMsg data) ∧
      ∃ m', Monitor.onFrontEndMsg c.toApp m b = some m' ∧
        (Passed p b e.input earlier.flatten.length (c.pb.serializeCSMsg (k.dataMsg data)) m m' ↔
          earlier.flatten.length + (Client.frame c.pb (k.dataMsg data)).length ≤
            kDefaultUpSize) := by
  refine ⟨Client.pushMessage_stream hok hpush, ?_⟩
  have hframe : Client.frame c.pb (k.dataMsg data) =
      Bytes.be32 ((c.pb.serializeCSMsg (k.dataMsg data)).length + 4) ++
        c.pb.serializeCSMsg (k.dataMsg data) := by simp [Client.frame, Client.iov]
  have hlen : (Client.frame c.pb (k.dataMsg data)).length =
      (c.pb.serializeCSMsg (k.dataMsg data)).length + 4 := by
    rw [hframe, List.length_append, Bytes.length_be32, Nat.add_comm]
  have hisMsg := isMsg_frame c.pb (k.dataMsg data)
  generalize c.pb.serializeCSMsg (k.dataMsg data) = payload at hframe hlen ⊢
  generalize Client.frame c.pb (k.dataMsg data) = f at hframe hlen hisMsg hinput ⊢
  obtain ⟨m', ds, hrun, hhanded, hrange, hmoved⟩ :
      ∃ m' ds, Monitor.onFrontEndMsg c.toApp m b = some m' ∧ _ :=
    Monitor.normal_onFrontEndMsg h hmode he rfl
  refine ⟨m', hrun, ?_⟩
  have hsize : m.world.frontendHandlerMgr.recvBuffer.size = kDefaultUpSize := by
    rw [hrecv, recvBuffer_frontEnd]
  rw [hsize] at hrange hmoved
  constructor
  · rintro ⟨⟨ds', hds', d, hd, _, hoffset, hmsglen, _, _⟩, _⟩
    obtain rfl := List.append_cancel_left (hhanded.symm.trans hds')
    have hmem := List.mem_map_of_mem (f := Monitor.range) hd
    rw [hrange, mem_dispatchesAt] at hmem
    obtain ⟨before, n, after, hcuts, heq⟩ := hmem
    have hle := Framing.Decoder.sum_cuts_le (d := msgDecoder) (e.input.take kDefaultUpSize)
    have hbuf := List.length_take_le kDefaultUpSize e.input
    rw [hcuts, List.sum_append, List.sum_cons] at hle
    have hn : d.msglen = n := congrArg Dispatch.msglen heq
    have hbefore : d.offset = 0 + before.sum + 4 := congrArg Dispatch.offset heq
    omega
  · intro hfit
    have hsmall : f.length < 2 ^ 31 := lt_of_le_of_lt (Nat.le_of_add_left_le hfit) (by decide)
    have hws : ∀ g ∈ earlier ++ [f], IsMsg g := by
      intro g hg
      obtain hg | hg := List.mem_append.mp hg
      · exact hearlier g hg
      · rw [List.mem_singleton.mp hg]
        exact hisMsg (by omega)
    obtain ⟨rest, hcuts⟩ := cuts_take_of_le hws later (k := kDefaultUpSize) (by decide)
      (by simpa using hfit)
    rw [List.flatten_append, List.flatten_singleton, List.append_assoc, ← hinput, List.map_append,
      List.append_assoc] at hcuts
    have hsum : (earlier.map List.length).sum = earlier.flatten.length := by
      rw [List.length_flatten]
    have hmem : Dispatch.ofFrame p (e.input.take kDefaultUpSize) earlier.flatten.length f.length
        true ∈ ds.map Monitor.range := by
      rw [hrange, mem_dispatchesAt]
      exact ⟨earlier.map List.length, f.length, rest, hcuts, by rw [hsum, Nat.zero_add]⟩
    obtain ⟨d, hd, hdeq⟩ := List.mem_map.mp hmem
    have hbytes := ofFrame_bytes p earlier.flatten payload later
      (Bytes.length_be32 (payload.length + 4)) (k := kDefaultUpSize) (by omega) (by decide)
    rw [← hframe, ← hinput, ← hlen, ← hdeq] at hbytes
    refine ⟨⟨ds, hhanded, d, hd, congrArg Dispatch.net hdeq, congrArg Dispatch.offset hdeq,
      hlen ▸ congrArg Dispatch.msglen hdeq, hbytes.1, hbytes.2⟩, ?_⟩
    intro n e' hn he'
    refine ⟨_, ?_, hmoved n e' hn he'⟩
    rw [hcuts, List.sum_append, hsum, List.sum_append, List.map_singleton, List.sum_singleton]
    omega

/-! ## Two messages of a client -/

/-- A connected client accepts a message that fits into its queue. -/
theorem Client.pushMessage_accepted {pb : Protobuf} {k : Client} {data : List UInt8}
    (hdata : data.length ≠ 0) (hstate : k.tcpSock.socketState = .netConnected)
    (hok : k.tcpSock.sendBuf.Ok)
    (hfit : ((frame pb (k.dataMsg data)).length : Int) ≤ k.tcpSock.sendBuf.avaiable) :
    (k.pushMessage pb data .wouldBlock).1 = 0 := by
  obtain ⟨hpush, hbuf⟩ := k.tcpSock.pushvToSendQ_fits hok hfit
  have hret : (k.countSeqno.serializeAndSendToPeer pb (k.dataMsg data) .wouldBlock).1 = 0 := by
    have hpush' : k.countSeqno.tcpSock.pushvToSendQ (iov pb (k.dataMsg data)) = _ := hpush
    rw [serializeAndSendToPeer, hpush']
    dsimp only
    have hsend := TcpSocketUtil.send_wouldBlock
      { k.tcpSock with sendBuf := k.tcpSock.sendBuf.append (iov pb (k.dataMsg data)).flatten }
      hstate hbuf
    generalize TcpSocketUtil.send _ .wouldBlock = send at hsend ⊢
    rw [if_neg (not_not.mpr rfl), if_neg]
    · rfl
    · rintro ⟨hne, hne'⟩
      exact hsend.elim hne hne'
  rw [pushMessage, if_neg hdata]
  generalize k.countSeqno.serializeAndSendToPeer pb (k.dataMsg data) .wouldBlock = r at hret ⊢
  rw [orFailed, if_neg (not_not.mpr hret)]

/-- The connector has accepted a client on descriptor 7. -/
def ConnectorWorld.accepted : ConnectorWorld :=
  (ConnectorWorld.start (fun _ => true) frontEndBuffer frontEndBuffer 0).onFrontEndConnect
    ConnectorApp.onFrontEndConnect 7 true true

theorem serving_accepted : Serving .frontEnd 0 0 ConnectorWorld.accepted := by
  have hfresh : (ConnectorWorld.start (fun _ => true) frontEndBuffer frontEndBuffer 0).FreshFd 7 :=
    ⟨by decide, by decide, fun _ _ h => by cases h⟩
  have hinv := (onFrontEndConnect_spec (Inv.start _ _ _ _) hfresh true true).1
  refine ⟨hinv.ok, ⟨_, ⟨7, [], [], []⟩, ⟨rfl, rfl, rfl⟩, rfl⟩, fun _ => rfl, fun hside => ?_⟩
  cases hside

/-- An established client, and a payload it accepts. -/
theorem opened_accepts (data : List UInt8) (hne : data.length ≠ 0)
    (hle : data.length + 124 ≤ 2 * 1024 * 1024) : ∃ k k',
    Run.run (clientStep Wire.protobuf) (Client.start ⟨[97], [98], [99]⟩ 7)
        Client.opening = some k ∧
      k.tcpSock.sendBuf.Ok ∧ k.pushMessage Wire.protobuf data .wouldBlock = (0, k') := by
  obtain ⟨k, hrun, _, _, hstate, hbuf⟩ := Client.opened
  have hok : k.tcpSock.sendBuf.Ok := hbuf ▸ .empty (by decide)
  have hroom : k.tcpSock.sendBuf.avaiable = 2 * 1024 * 1024 := by rw [hbuf]; decide
  obtain ⟨_, hlen⟩ := k.length_frame_dataMsg data (by omega)
  have hret : (k.pushMessage Wire.protobuf data .wouldBlock).1 = 0 :=
    Client.pushMessage_accepted hne hstate hok (by rw [hroom]; omega)
  exact ⟨k, _, hrun, hok, Prod.ext hret rfl⟩

/-- The connector with this input of the client. -/
def ConnectorWorld.receiving (input : List UInt8) : ConnectorWorld :=
  { ConnectorWorld.accepted with
    heap := ConnectorWorld.accepted.heap.setBev 0 ⟨7, input, [], []⟩ }

theorem attached_receiving (input : List UInt8) :
    Attached .frontEnd 0 0 (ConnectorWorld.receiving input) := by
  have hserve : Serving .frontEnd 0 0 (ConnectorWorld.receiving input) :=
    serving_accepted.setBev (e := ⟨7, [], [], []⟩) rfl rfl
  exact ⟨hserve.ok, hserve.live⟩

/-- A payload of one byte is passed. -/
theorem passed_small : ∃ k k' f m',
    Run.run (clientStep Wire.protobuf) (Client.start ⟨[97], [98], [99]⟩ 7) Client.opening =
        some k ∧
      k.pushMessage Wire.protobuf [1] .wouldBlock = (0, k') ∧ k'.stream = k.stream ++ f ∧
      Monitor.onFrontEndMsg ConnectorApp.greeting.toApp ⟨ConnectorWorld.receiving f, [], []⟩ 0 =
        some m' ∧
      Passed 0 0 f 0 (Wire.encodeCSMsg (k.dataMsg [1])) ⟨ConnectorWorld.receiving f, [], []⟩
        m' := by
  obtain ⟨k, k', hrun, hok, hpush⟩ := opened_accepts [1] (by decide) (by decide)
  obtain ⟨_, hlen⟩ := k.length_frame_dataMsg [1] (by decide)
  obtain ⟨f, hf⟩ : ∃ f, f = Client.frame Wire.protobuf (k.dataMsg [1]) := ⟨_, rfl⟩
  have hinput : f = [].flatten ++ (Client.frame ConnectorApp.greeting.pb (k.dataMsg [1]) ++ []) := by
    rw [List.append_nil, List.flatten_nil, List.nil_append]
    exact hf
  obtain ⟨hstream, m', hmsg, hiff⟩ := passed_iff ConnectorApp.greeting hok hpush
    (m := ⟨ConnectorWorld.receiving f, [], []⟩) (attached_receiving f) rfl rfl
    (e := ⟨7, f, [], []⟩) rfl (List.forall_mem_nil _) hinput
  refine ⟨k, k', f, m', hrun, hpush, hf ▸ hstream, hmsg, hiff.mpr ?_⟩
  have hsmall : (Client.frame Wire.protobuf (k.dataMsg [1])).length ≤ 1024 * 1024 :=
    hlen.trans (by decide)
  rw [List.flatten_nil, List.length_nil, Nat.zero_add]
  exact hsmall

/-- A payload of a megabyte is accepted, and nothing of this client is handed to the connector any
more, whatever follows it. -/
theorem large_never_passed : ∃ k k' f,
    Run.run (clientStep Wire.protobuf) (Client.start ⟨[97], [98], [99]⟩ 7) Client.opening =
        some k ∧
      k.pushMessage Wire.protobuf (List.replicate (1024 * 1024) 0) .wouldBlock = (0, k') ∧
      k'.stream = k.stream ++ f ∧
      ∀ chunks later, chunks.flatten = f ++ later → ∃ m' e',
        Run.run (Monitor.arrive ConnectorApp.greeting.toApp .frontEnd 0)
          ⟨ConnectorWorld.accepted, [], []⟩ chunks = some m' ∧
        m'.handed = [] ∧ m'.world.heap.bevs 0 = some e' ∧ e'.input = f ++ later := by
  have hlength : (List.replicate (1024 * 1024) (0 : UInt8)).length = 1024 * 1024 :=
    List.length_replicate
  generalize List.replicate (1024 * 1024) (0 : UInt8) = data at hlength
  obtain ⟨k, k', hrun, hok, hpush⟩ := opened_accepts data (by omega) (by omega)
  obtain ⟨hlong, hlen⟩ := k.length_frame_dataMsg data (by omega)
  have hf := isMsg_frame Wire.protobuf (k.dataMsg data) (by omega)
  refine ⟨k, k', _, hrun, hpush, Client.pushMessage_stream hok hpush, fun chunks later hchunks => ?_⟩
  have hsize : ConnectorWorld.accepted.frontendHandlerMgr.recvBuffer.size = 1024 * 1024 := rfl
  have hprefix : [] ++ chunks.flatten <+: Client.frame Wire.protobuf (k.dataMsg data) ++ later := by
    rw [hchunks]
    exact List.prefix_rfl
  obtain ⟨m', e', hblocked, hhanded, he', hin⟩ := Monitor.blocked_run
    (m := ⟨ConnectorWorld.accepted, [], []⟩) serving_accepted (e := ⟨7, [], [], []⟩) rfl hf
    (by rw [hsize]; omega) hprefix
  exact ⟨m', e', hblocked, hhanded, he', by rw [hin, hchunks]; rfl⟩

end Rapidapp.Connector
