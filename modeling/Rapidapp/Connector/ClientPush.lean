import Rapidapp.Connector.ClientHandshake

/-!
# A message that `PushMessage` reports as failed

`SerializeAndSendToPeer` (`client_api/connector_client_api_imp.cpp:155-181`) queues the frame
first and calls `Send` then. When `Send` fails the frame stays in the queue.
-/

namespace Rapidapp.Connector

open TSocketUtil

/-- `Send` goes on: it has failed before, or the socket can send and the kernel does not fail. -/
def SendsOn (outcome : SendOutcome) (t : TcpSocketUtil) : Prop :=
  t.socketState = .netSendFailed ∨
    (t.socketState = .netConnected ∨ t.socketState = .netRecvFailed ∨
        t.socketState = .netPeerClosed) ∧
      0 ≤ t.sendBuf.datalen ∧ (t.sendBuf.datalen = 0 ∨ outcome ≠ .failed)

/-- What `SerializeAndSendToPeer` takes for success; a `Send` that fails sends nothing. -/
theorem send_goes_on_iff (t : TcpSocketUtil) (outcome : SendOutcome) :
    ((t.send outcome).1 = normal ∨ (t.send outcome).1 = sendUncompleted ↔ SendsOn outcome t) ∧
      (¬ SendsOn outcome t →
        (t.send outcome).2.1 = [] ∧ (t.send outcome).2.2.sendBuf = t.sendBuf) := by
  unfold SendsOn TcpSocketUtil.send
  cases hstate : t.socketState with
  | netInited => simp [notConnected, normal, sendUncompleted]
  | netConnecting => simp [notConnected, normal, sendUncompleted]
  | netSendFailed => simp
  | netAssertFail => simp [assertFailed, normal, sendUncompleted]
  | _ =>
    simp only [reduceCtorEq, if_false, ne_eq, not_true, not_false_eq_true, false_and, and_false,
      or_false, false_or, or_true, true_and]
    by_cases hneg : t.sendBuf.datalen < 0
    · simp [hneg, not_le.mpr hneg, assertFailed, normal, sendUncompleted]
    by_cases hzero : t.sendBuf.datalen = 0
    · simp [hzero]
    rw [if_neg hneg, if_neg hzero]
    have hle : 0 ≤ t.sendBuf.datalen := not_lt.mp hneg
    cases outcome with
    | wouldBlock => simp [hle]
    | failed => simp [hzero, hle, sendFailed, normal, sendUncompleted]
    | sent len =>
      simp only [hle, hzero, reduceCtorEq, not_false_eq_true, or_true, and_self, iff_true,
        not_true, false_implies, and_true]
      split_ifs <;> simp

namespace Client

variable {pb : Protobuf} {k : Client} {m : CSMsg}

/-- The queue has no room for the frame of the message. -/
def Refuses (pb : Protobuf) (m : CSMsg) (k : Client) : Prop :=
  k.tcpSock.sendBuf.avaiable < CInt.int32 (frame pb m).length

/-- The socket with the frame in its queue. -/
def withFrame (pb : Protobuf) (m : CSMsg) (k : Client) : TcpSocketUtil :=
  { k.tcpSock with sendBuf := k.tcpSock.sendBuf.append (frame pb m) }

theorem pushvToSendQ_refuses (h : k.Refuses pb m) :
    k.tcpSock.pushvToSendQ (iov pb m) = (sendBuffFull, k.tcpSock) := by
  rw [Refuses, frame, ← TcpSocketUtil.totalLen_eq] at h
  rw [TcpSocketUtil.pushvToSendQ, if_pos h]

theorem pushvToSendQ_takes (h : ¬ k.Refuses pb m) :
    k.tcpSock.pushvToSendQ (iov pb m) = (normal, k.withFrame pb m) := by
  rw [Refuses, frame, ← TcpSocketUtil.totalLen_eq] at h
  rw [TcpSocketUtil.pushvToSendQ, if_neg h, withFrame, frame]

/-- A message that was queued counts as sent when `Send` goes on. -/
theorem serializeAndSendToPeer_eq_zero_iff (h : ¬ k.Refuses pb m) (outcome : SendOutcome) :
    (k.serializeAndSendToPeer pb m outcome).1 = 0 ↔ SendsOn outcome (k.withFrame pb m) := by
  have hiff := (send_goes_on_iff (k.withFrame pb m) outcome).1
  rw [serializeAndSendToPeer, pushvToSendQ_takes h]
  dsimp only
  rw [← hiff]
  generalize (k.withFrame pb m).send outcome = send
  rw [if_neg (not_not.mpr rfl)]
  by_cases hsend : send.1 = normal ∨ send.1 = sendUncompleted
  · rw [if_neg (by rwa [← not_or, not_not])]
    exact iff_of_true rfl hsend
  · rw [if_pos (by rwa [← not_or])]
    refine iff_of_false ?_ hsend
    intro hzero
    exact hsend (.inl hzero)

/-- What was queued belongs to the stream, whatever `Send` returns. -/
theorem stream_serializeAndSendToPeer (hok : k.tcpSock.sendBuf.Ok) (h : ¬ k.Refuses pb m)
    (outcome : SendOutcome) :
    (k.countSeqno.serializeAndSendToPeer pb m outcome).2.stream = k.stream ++ frame pb m := by
  have hpush := pushvToSendQ_takes h
  have hsent := (k.withFrame pb m).send_content outcome
  have hcontent : (k.withFrame pb m).sendBuf.content = k.tcpSock.sendBuf.content ++ frame pb m :=
    RingBuffer.content_append hok _
  rw [serializeAndSendToPeer_pushed (k := k.countSeqno) hpush]
  rw [hcontent] at hsent
  generalize (k.withFrame pb m).send outcome = send at hsent ⊢
  show (k.sent ++ send.2.1) ++ send.2.2.sendBuf.content =
    (k.sent ++ k.tcpSock.sendBuf.content) ++ frame pb m
  rw [List.append_assoc, hsent, List.append_assoc]

/-- When `PushMessage` fails. -/
theorem pushMessage_ne_zero_iff (data : List UInt8) (send : SendOutcome) :
    (k.pushMessage pb data send).1 ≠ 0 ↔ data.length = 0 ∨ k.Refuses pb (k.dataMsg data) ∨
      ¬ SendsOn send (k.withFrame pb (k.dataMsg data)) := by
  by_cases hdata : data.length = 0
  · rw [pushMessage_empty hdata]
    have hfails : (-1 : Int) ≠ 0 := by decide
    exact iff_of_true hfails (.inl hdata)
  have hret : (k.pushMessage pb data send).1 ≠ 0 ↔
      (k.countSeqno.serializeAndSendToPeer pb (k.dataMsg data) send).1 ≠ 0 := by
    rw [pushMessage, if_neg hdata, orFailed]
    split_ifs with hfailed
    · simp [hfailed]
    · simp [hfailed]
  rw [hret]
  by_cases hrefuses : k.Refuses pb (k.dataMsg data)
  · have hpush := pushvToSendQ_refuses hrefuses
    rw [serializeAndSendToPeer_refused (k := k.countSeqno) hpush]
    have hfails : sendBuffFull ≠ 0 := by decide
    exact iff_of_true hfails (.inr (.inl hrefuses))
  · have hzero := serializeAndSendToPeer_eq_zero_iff (k := k.countSeqno) hrefuses send
    rw [Ne, hzero]
    simp only [hdata, hrefuses, false_or]
    rfl

theorem frame_ne_nil (pb : Protobuf) (m : CSMsg) : frame pb m ≠ [] := by
  intro hnil
  have hlen := congrArg List.length hnil
  rw [frame, iov, List.flatten_cons, List.length_append] at hlen
  simp [Bytes.be32] at hlen

end Client

namespace ClientObject

variable {pb : Protobuf} {o : ClientObject}

/-- What was in the send queue of a client is still there, apart from bytes that were sent. -/
def KeepsQueue (k k' : Client) : Prop :=
  ∃ taken, k'.sent = k.sent ++ taken ∧
    taken ++ k'.tcpSock.sendBuf.content = k.tcpSock.sendBuf.content

/-- A `PushMessage` that fails queues nothing. -/
def Atomic (pb : Protobuf) (data : List UInt8) (send : SendOutcome) (o : ClientObject) : Prop :=
  (o.call pb (.pushMessage data send)).1 ≠ 0 →
    KeepsQueue o.client (o.call pb (.pushMessage data send)).2.client

theorem KeepsQueue.stream {k k' : Client} (h : KeepsQueue k k') : k'.stream = k.stream := by
  obtain ⟨taken, hsent, hcontent⟩ := h
  rw [Client.stream, Client.stream, hsent, List.append_assoc, hcontent]

theorem KeepsQueue.refl (k : Client) : KeepsQueue k k := ⟨[], (List.append_nil _).symm, rfl⟩

/-- `PushMessage` is atomic exactly when it has no data, or the frame is refused, or `Send` goes on
once the frame is in the queue. -/
theorem atomic_iff (h : Reachable pb o) (data : List UInt8) (send : SendOutcome) :
    Atomic pb data send o ↔ data.length = 0 ∨ o.client.Refuses pb (o.client.dataMsg data) ∨
      SendsOn send (o.client.withFrame pb (o.client.dataMsg data)) := by
  rw [Atomic, ClientObject.call]
  dsimp only
  rw [Client.pushMessage_ne_zero_iff]
  by_cases hdata : data.length = 0
  · rw [Client.pushMessage_empty hdata]
    exact iff_of_true (fun _ => KeepsQueue.refl _) (.inl hdata)
  rw [Client.pushMessage_snd hdata]
  by_cases hrefuses : o.client.Refuses pb (o.client.dataMsg data)
  · have hpush := Client.pushvToSendQ_refuses hrefuses
    rw [Client.serializeAndSendToPeer_refused (k := o.client.countSeqno) hpush]
    exact iff_of_true (fun _ => KeepsQueue.refl _) (.inr (.inl hrefuses))
  have hstream := Client.stream_serializeAndSendToPeer h.ok.buffers.send.ok hrefuses send
  simp only [hdata, hrefuses, false_or]
  constructor
  · intro hatomic
    by_contra hfails
    have hsame := (hatomic hfails).stream
    rw [hstream] at hsame
    exact Client.frame_ne_nil _ _ (List.append_right_eq_self.mp hsame)
  · intro hsends hfails
    exact absurd hsends hfails

/-- The connection is not made yet. -/
def connecting : List ClientCall := [.start ⟨[97], [98], [99]⟩ 7]

/-- A client that has just sent its SYN has no room for a payload as large as its queue. -/
theorem refuses_established {data : List UInt8} (hdata : data.length = 2 * 1024 * 1024) : ∃ o,
    Run.run (step Wire.protobuf) (new false)
        (connecting ++ [.update { check := 0, send := .sent 100 }]) = some o ∧
      o.client.Refuses Wire.protobuf (o.client.dataMsg data) ∧
      (o.call Wire.protobuf (.pushMessage data (.sent 100))).1 ≠ 0 := by
  have hbuf : (Run.run (step Wire.protobuf) (new false)
      (connecting ++ [.update { check := 0, send := .sent 100 }])).map
        (·.client.tcpSock.sendBuf) = some (.empty (2 * 1024 * 1024)) := by decide +kernel
  obtain ⟨o, hrun, ho⟩ := Option.map_eq_some_iff.mp hbuf
  have hroom : o.client.tcpSock.sendBuf.avaiable = 2 * 1024 * 1024 := by rw [ho]; decide
  obtain ⟨hlarge, hlt⟩ := o.client.length_frame_dataMsg data (by omega)
  have hrefuses : o.client.Refuses Wire.protobuf (o.client.dataMsg data) := by
    rw [Client.Refuses, hroom, CInt.int32_of_range (by omega) (by omega)]
    omega
  refine ⟨o, hrun, hrefuses, ?_⟩
  rw [ClientObject.call]
  dsimp only
  rw [Client.pushMessage_ne_zero_iff]
  exact .inr (.inl hrefuses)

/-- That payload fails, and nothing of it is queued. -/
theorem atomic_established : ∃ o, Run.run (step Wire.protobuf) (new false)
    (connecting ++ [.update { check := 0, send := .sent 100 }]) = some o ∧
      (o.call Wire.protobuf (.pushMessage (List.replicate (2 * 1024 * 1024) 0) (.sent 100))).1 ≠ 0 ∧
      Atomic Wire.protobuf (List.replicate (2 * 1024 * 1024) 0) (.sent 100) o := by
  obtain ⟨o, hrun, hrefuses, hfails⟩ := refuses_established List.length_replicate
  exact ⟨o, hrun, hfails, (atomic_iff ⟨_, _, hrun⟩ _ (.sent 100)).mpr (.inr (.inl hrefuses))⟩

/-- The payload `1` as the first message of a client. -/
def earlyMsg : CSMsg where
  head := { sequence := 1, bodyid := CSBodyCmdId.dataTransparent.value }
  body := { data := some [1] }

/-- A payload pushed before the connection is made is reported as failed; its frame stays in the
queue, and goes out in front of the SYN. -/
theorem pushed_before_connected : ¬ (∀ (pb : Protobuf) (o : ClientObject) (data : List UInt8)
      (send : SendOutcome), Reachable pb o → Atomic pb data send o) ∧
    ∃ o, Run.run (step Wire.protobuf) (new false)
        (connecting ++ [.pushMessage [1] .wouldBlock, .update { check := 0, send := .sent 100 }]) =
          some o ∧
      Client.frame Wire.protobuf earlyMsg <+: o.client.sent := by
  constructor
  · intro h
    have hfacts : (Run.run (step Wire.protobuf) (new false) connecting).map (fun o => decide
        ((o.call Wire.protobuf (.pushMessage [1] .wouldBlock)).1 = -1 ∧
          o.client.stream = [] ∧
          (o.call Wire.protobuf (.pushMessage [1] .wouldBlock)).2.client.stream ≠ [])) =
        some true := by decide +kernel
    obtain ⟨o, hrun, ho⟩ := Option.map_eq_some_iff.mp hfacts
    obtain ⟨hret, hempty, hqueued⟩ := of_decide_eq_true ho
    have hkeeps := h _ o [1] .wouldBlock ⟨_, _, hrun⟩ (by rw [hret]; decide)
    exact hqueued (hkeeps.stream.trans hempty)
  · have hfacts : (Run.run (step Wire.protobuf) (new false)
        (connecting ++ [.pushMessage [1] .wouldBlock, .update { check := 0, send := .sent 100 }])).map
        (fun o => decide (Client.frame Wire.protobuf earlyMsg <+: o.client.sent)) = some true := by
      decide +kernel
    obtain ⟨o, hrun, ho⟩ := Option.map_eq_some_iff.mp hfacts
    exact ⟨o, hrun, of_decide_eq_true ho⟩

end ClientObject

end Rapidapp.Connector
