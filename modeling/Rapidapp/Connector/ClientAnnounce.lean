import Rapidapp.Connector.ClientDone
import Rapidapp.Connector.Decoders

/-!
# Frames that wait while the peer closes

An `Update` of an established client (`client_api/connector_client_api_imp.cpp:430-454`) receives
first and announces at most one frame then. When several frames came with one `recv` and the
close comes behind them, `Update` finds the close while frames wait in the queue.
-/

namespace Rapidapp.Connector

open TSocketUtil Framing

/-- A client in `SESSION_STATE_DONE` with a listener that pops one message in each `OnIncoming`.
Ghost: what has arrived for the application, and the frames that were announced. -/
structure ListeningClient where
  object : ClientObject
  received : List UInt8
  announced : List (List UInt8)

namespace ListeningClient

variable (pb : Protobuf)

/-- What waits in the queue when the session is done has arrived. -/
def start (o : ClientObject) : ListeningClient where
  object := o
  received := o.client.tcpSock.recvBuf.content
  announced := []

/-- What an `Update` receives; the one that tells of the handshake does not call `Recv`. -/
def arriving (net : NetOutcome) (w : ListeningClient) : List UInt8 :=
  if w.object.client.handshakeDone = true then net.recv.bytes else []

/-- The `Update` calls `OnIncoming`. -/
def Announces (net : NetOutcome) (w : ListeningClient) : Prop :=
  (w.object.call pb (.update net)).2.client.calls = w.object.client.calls ++ [.onIncoming]

instance (net : NetOutcome) (w : ListeningClient) : Decidable (Announces pb net w) :=
  inferInstanceAs (Decidable (_ = _))

/-- The package at the head of the receive queue. -/
def head (o : ClientObject) : List UInt8 := (o.client.tcpSock.peekFromRecvQ.2.1).getD []

/-- One call; messages are popped in `OnIncoming` only. -/
def step (w : ListeningClient) : ClientCall → Option ListeningClient
  | .update net =>
    (w.object.step pb (.update net)).map fun o =>
      if Announces pb net w then
        { object := (o.call pb .popMessage).2
          received := w.received ++ w.arriving net
          announced := w.announced ++ [head o] }
      else { w with object := o, received := w.received ++ w.arriving net }
  | .pushMessage data send =>
    (w.object.step pb (.pushMessage data send)).map fun o => { w with object := o }
  | .peekMessage => (w.object.step pb .peekMessage).map fun o => { w with object := o }
  | .elsewhere => (w.object.step pb .elsewhere).map fun o => { w with object := o }
  | _ => none

/-- When `OnServerClose` is called every complete frame that had arrived was announced. -/
def Prompt (w : ListeningClient) : ClientCall → Prop
  | .update net =>
    ClientObject.TellsClose pb (.update net) w.object →
      (pkgDecoder.split w.received).1 = w.announced
  | _ => True

/-- No complete frame waits in the queue when an `Update` finds that the peer has closed. -/
def NoneWaits (w : ListeningClient) : ClientCall → Prop
  | .update net =>
    w.object.client.FindsClose net →
      pkgDecoder.next w.object.client.tcpSock.recvBuf.content = none
  | _ => True

/-- The frames that have arrived are those announced and those that wait. -/
structure Inv (w : ListeningClient) : Prop where
  isDone : w.object.IsDone
  frames : pkgDecoder.split w.received =
    (w.announced ++ (pkgDecoder.split w.object.client.tcpSock.recvBuf.content).1,
      (pkgDecoder.split w.object.client.tcpSock.recvBuf.content).2)

variable {pb} {w w' : ListeningClient} {o : ClientObject}

/-! ## What the calls do to the receive queue -/

theorem recvBuf_pushMessage (k : Client) (data : List UInt8) (send : SendOutcome) :
    (k.pushMessage pb data send).2.tcpSock.recvBuf = k.tcpSock.recvBuf := by
  by_cases hdata : data.length = 0
  · rw [Client.pushMessage_empty hdata]
  rw [Client.pushMessage_snd hdata]
  by_cases hrefuses : k.Refuses pb (k.dataMsg data)
  · have hpush := Client.pushvToSendQ_refuses hrefuses
    rw [Client.serializeAndSendToPeer_refused (k := k.countSeqno) hpush]
    rfl
  · have hpush := Client.pushvToSendQ_takes hrefuses
    rw [Client.serializeAndSendToPeer_pushed (k := k.countSeqno) hpush]
    exact (recv_side_send _ send).1

theorem recvBuf_peekMessage {k : Client} (h : k.Receives) :
    (k.peekMessage pb).2.2.tcpSock.recvBuf = k.tcpSock.recvBuf := by
  have hok := h.buffers.recv.ok
  have hpeek := peekFromRecvQ_eq h.parser hok
  rw [Client.peekMessage, hasNewPkg_eq h.parser hok]
  cases pkgDecoder.next k.tcpSock.recvBuf.content with
  | none => rfl
  | some n =>
    simp only [Option.isSome_some, hpeek]
    split_ifs <;> rfl

/-- A pop takes the package at the head of the queue. -/
theorem content_popMessage {k : Client} (h : k.Receives) {n : Nat}
    (hnext : pkgDecoder.next k.tcpSock.recvBuf.content = some n) :
    k.popMessage.2.tcpSock.recvBuf.content = k.tcpSock.recvBuf.content.drop n := by
  have hpop := popFromRecvQ_some h.parser h.buffers.recv.ok hnext
  rw [← RingBuffer.content_skip, Client.popMessage, hpop]
  dsimp only
  split_ifs <;> rfl

/-- An `Update` puts what arrives into the queue, and announces only what is there. -/
theorem update_received (h : w.object.IsDone) {net : NetOutcome}
    (hpossible : ClientObject.Possible pb w.object (.update net))
    (ho : o = (w.object.call pb (.update net)).2) :
    o.client.tcpSock.recvBuf.content =
        w.object.client.tcpSock.recvBuf.content ++ w.arriving net ∧
      (Announces pb net w → (pkgDecoder.next o.client.tcpSock.recvBuf.content).isSome) := by
  have hcall : w.object.call pb (.update net) = ((w.object.client.update pb net).1,
      { w.object with client := (w.object.client.update pb net).2 }) := by
    rw [ClientObject.call, ClientObject.update_listening h.listening]
  rw [ho, Announces, arriving, hcall]
  dsimp only
  cases hflag : w.object.client.handshakeDone with
  | false =>
    rw [Client.update_first h.done hflag]
    simp [Client.told, Client.callBack]
  | true =>
    obtain ⟨b, hsock, _, _, hcontent⟩ := recv_spec h.ok.buffers.recv.ok hpossible.1
    rw [Client.update_done h.receives h.done hflag hpossible.1]
    have hrecvd : (w.object.client.recvd net.recv).tcpSock.recvBuf.content =
        w.object.client.tcpSock.recvBuf.content ++ net.recv.bytes := by
      rw [Client.recvd, hsock]
      exact hcontent
    have hcalls : (w.object.client.recvd net.recv).calls = w.object.client.calls := rfl
    rw [if_pos rfl]
    split_ifs with hnormal hnext
    · exact ⟨hrecvd, fun heq => by simp [hcalls] at heq⟩
    · exact ⟨hrecvd, fun _ => Option.isSome_iff_ne_none.mpr hnext⟩
    · exact ⟨hrecvd, fun heq => by simp [Client.callBack, hcalls] at heq⟩
    · exact ⟨hrecvd, fun heq => by simp [hcalls] at heq⟩

/-! ## Every frame that arrives is announced or waits -/

theorem inv_start (h : o.IsDone) : Inv (start o) := ⟨h, rfl⟩

/-- A call that leaves the receive queue alone. -/
theorem Inv.of_recvBuf (h : Inv w) (hdone : o.IsDone)
    (hbuf : o.client.tcpSock.recvBuf = w.object.client.tcpSock.recvBuf) :
    Inv { w with object := o } := by
  refine ⟨hdone, ?_⟩
  dsimp only
  rw [hbuf]
  exact h.frames

/-- Bytes arrive behind the others. -/
theorem Inv.arrive (h : Inv w) (hdone : o.IsDone) {data : List UInt8}
    (hcontent : o.client.tcpSock.recvBuf.content =
      w.object.client.tcpSock.recvBuf.content ++ data) :
    Inv { w with object := o, received := w.received ++ data } := by
  refine ⟨hdone, ?_⟩
  dsimp only
  have hbuf := Decoder.split_append stable_pkgDecoder
    w.object.client.tcpSock.recvBuf.content data
  rw [hcontent, Decoder.split_append stable_pkgDecoder, h.frames, hbuf]
  simp only [List.append_assoc]

/-- The frame at the head is announced and popped. -/
theorem Inv.announce (h : Inv w)
    (hsome : (pkgDecoder.next w.object.client.tcpSock.recvBuf.content).isSome) :
    Inv
      { w with
        object := (w.object.call pb .popMessage).2
        announced := w.announced ++ [head w.object] } := by
  obtain ⟨n, hnext⟩ := Option.isSome_iff_exists.mp hsome
  have hreceives := h.isDone.receives
  have hhead : head w.object = w.object.client.tcpSock.recvBuf.content.take n := by
    rw [head, peekFromRecvQ_eq hreceives.parser hreceives.buffers.recv.ok, hnext]
    rfl
  have hpossible : ClientObject.Possible pb w.object .popMessage := trivial
  refine ⟨h.isDone.call hpossible rfl, ?_⟩
  have hframes := h.frames
  rw [Decoder.split_of_some hnext] at hframes
  dsimp only [ClientObject.call] at hframes ⊢
  rw [content_popMessage hreceives hnext, hhead, hframes]
  simp only [List.append_assoc, List.singleton_append]

theorem Inv.step {e : ClientCall} (h : Inv w) (hstep : ListeningClient.step pb w e = some w') :
    Inv w' := by
  cases e with
  | update net =>
    obtain ⟨o, ho, rfl⟩ := Option.map_eq_some_iff.mp hstep
    obtain ⟨hpossible, hobject⟩ := ClientObject.step_some ho
    obtain ⟨hcontent, hannounces⟩ := update_received h.isDone hpossible hobject
    have hdone : o.IsDone := hobject ▸ h.isDone.call hpossible rfl
    have harrived := h.arrive hdone hcontent
    split_ifs with hcalled
    · exact harrived.announce (hannounces hcalled)
    · exact harrived
  | pushMessage data send =>
    obtain ⟨o, ho, rfl⟩ := Option.map_eq_some_iff.mp hstep
    obtain ⟨hpossible, rfl⟩ := ClientObject.step_some ho
    exact h.of_recvBuf (h.isDone.call hpossible rfl) (recvBuf_pushMessage _ _ _)
  | peekMessage =>
    rw [ListeningClient.step] at hstep
    obtain ⟨o, ho, rfl⟩ := Option.map_eq_some_iff.mp hstep
    obtain ⟨hpossible, rfl⟩ := ClientObject.step_some ho
    exact h.of_recvBuf (h.isDone.call hpossible rfl) (recvBuf_peekMessage h.isDone.receives)
  | elsewhere =>
    rw [ListeningClient.step] at hstep
    obtain ⟨o, ho, rfl⟩ := Option.map_eq_some_iff.mp hstep
    obtain ⟨hpossible, rfl⟩ := ClientObject.step_some ho
    exact h.of_recvBuf (h.isDone.call hpossible rfl) rfl
  | start settings fd => cases hstep
  | terminate => cases hstep
  | resume fd => cases hstep
  | popMessage => cases hstep

/-- No frame is late exactly when none waits. -/
theorem Inv.prompt_iff {e : ClientCall} (h : Inv w)
    (hstep : ListeningClient.step pb w e = some w') : Prompt pb w e ↔ NoneWaits w e := by
  cases e with
  | update net =>
    obtain ⟨o, ho, _⟩ := Option.map_eq_some_iff.mp hstep
    obtain ⟨hpossible, _⟩ := ClientObject.step_some ho
    simp only [Prompt, NoneWaits]
    rw [h.isDone.tellsClose_iff hpossible.1, h.frames]
    refine imp_congr_right fun _ => ?_
    rw [List.append_right_eq_self]
    cases hnext : pkgDecoder.next w.object.client.tcpSock.recvBuf.content with
    | none => simp [Decoder.split_of_none hnext]
    | some n => simp [Decoder.split_of_some hnext]
  | _ => exact Iff.rfl

theorem Inv.along_iff (h : Inv w) {es : List ClientCall}
    (hrun : Run.run (ListeningClient.step pb) w es = some w') :
    Run.Along (ListeningClient.step pb) (Prompt pb) w es ↔
      Run.Along (ListeningClient.step pb) NoneWaits w es :=
  Run.along_iff_of_run (I := Inv) (fun _ _ _ hinv hstep => hinv.step hstep)
    (fun _ _ _ hinv hstep => hinv.prompt_iff hstep) h hrun

/-- In a run of a client whose session is done, every frame that arrived before the close is announced
before `OnServerClose` exactly when no complete frame waits in the queue whenever `Update` finds
the close. -/
theorem prompt_run_iff (h : ClientObject.Reachable pb o)
    (hdone : o.client.sessionState = .sessionStateDone) {es : List ClientCall}
    (hrun : Run.run (step pb) (start o) es = some w) :
    Run.Along (step pb) (Prompt pb) (start o) es ↔
      Run.Along (step pb) NoneWaits (start o) es :=
  (inv_start ⟨h.ok, hdone⟩).along_iff hrun

instance (w : ListeningClient) : ∀ e, Decidable (NoneWaits w e)
  | .update _ => inferInstanceAs (Decidable (_ ∧ _ ∧ _ → _))
  | .start _ _ => isTrue trivial
  | .terminate => isTrue trivial
  | .resume _ => isTrue trivial
  | .pushMessage _ _ => isTrue trivial
  | .peekMessage => isTrue trivial
  | .popMessage => isTrue trivial
  | .elsewhere => isTrue trivial

/-- The frame of a payload of one byte. -/
def oneByte (byte : UInt8) : List UInt8 :=
  Client.frame Wire.protobuf
    { head := { bodyid := CSBodyCmdId.dataTransparent.value }, body := { data := some [byte] } }

/-- Two frames arrive one after the other, then the close. -/
def apart : List ClientCall :=
  [.update {}, .update { recv := .received (oneByte 1) },
    .update { recv := .received (oneByte 2) }, .update { recv := .received [] }]

theorem prompt_apart : ∃ o w,
    Run.run (ClientObject.step Wire.protobuf) (.new false) ClientObject.established = some o ∧
      Run.run (step Wire.protobuf) (start o) apart = some w ∧
      Run.Along (step Wire.protobuf) (Prompt Wire.protobuf) (start o) apart := by
  have hfacts : (Run.run (ClientObject.step Wire.protobuf) (.new false)
      ClientObject.established).map (fun o => decide
        (o.client.sessionState = .sessionStateDone ∧
          (Run.run (step Wire.protobuf) (start o) apart).isSome = true ∧
          Run.Along (step Wire.protobuf) NoneWaits (start o) apart)) = some true := by
    decide +kernel
  obtain ⟨o, ho, hdecide⟩ := Option.map_eq_some_iff.mp hfacts
  obtain ⟨hdone, hsome, hnone⟩ := of_decide_eq_true hdecide
  obtain ⟨w, hrun⟩ := Option.isSome_iff_exists.mp hsome
  exact ⟨o, w, ho, hrun, (prompt_run_iff ⟨_, _, ho⟩ hdone hrun).mpr hnone⟩

/-- Two frames arrive with one `recv`, and the close right behind them. -/
def together : List ClientCall :=
  [.update {}, .update { recv := .received (oneByte 1 ++ oneByte 2) },
    .update { recv := .received [] }]

/-- `OnServerClose` is called while the second frame waits. -/
theorem frame_behind_close : ¬ ∀ (pb : Protobuf) (o : ClientObject) (es : List ClientCall)
    (w : ListeningClient), ClientObject.Reachable pb o →
    o.client.sessionState = .sessionStateDone → Run.run (step pb) (start o) es = some w →
    Run.Along (step pb) (Prompt pb) (start o) es := by
  intro h
  have hfacts : (Run.run (ClientObject.step Wire.protobuf) (.new false)
      ClientObject.established).map (fun o => decide
        (o.client.sessionState = .sessionStateDone ∧
          (Run.run (step Wire.protobuf) (start o) together).isSome = true ∧
          ¬ Run.Along (step Wire.protobuf) NoneWaits (start o) together)) = some true := by
    decide +kernel
  obtain ⟨o, ho, hdecide⟩ := Option.map_eq_some_iff.mp hfacts
  obtain ⟨hdone, hsome, hwaits⟩ := of_decide_eq_true hdecide
  obtain ⟨w, hrun⟩ := Option.isSome_iff_exists.mp hsome
  have hreachable : ClientObject.Reachable Wire.protobuf o := ⟨_, _, ho⟩
  have hinv := inv_start ⟨hreachable.ok, hdone⟩
  exact hwaits ((hinv.along_iff hrun).mp (h _ o _ w hreachable hdone hrun))

end ListeningClient

end Rapidapp.Connector
