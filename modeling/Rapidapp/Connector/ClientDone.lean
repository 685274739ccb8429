import Rapidapp.Connector.ClientPush

/-!
# A client whose connection is lost

The state `SESSION_STATE_DONE` of `client_api/connector_client_api_imp.cpp:430-481`. `Update` calls
`OnServerClose` for one of the values that `Recv` returns, `PEER_CLOSED`; a `Recv` or a `Send` that
has failed returns `NORMAL` from then on. So the application is not told of most losses, and goes
on to queue messages.
-/

namespace Rapidapp.Connector

open TSocketUtil

/-! ## `Update` when the session is done -/

namespace Client

variable {pb : Protobuf} {k : Client}

/-- `OnHandShakeSucceed`, and the static variable is set. -/
def told (k : Client) : Client :=
  { k.callBack .onHandShakeSucceed with handshakeDone := true }

theorem update_first (hstate : k.sessionState = .sessionStateDone)
    (hflag : k.handshakeDone = false) (net : NetOutcome) : k.update pb net = (1, k.told) := by
  have hdrive : k.driveState pb net = some (0, 1, k.told) := by
    rw [driveState]
    simp only [hstate, hflag, if_true]
    rfl
  rw [update, hdrive]
  rfl

/-- The client after `Recv`. -/
def recvd (outcome : RecvOutcome) (k : Client) : Client :=
  { k with tcpSock := (k.tcpSock.recv outcome).2 }

/-- What an `Update` does when the application is told: it receives, and makes at most one call. -/
theorem update_done (h : k.Receives) (hstate : k.sessionState = .sessionStateDone)
    (hflag : k.handshakeDone = true) {net : NetOutcome}
    (hdata : net.recv.bytes.length ≤ offered k.tcpSock) :
    k.update pb net =
      if (k.tcpSock.recv net.recv).1 = normal then
        if pkgDecoder.next (k.recvd net.recv).tcpSock.recvBuf.content = none then
          (0, k.recvd net.recv)
        else (1, (k.recvd net.recv).callBack .onIncoming)
      else if (k.tcpSock.recv net.recv).1 = peerClosed then
        (-1, (k.recvd net.recv).callBack .onServerClose)
      else (0, k.recvd net.recv) := by
  have hok : (k.tcpSock.recv net.recv).2.recvBuf.Ok :=
    ((keeps_recv hdata).buffers h.buffers).recv.ok
  have hhas := hasNewPkg_eq ((parser_recv k.tcpSock net.recv).trans h.parser) hok
  unfold recvd
  rcases hr : k.tcpSock.recv net.recv with ⟨ret, sock⟩
  rw [hr] at hhas
  dsimp only at hhas ⊢
  by_cases hret : ret = normal
  · rw [if_pos hret]
    have hdrive : k.driveState pb net =
        if pkgDecoder.next sock.recvBuf.content = none then
          some (normal, 0, { k with tcpSock := sock })
        else some (normal, 1, { k with tcpSock := sock }.callBack .onIncoming) := by
      rw [driveState]
      simp only [hstate, hflag, hr, hret, hhas, reduceCtorEq, if_true, if_false]
      cases pkgDecoder.next sock.recvBuf.content with
      | none => rfl
      | some n => rfl
    rw [update, hdrive]
    split_ifs <;> rfl
  · have hdrive : k.driveState pb net = some (ret, 0, { k with tcpSock := sock }) := by
      rw [driveState]
      simp only [hstate, hflag, hr, hret, reduceCtorEq, if_false]
    rw [update, hdrive, if_neg hret]
    simp only [hstate, hret, ne_eq, not_false_eq_true, not_true, if_true, if_false]

theorem sessionState_update (h : k.Receives) (hstate : k.sessionState = .sessionStateDone)
    {net : NetOutcome} (hdata : net.recv.bytes.length ≤ offered k.tcpSock) :
    (k.update pb net).2.sessionState = .sessionStateDone := by
  cases hflag : k.handshakeDone with
  | false =>
    rw [update_first hstate hflag]
    exact hstate
  | true =>
    rw [update_done h hstate hflag hdata]
    split_ifs <;> exact hstate

/-- A `recv` or a `send` has failed for good, or the peer has closed. -/
def Lost (k : Client) : Prop :=
  k.tcpSock.socketState = .netSendFailed ∨ k.tcpSock.socketState = .netRecvFailed ∨
    k.tcpSock.socketState = .netPeerClosed

instance (k : Client) : Decidable k.Lost := inferInstanceAs (Decidable (_ ∨ _ ∨ _))

/-- The `Update` calls `recv`, and `recv` says that the peer has closed. -/
def FindsClose (net : NetOutcome) (k : Client) : Prop :=
  k.handshakeDone = true ∧ 0 < offered k.tcpSock ∧ net.recv = .received []

/-- On a connection that is lost `Send` fails only if the kernel does, and only if it has not done
so before. -/
theorem sendsOn_lost (hlost : k.Lost) {m : CSMsg} (h : k.tcpSock.sendBuf.Ok)
    (hint : (frame pb m).length < 2 ^ 31) (hrefuses : ¬ k.Refuses pb m) (send : SendOutcome) :
    SendsOn send (k.withFrame pb m) ↔
      k.tcpSock.socketState = .netSendFailed ∨ send ≠ .failed := by
  have hfit : ((frame pb m).length : Int) ≤ k.tcpSock.sendBuf.avaiable := by
    rw [Refuses, CInt.int32_of_range (by omega) (by omega)] at hrefuses
    exact not_lt.mp hrefuses
  rw [frame] at hfit
  have hok : (k.withFrame pb m).sendBuf.Ok := by
    rw [withFrame, frame]
    exact (k.tcpSock.pushvToSendQ_fits h hfit).2
  have hlen := hok.datalen_eq
  have hcontent : (k.withFrame pb m).sendBuf.content = k.tcpSock.sendBuf.content ++ frame pb m :=
    RingBuffer.content_append h _
  have hpos : 0 < (frame pb m).length := List.length_pos_iff.mpr (frame_ne_nil pb m)
  rw [hcontent, List.length_append] at hlen
  have hnonneg : 0 ≤ (k.withFrame pb m).sendBuf.datalen := by omega
  have hne : (k.withFrame pb m).sendBuf.datalen ≠ 0 := by omega
  have hstate : (k.withFrame pb m).socketState = k.tcpSock.socketState := rfl
  rw [SendsOn, hstate]
  simp only [hnonneg, hne, true_and, false_or]
  obtain hsend | hrecv | hclosed := hlost
  · simp [hsend]
  · simp [hrecv]
  · simp [hclosed]

end Client

/-! ## What the application is told -/

/-- The call does not end the session or begin another. -/
def ClientCall.staysDone : ClientCall → Bool
  | .start _ _ => false
  | .terminate => false
  | .resume _ => false
  | _ => true

namespace ClientObject

variable {pb : Protobuf} {o : ClientObject}

/-- The call returns `-1` after `OnServerClose`. -/
def TellsClose (pb : Protobuf) (e : ClientCall) (o : ClientObject) : Prop :=
  (o.call pb e).1 = -1 ∧ (o.call pb e).2.client.calls = o.client.calls ++ [.onServerClose]

instance (pb : Protobuf) (e : ClientCall) (o : ClientObject) : Decidable (TellsClose pb e o) :=
  inferInstanceAs (Decidable (_ ∧ _))

/-- An object whose session is done. -/
structure IsDone (o : ClientObject) : Prop where
  ok : o.Ok
  done : o.client.sessionState = .sessionStateDone

theorem IsDone.listening (h : o.IsDone) : o.listening = true := by
  apply h.ok.listening
  · rw [h.done]
    decide
  · rw [h.done]
    decide

theorem IsDone.receives (h : o.IsDone) : o.client.Receives := h.ok.receives h.listening

/-- A session that is done stays so until `Start`, `Terminate` or `Resume`. -/
theorem IsDone.call {e : ClientCall} (h : o.IsDone) (hpossible : Possible pb o e)
    (hstays : e.staysDone = true) : (o.call pb e).2.IsDone := by
  refine ⟨h.ok.call hpossible, ?_⟩
  rw [← h.done]
  cases e with
  | update net =>
    rw [ClientObject.call, update_listening h.listening, h.done]
    exact Client.sessionState_update h.receives h.done hpossible.1
  | pushMessage data send => exact o.client.sessionState_pushMessage data send
  | peekMessage => exact o.client.sessionState_peekMessage
  | popMessage => exact o.client.sessionState_popMessage
  | elsewhere => rfl
  | start settings fd => cases hstays
  | terminate => cases hstays
  | resume fd => cases hstays

/-- `OnServerClose` is called when `recv` finds the close, and only then. -/
theorem IsDone.tellsClose_iff (h : o.IsDone) {net : NetOutcome}
    (hdata : net.recv.bytes.length ≤ offered o.client.tcpSock) :
    TellsClose pb (.update net) o ↔ o.client.FindsClose net := by
  rw [TellsClose, ClientObject.call, update_listening h.listening]
  rw [Client.FindsClose, ← recv_peerClosed_iff h.ok.buffers.recv.ok net.recv]
  dsimp only
  cases hflag : o.client.handshakeDone with
  | false =>
    rw [Client.update_first h.done hflag]
    simp
  | true =>
    rw [Client.update_done h.receives h.done hflag hdata]
    by_cases hnormal : (o.client.tcpSock.recv net.recv).1 = normal
    · have hne : normal ≠ peerClosed := by decide
      rw [if_pos hnormal]
      split_ifs <;> simp [hnormal, hne]
    · rw [if_neg hnormal]
      split_ifs with hclosed
      · simp [hclosed, Client.callBack, Client.recvd]
      · simp [hclosed]

end ClientObject

/-- A client over its whole life. Ghost: `surfaced` says that an `Update` has called `OnServerClose`
since the session came to `SESSION_STATE_DONE`. -/
structure DoneClient where
  object : ClientObject
  surfaced : Bool

namespace DoneClient

variable (pb : Protobuf)

/-- The session is done. -/
def Done (w : DoneClient) : Prop := w.object.client.sessionState = .sessionStateDone

instance (w : DoneClient) : Decidable w.Done := inferInstanceAs (Decidable (_ = _))

def step (w : DoneClient) (e : ClientCall) : Option DoneClient :=
  (w.object.step pb e).map fun o =>
    ⟨o, decide (o.client.sessionState = .sessionStateDone) &&
      (w.surfaced || decide (ClientObject.TellsClose pb e w.object))⟩

/-- The loss is surfaced: after it the next `Update` returns `-1` behind `OnServerClose`, unless an
earlier one has done so, and every `PushMessage` fails. -/
def Reported (w : DoneClient) : ClientCall → Prop
  | .update net =>
    w.Done → w.object.client.Lost → w.surfaced = false →
      ClientObject.TellsClose pb (.update net) w.object
  | .pushMessage data send =>
    w.Done → w.object.client.Lost → (w.object.call pb (.pushMessage data send)).1 ≠ 0
  | _ => True

instance (w : DoneClient) : ∀ e, Decidable (Reported pb w e)
  | .update _ => inferInstanceAs (Decidable (_ → _ → _ → _))
  | .pushMessage _ _ => inferInstanceAs (Decidable (_ → _ → _))
  | .start _ _ => isTrue trivial
  | .terminate => isTrue trivial
  | .resume _ => isTrue trivial
  | .peekMessage => isTrue trivial
  | .popMessage => isTrue trivial
  | .elsewhere => isTrue trivial

/-- The `Update` after a loss that is not surfaced finds the peer's close, which takes a socket that
only `Send` has failed on; what is pushed after a loss has no bytes, or does not fit, or goes to a
`send` that fails once more. -/
def CanReport (w : DoneClient) : ClientCall → Prop
  | .update net =>
    w.Done → w.object.client.Lost → w.surfaced = false → w.object.client.FindsClose net
  | .pushMessage data send =>
    w.Done → w.object.client.Lost → data.length = 0 ∨
      w.object.client.Refuses pb (w.object.client.dataMsg data) ∨
      w.object.client.tcpSock.socketState ≠ .netSendFailed ∧ send = .failed
  | _ => True

instance (w : DoneClient) : ∀ e, Decidable (CanReport pb w e)
  | .update _ => inferInstanceAs (Decidable (_ → _ → _ → _ ∧ _ ∧ _))
  | .pushMessage _ _ => inferInstanceAs (Decidable (_ → _ → _ ∨ _ < _ ∨ _ ∧ _))
  | .start _ _ => isTrue trivial
  | .terminate => isTrue trivial
  | .resume _ => isTrue trivial
  | .peekMessage => isTrue trivial
  | .popMessage => isTrue trivial
  | .elsewhere => isTrue trivial

/-! ## When it is told -/

variable {pb} {w w' : DoneClient}

theorem step_some {e : ClientCall} (hstep : step pb w e = some w') :
    ClientObject.step pb w.object e = some w'.object := by
  obtain ⟨o, ho, rfl⟩ := Option.map_eq_some_iff.mp hstep
  exact ho

/-- A call surfaces the loss exactly under the condition. -/
theorem reported_iff {e : ClientCall} (h : w.object.Ok) (hstep : step pb w e = some w') :
    Reported pb w e ↔ CanReport pb w e := by
  obtain ⟨hpossible, _⟩ := ClientObject.step_some (step_some hstep)
  cases e with
  | update net =>
    refine imp_congr_right fun hdone => ?_
    rw [ClientObject.IsDone.tellsClose_iff ⟨h, hdone⟩ hpossible.1]
  | pushMessage data send =>
    refine imp_congr_right fun hdone => imp_congr_right fun hlost => ?_
    rw [ClientObject.call]
    dsimp only
    rw [Client.pushMessage_ne_zero_iff]
    refine or_congr_right' fun hdata => or_congr_right' fun hrefuses => ?_
    have hint := hpossible _ (if_neg hdata)
    rw [Client.sendsOn_lost hlost h.buffers.send.ok hint hrefuses, not_or, not_not]
  | _ => exact Iff.rfl

/-- Before `Start`. -/
def new : DoneClient := ⟨.new false, false⟩

/-- The peer closes, and what is pushed behind that meets a `send` that fails. -/
def peerCloses : List ClientCall :=
  ClientObject.established ++
    [.update {}, .update { recv := .received [] }, .pushMessage [1] .failed]

/-- `recv` fails, `Update` is called twice more, and a payload is pushed. -/
def recvFails : List ClientCall :=
  ClientObject.established ++
    [.update {}, .update { recv := .failed }, .update {}, .update {}, .pushMessage [1] (.sent 100)]

/-- `send` fails, and two payloads are pushed. -/
def sendFails : List ClientCall :=
  ClientObject.established ++
    [.update {}, .pushMessage [1] .failed, .pushMessage [2] (.sent 100)]

end DoneClient

end Rapidapp.Connector
