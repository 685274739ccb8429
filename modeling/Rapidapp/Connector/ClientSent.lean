import Rapidapp.Connector.ClientSequence

/-!
# What was sent stays sent

No call of the client takes back bytes that the kernel has.
-/

namespace Rapidapp.Connector

open TSocketUtil

namespace Client

variable {pb : Protobuf} {k k' k'' : Client} {m : CSMsg}

/-- The bytes that were sent are still the first ones. -/
def Sends (k k' : Client) : Prop := k.sent <+: k'.sent

theorem Sends.refl (k : Client) : Sends k k := List.prefix_refl _

theorem Sends.trans (h : Sends k k') (h' : Sends k' k'') : Sends k k'' := List.IsPrefix.trans h h'

theorem Quiet.sends (h : Quiet k k') : Sends k k' := by
  simp only [Sends, h.sent, List.prefix_refl]

theorem sends_serializeAndSendToPeer (pb : Protobuf) (k : Client) (m : CSMsg)
    (outcome : SendOutcome) : Sends k (k.serializeAndSendToPeer pb m outcome).2 := by
  rw [serializeAndSendToPeer]
  generalize k.tcpSock.pushvToSendQ (iov pb m) = push
  obtain ⟨ret, sock⟩ := push
  dsimp only
  generalize sock.send outcome = send
  obtain ⟨ret', bytes, sock'⟩ := send
  dsimp only
  split_ifs
  · exact List.prefix_refl k.sent
  · exact List.prefix_append k.sent bytes
  · exact List.prefix_append k.sent bytes

theorem sends_sendHandShake (pb : Protobuf) (k : Client) (m : CSMsg) (state : ClientState)
    (outcome : SendOutcome) : Sends k (k.sendHandShake pb m state outcome).2 := by
  have h : Sends k (k.countSeqno.serializeAndSendToPeer pb m outcome).2 :=
    sends_serializeAndSendToPeer pb k.countSeqno m outcome
  rw [sendHandShake]
  generalize k.countSeqno.serializeAndSendToPeer pb m outcome = send at h ⊢
  obtain ⟨ret, k'⟩ := send
  dsimp only at h ⊢
  split_ifs
  · exact h
  · exact h

theorem sends_driveState {net : NetOutcome} (hcheck : 0 ≤ net.check) {ret busy : Int}
    (hdrive : k.driveState pb net = some (ret, busy, k')) : Sends k k' := by
  have hdriven := driveState_cases hdrive
  generalize k.makes pb (.update net) = made at hdriven
  have hrecv := k.tcpSock.sendBuf_recv net.recv
  have hhas := (k.tcpSock.recv net.recv).2.sendBuf_hasNewPkg.trans hrecv
  cases hdriven with
  | connect => exact (k.quiet_connect net.connectFd).sends
  | connecting => exact (k.quiet_checkConnect hcheck).sends
  | syn => exact (k.quiet_checkConnect hcheck).sends.trans (sends_sendHandShake pb _ _ _ _)
  | noAck => exact (k.quiet_handShakeTryAck pb net.recv).sends
  | ackFails => exact (k.quiet_handShakeTryAck pb net.recv).sends
  | auth => exact (k.quiet_handShakeTryAck pb net.recv).sends.trans (sends_sendHandShake pb _ _ _ _)
  | tryReady => exact (k.quiet_handShakeTryReady pb net.recv).sends
  | tryDone => exact (k.quiet_handShakeTryDone pb net.recv).sends
  | succeed => exact List.prefix_refl _
  | recvFails => exact (k.quiet_sock hrecv).sends
  | noPkg => exact (k.quiet_sock hhas).sends
  | incoming => exact List.prefix_refl _

theorem sends_update {net : NetOutcome} (hcheck : 0 ≤ net.check) :
    Sends k (k.update pb net).2 := by
  rw [update]
  cases hdrive : k.driveState pb net with
  | none => exact Sends.refl k
  | some out =>
    obtain ⟨ret, busy, k₁⟩ := out
    have h := sends_driveState hcheck hdrive
    dsimp only
    split_ifs
    · exact h.trans (quiet_callBack _ _).sends
    · exact h.trans (quiet_callBack _ _).sends
    · exact h
    · exact h

/-- A call that a working connection sees. -/
theorem sends_clientStep {e : ClientEvent} (hstep : clientStep pb k e = some k') :
    Sends k k' := by
  cases e with
  | update net =>
    rw [clientStep] at hstep
    split_ifs at hstep with hcheck
    rw [← Option.some.inj hstep]
    exact sends_update hcheck
  | pushMessage data send =>
    cases hstep
    by_cases hdata : data.length = 0
    · rw [pushMessage_empty hdata]
      exact Sends.refl k
    · rw [pushMessage_snd hdata]
      exact sends_serializeAndSendToPeer pb k.countSeqno (k.dataMsg data) send
  | peekMessage => cases hstep; exact (k.quiet_peekMessage pb).sends
  | popMessage => cases hstep; exact k.quiet_popMessage.sends

end Client

end Rapidapp.Connector
