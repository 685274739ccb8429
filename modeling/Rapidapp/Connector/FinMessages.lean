import Rapidapp.Framework.RpcCalls
import Rapidapp.Connector.Handshake

/-!
# FIN of a backend server

`OnRecvBackEnd` (`server/connector/connector_app.cpp:314-336`) hands a `FIN` to
`DriveStateMachine` as it does every other message that is not `DATA`, and `DriveStateMachine`
looks only at the state of the session. A session that is ready is ended by it
(`HandShake_OnStopNotify`). For any other session the `FIN` is the message that takes the
handshake on, unless what the session has to send then cannot be sent.
-/

namespace Rapidapp

namespace World

variable {σ γ : Type}

/-- The bytes are some, and the connection takes them. -/
def Accepts (w : World σ γ) (p : NetPtr) (buf : List UInt8) : Prop := buf ≠ [] ∧ w.heap.Takes p

/-- What `SendToFrontEnd` returns. -/
theorem sendToFrontEnd_eq_zero (w : World σ γ) (p : NetPtr) (buf : List UInt8) :
    (w.sendToFrontEnd (some p) buf).1 = 0 ↔ w.Accepts p buf := by
  unfold sendToFrontEnd Accepts
  by_cases hbuf : buf = []
  · simp [hbuf]
  · have hok := w.heap.send_ok_iff p hbuf
    rcases hs : w.heap.send p buf with ⟨r, h⟩
    rw [hs] at hok
    cases r <;> simp_all

/-- What `SendToBackEnd` returns. -/
theorem sendToBackEnd_eq_zero (w : World σ γ) (p : NetPtr) (buf : List UInt8) :
    (w.sendToBackEnd (some p) buf).1 = 0 ↔ w.Accepts p buf := by
  unfold sendToBackEnd Accepts
  by_cases hbuf : buf = []
  · simp [hbuf]
  · have hok := w.heap.send_ok_iff p hbuf
    rcases hs : w.heap.send p buf with ⟨r, h⟩
    rw [hs] at hok
    cases r with
    | easyNetOk =>
      have htakes := hok.mp rfl
      simp only [hbuf, if_false, hs]
      cases h.nets p <;> simp [htakes, hbuf]
    | easyNetErrNotYetEstablished => simp_all
    | easyNetErrEstablishFailed => simp_all
    | easyNetErrSendError => simp_all

end World

end Rapidapp

namespace Rapidapp.Connector

open World ConnectorSession

/-! ## What a FIN is for -/

/-- The messages of the handshake that go to the client. -/
def handshakeMsgs : List CSMsg := [keyMakingMsg, authMsg, startAckedMsg]

/-- Between `w` and `w'` the message was sent to the client of `p`: its frame, and no more, was
added to the output of the connection. -/
def SentToClient (pb : Protobuf) (p : NetPtr) (msg : CSMsg) (w w' : ConnectorWorld) : Prop :=
  ∃ n n' b e e', w.heap.Live p n b e ∧ w'.heap.Live p n' b e' ∧
    e'.output = e.output ++
      (Heap.lengthHeader (pb.serializeCSMsg msg).length ++ pb.serializeCSMsg msg)

/-- The connection `p` and its session were ended: the connection is closed, the client was sent
nothing of the handshake, and the session did not move. -/
structure Ended (pb : Protobuf) (p : NetPtr) (w w' : ConnectorWorld) : Prop where
  closed : w'.heap.nets p = none
  unanswered : ∀ msg ∈ handshakeMsgs, ¬ SentToClient pb p msg w w'
  stays : ∀ s s', w.getUserContext p = some s → w'.getUserContext p = some s' →
    s'.state = s.state

/-- A `FIN` of a backend that carries the ids of a frontend. -/
def ConnectorApp.finFor (c : ConnectorApp) (w : ConnectorWorld) (msg : List UInt8) (size : Nat) :
    Option NetPtr :=
  let downMsg := c.pb.parseSSMsg msg size
  if downMsg.head.bodyid = SSBodyCmdId.fin.value then
    w.getFrontEndByAsyncIds downMsg.head.session.fd.toNat downMsg.head.session.nid.toNat
  else none

/-- If this event is a `FIN` for a frontend, it ends it. -/
def FinEnds (c : ConnectorApp) (w : ConnectorWorld) : Event → Prop
  | .backEndMsg msg size =>
    ∀ p, c.finFor w msg size = some p → Ended c.pb p w (c.onRecvBackEnd msg size w).2
  | _ => True

/-! ## When it does that -/

/-- The session `s` of `p` is not ready, and what it sends next in the handshake can be sent. -/
def ConnectorSession.CanGoOn (pb : Protobuf) (p : NetPtr) (w : ConnectorWorld)
    (s : ConnectorSession) : Prop :=
  match s.state with
  | .stateInit => w.Accepts p (pb.serializeCSMsg keyMakingMsg)
  | .stateAuth => w.Accepts p (pb.serializeCSMsg authMsg)
  | .stateSyning => s.frameStub = true ∧
    ∃ q, w.app.next.1 = some q ∧ w.Accepts q (pb.serializeSSMsg (s.startMsg w))
  | .stateSynack => w.Accepts p (pb.serializeCSMsg startAckedMsg)
  | .stateOk => False

/-- If this event is a `FIN` for a frontend, the frontend has a session, and this session cannot
go on with the handshake. -/
def FinFits (c : ConnectorApp) (w : ConnectorWorld) : Event → Prop
  | .backEndMsg msg size =>
    ∀ p, c.finFor w msg size = some p → ∃ s, w.getUserContext p = some s ∧ ¬ s.CanGoOn c.pb p w
  | _ => True

variable (pb : Protobuf) {w w' : ConnectorWorld} {p : NetPtr} {s : ConnectorSession}

/-- What `SerializeAndSendToFrontEnd` returns, and with it the handlers that answer the client. -/
theorem answerFrontEnd_eq_zero (hstub : s.netStub = some p) (msg : CSMsg)
    (state : SessionState) :
    (answerFrontEnd pb p s msg state w).1 = 0 ↔ w.Accepts p (pb.serializeCSMsg msg) := by
  rw [← sendToFrontEnd_eq_zero]
  unfold answerFrontEnd serializeAndSendToFrontEnd
  rw [hstub]
  rcases w.sendToFrontEnd (some p) (pb.serializeCSMsg msg) with ⟨ret, w₁⟩
  by_cases hret : ret = 0 <;> simp [hret]

/-- What `StartToBackEnd` returns. -/
theorem startToBackEnd_eq_zero (backNet : Option NetPtr) :
    (startToBackEnd pb s backNet w).1 = 0 ↔ s.frameStub = true ∧
      ∃ q, backNet = some q ∧ w.Accepts q (pb.serializeSSMsg (s.startMsg w)) := by
  unfold startToBackEnd
  cases s.frameStub with
  | false => simp
  | true =>
    cases backNet with
    | none => simp
    | some q =>
      have hsend := sendToBackEnd_eq_zero w q (pb.serializeSSMsg (s.startMsg w))
      rcases hr : w.sendToBackEnd (some q) (pb.serializeSSMsg (s.startMsg w)) with ⟨ret, w₁⟩
      rw [hr] at hsend
      by_cases hret : ret = 0
      · simpa [hr, hret] using hsend.mp hret
      · simpa [hr, hret] using fun h => hret (hsend.mpr h)

/-- What `HandShake_StartSession` returns. -/
theorem handShakeStartSession_eq_zero :
    (handShakeStartSession pb p s w).1 = 0 ↔ s.frameStub = true ∧
      ∃ q, w.app.next.1 = some q ∧ w.Accepts q (pb.serializeSSMsg (s.startMsg w)) := by
  -- the message does not depend on whose turn it is
  have hstart : (startToBackEnd pb s w.app.next.1 { w with app := w.app.next.2 }).1 = 0 ↔ _ :=
    startToBackEnd_eq_zero pb w.app.next.1
  refine Iff.trans ?_ hstart
  simp only [handShakeStartSession]
  rcases startToBackEnd pb s w.app.next.1 { w with app := w.app.next.2 } with ⟨ret, w₁⟩
  by_cases hret : ret = 0 <;> simp [hret]

/-- `DriveStateMachine` fails for a session that is not ready and cannot go on. -/
theorem driveStateMachine_eq_zero (hs : w.getUserContext p = some s)
    (hstub : s.netStub = some p) (hne : s.state ≠ .stateOk) :
    (driveStateMachine pb p w).1 = 0 ↔ s.CanGoOn pb p w := by
  unfold driveStateMachine ConnectorSession.CanGoOn
  simp only [hs]
  cases hst : s.state with
  | stateInit => exact answerFrontEnd_eq_zero pb hstub _ _
  | stateAuth => exact answerFrontEnd_eq_zero pb hstub _ _
  | stateSyning => exact handShakeStartSession_eq_zero pb
  | stateSynack => exact answerFrontEnd_eq_zero pb hstub _ _
  | stateOk => exact absurd hst hne

/-- The session id is set in the session and nowhere else. -/
theorem getUserContext_setSid (hs : w.getUserContext p = some s) (sid : UInt32) (h : Inv w) :
    (ConnectorApp.setSid p sid w).getUserContext p = some { s with sid := sid } := by
  unfold ConnectorApp.setSid
  simp only [hs]
  exact (Effect.setUserContext h { s with sid := sid } hs rfl).2

theorem setSid_of_none (hs : w.getUserContext p = none) (sid : UInt32) :
    ConnectorApp.setSid p sid w = w := by
  rw [ConnectorApp.setSid, hs]

/-- A `FIN` closes the connection of every session that cannot go on, and of no other. -/
theorem relayToFrontEnd_closes {c : ConnectorApp} (h : Inv w) (hs : w.getUserContext p = some s)
    {downMsg : SSMsg} (hfin : downMsg.head.bodyid = SSBodyCmdId.fin.value) :
    (c.relayToFrontEnd p s downMsg w).2.heap.nets p = none ↔ ¬ s.CanGoOn c.pb p w := by
  obtain ⟨hstub, hfront⟩ := h.session hs
  have hdata : SSBodyCmdId.fin.value ≠ SSBodyCmdId.data.value := by decide
  unfold ConnectorApp.relayToFrontEnd
  simp only [hfin, hdata, ne_eq, not_true, false_and, not_false_eq_true, if_true, if_false]
  by_cases hok : s.state = .stateOk
  · -- `HandShake_OnStopNotify`
    have hnets := nets_destroyFrontEnd h.ok hfront
    have hcontext := getUserContext_destroyFrontEnd h p
    have hdrive : driveStateMachine c.pb p w = (0, w.destroyFrontEnd (some p)) := by
      simp only [driveStateMachine, hs, hok, handShakeOnStopNotify, hstub]
    rw [hdrive]
    simp only [lt_irrefl, if_false, setSid_of_none hcontext]
    exact iff_of_true hnets (by simp [ConnectorSession.CanGoOn, hok])
  have hzero := driveStateMachine_eq_zero c.pb hs hstub hok
  obtain ⟨ret, w₁, hrun, he, ⟨rfl, _, hcontext⟩ | ⟨rfl, _⟩ | ⟨_, hok', _⟩⟩ :=
    driveStateMachine_spec c.pb h hs
  · -- the handshake has gone on
    rw [hrun] at hzero ⊢
    simp only [lt_irrefl, if_false]
    refine iff_of_false ?_ (not_not.mpr (hzero.mp rfl))
    intro hnone
    have hsid := getUserContext_setSid hcontext downMsg.head.session.sid (he.inv h)
    rw [World.getUserContext, hnone] at hsid
    cases hsid
  · have hneg : (-1 : Int) < 0 := by decide
    rw [hrun] at hzero ⊢
    simp only [hneg, if_true]
    refine iff_of_true ?_ fun hgo => ?_
    · exact Effect.nets_destroyFrontEnd h he hfront
    · have hret : (-1 : Int) = 0 := hzero.mpr hgo
      exact absurd hret (by decide)
  · exact absurd hok' hok

/-! ## Runs -/

/-- A connection that is closed has no session and no output. -/
theorem ended_of_closed (h : w'.heap.nets p = none) : Ended pb p w w' where
  closed := h
  unanswered msg _ := by
    rintro ⟨_, _, _, _, _, _, hl, _⟩
    have hnet := hl.net
    rw [h] at hnet
    cases hnet
  stays s s' _ hs' := by
    rw [World.getUserContext, h] at hs'
    cases hs'

theorem finEnds_iff_finFits (c : ConnectorApp) (w : ConnectorWorld) (e : Event) (h : Inv w) :
    FinEnds c w e ↔ FinFits c w e := by
  cases e with
  | backEndMsg msg size =>
    refine forall_congr' fun p => forall_congr' fun hfor => ?_
    rw [ConnectorApp.finFor] at hfor
    split_ifs at hfor with hfin
    obtain ⟨⟨fd, hfd⟩, _⟩ := getFrontEndByAsyncIds_eq_some h.ok (UInt32.toNat_lt _) hfor
    unfold ConnectorApp.onRecvBackEnd
    simp only [hfor]
    cases hs : w.getUserContext p with
    | none =>
      obtain ⟨_, _, _, hl, _⟩ := h.ok.frontEntry hfd
      refine iff_of_false (fun hended => ?_) (by rintro ⟨_, hs', _⟩; cases hs')
      have hnone := hended.closed
      rw [hl.net] at hnone
      cases hnone
    | some s =>
      have hcloses := relayToFrontEnd_closes (c := c) h hs hfin
      constructor
      · intro hended
        exact ⟨s, rfl, hcloses.mp hended.closed⟩
      · rintro ⟨s', hs', hstuck⟩
        obtain rfl := Option.some.inj hs'
        exact ended_of_closed c.pb (hcloses.mpr hstuck)
  | _ => exact Iff.rfl

/-- In every run, every `FIN` for a frontend ends it exactly when each of them finds a session that
cannot go on with the handshake. -/
theorem finEnds_along_iff (c : ConnectorApp) (fate : Nat → Bool) (frontRecv backRecv : RapBuffer)
    (now : Int) (es : List Event) :
    Run.Along c.step (FinEnds c) (ConnectorWorld.start fate frontRecv backRecv now) es ↔
      Run.Along c.step (FinFits c) (ConnectorWorld.start fate frontRecv backRecv now) es :=
  Run.along_iff_of_inv (fun _ _ _ h hstep => (step_spec h hstep).1)
    (fun w e h => finEnds_iff_finFits c w e h) (Inv.start fate frontRecv backRecv now) es

/-- The server answers the `SYN` of a session with `FIN`. -/
def finMsg : SSMsg where
  head := { sequence := 1, bodyid := SSBodyCmdId.fin.value, session := ⟨7, 2, 5⟩ }
  body := {}

/-- The client is through with its part of the handshake; then the server sends `FIN`. -/
def refused : List Event :=
  connected ++ [.frontEndMsg 1 (Wire.encodeCSMsg synMsg) (Wire.encodeCSMsg synMsg).length,
    .frontEndMsg 1 (Wire.encodeCSMsg authenticationMsg)
      (Wire.encodeCSMsg authenticationMsg).length]

/-- The `FIN` makes the session ready. -/
theorem fin_starts_app :
    ¬ Run.Along ConnectorApp.greeting.step (FinEnds .greeting)
      (ConnectorWorld.start (fun _ => true) .small .small 0)
      (refused ++ [.backEndMsg (Wire.encodeSSMsg finMsg) (Wire.encodeSSMsg finMsg).length]) := by
  intro h
  have hready : (Run.run ConnectorApp.greeting.step
      (ConnectorWorld.start (fun _ => true) .small .small 0) refused).map (fun w =>
        (ConnectorApp.greeting.finFor w (Wire.encodeSSMsg finMsg) (Wire.encodeSSMsg finMsg).length,
          ((ConnectorApp.greeting.onRecvBackEnd (Wire.encodeSSMsg finMsg)
            (Wire.encodeSSMsg finMsg).length w).2.getUserContext 1).map (·.state))) =
      some (some 1, some .stateOk) := by decide +kernel
  obtain ⟨w, hw, hpair⟩ := Option.map_eq_some_iff.mp hready
  obtain ⟨hfor, hstate⟩ := Prod.mk.inj hpair
  have hended := ((Run.along_append.mp h).2 w hw).1 1 hfor
  rw [World.getUserContext, hended.closed] at hstate
  cases hstate

end Rapidapp.Connector
