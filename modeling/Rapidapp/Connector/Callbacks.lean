import Rapidapp.Connector.App

/-!
# The callbacks of the connector as an application of the framework

`ConnectorApp` (`server/connector/connector_app.cpp`) reaches the framework only through
`IFrameWork` and through the user contexts of its connections: its callbacks make an `App`,
and the results about the frame loops hold of it.
-/

namespace Rapidapp.Connector

open World ConnectorSession

variable (pb : Protobuf) (p : NetPtr)

theorem api_setState (state : SessionState) (w : ConnectorWorld) :
    ApiReach w (setState p state w) := by
  unfold setState
  cases w.getUserContext p with
  | none => exact .refl
  | some s => exact .single (.setUserContext w p _)

theorem api_serializeAndSendToFrontEnd (s : ConnectorSession) (msg : CSMsg) (w : ConnectorWorld) :
    ApiReach w (serializeAndSendToFrontEnd pb s msg w).2 := by
  unfold serializeAndSendToFrontEnd
  have hsend : ApiReach w (w.sendToFrontEnd s.netStub (pb.serializeCSMsg msg)).2 :=
    .single (.sendToFrontEnd w _ _)
  generalize w.sendToFrontEnd s.netStub (pb.serializeCSMsg msg) = r at hsend ⊢
  obtain ⟨ret, w₁⟩ := r
  dsimp only at hsend ⊢
  split_ifs
  · exact hsend.tail (.destroyNet w₁ .frontEnd _)
  · exact hsend

theorem api_answerFrontEnd (s : ConnectorSession) (msg : CSMsg) (state : SessionState)
    (w : ConnectorWorld) : ApiReach w (answerFrontEnd pb p s msg state w).2 := by
  unfold answerFrontEnd
  have hsend := api_serializeAndSendToFrontEnd pb s msg w
  generalize serializeAndSendToFrontEnd pb s msg w = r at hsend ⊢
  obtain ⟨ret, w₁⟩ := r
  dsimp only at hsend ⊢
  split_ifs
  · exact hsend
  · exact hsend.trans (api_setState p state w₁)

theorem api_startToBackEnd (s : ConnectorSession) (backNet : Option NetPtr) (w : ConnectorWorld) :
    ApiReach w (startToBackEnd pb s backNet w).2 := by
  unfold startToBackEnd
  split_ifs
  · exact .refl
  cases backNet with
  | none => exact .refl
  | some q =>
    dsimp only
    have hsend : ApiReach w (w.sendToBackEnd (some q) (pb.serializeSSMsg (s.startMsg w))).2 :=
      .single (.sendToBackEnd w _ _)
    generalize w.sendToBackEnd (some q) (pb.serializeSSMsg (s.startMsg w)) = r at hsend ⊢
    obtain ⟨ret, w₁⟩ := r
    dsimp only at hsend ⊢
    split_ifs <;> exact hsend

theorem api_handShakeStartSession (s : ConnectorSession) (w : ConnectorWorld) :
    ApiReach w (handShakeStartSession pb p s w).2 := by
  unfold handShakeStartSession
  have hnext : ApiReach w { w with app := w.app.next.2 } := .single (.app w _)
  have hstart := api_startToBackEnd pb s w.app.next.1 { w with app := w.app.next.2 }
  dsimp only
  generalize startToBackEnd pb s w.app.next.1 { w with app := w.app.next.2 } = r at hstart ⊢
  obtain ⟨ret, w₁⟩ := r
  dsimp only at hstart ⊢
  split_ifs
  · exact hnext.trans hstart
  · exact (hnext.trans hstart).trans (api_setState p .stateSynack w₁)

theorem api_driveStateMachine (w : ConnectorWorld) :
    ApiReach w (driveStateMachine pb p w).2 := by
  unfold driveStateMachine
  cases w.getUserContext p with
  | none => exact .refl
  | some s =>
    dsimp only
    cases s.state with
    | stateInit => exact api_answerFrontEnd pb p s _ _ w
    | stateAuth => exact api_answerFrontEnd pb p s _ _ w
    | stateSyning => exact api_handShakeStartSession pb p s w
    | stateSynack => exact api_answerFrontEnd pb p s _ _ w
    | stateOk => exact .single (.destroyNet w .frontEnd _)

theorem api_sendDataToBackEnd (data : List UInt8) (w : ConnectorWorld) :
    ApiReach w (sendDataToBackEnd data w).2 := by
  unfold sendDataToBackEnd
  have hnext : ApiReach w { w with app := w.app.next.2 } := .single (.app w _)
  have hsend : ApiReach w
      (({ w with app := w.app.next.2 } : ConnectorWorld).sendToBackEnd w.app.next.1 data).2 :=
    hnext.tail (.sendToBackEnd _ _ _)
  dsimp only
  generalize ({ w with app := w.app.next.2 } : ConnectorWorld).sendToBackEnd w.app.next.1 data
    = r at hsend ⊢
  obtain ⟨ret, w₁⟩ := r
  dsimp only at hsend ⊢
  split_ifs <;> exact hsend

theorem api_forwardDownSideMessage (s : ConnectorSession) (sequence : UInt64) (data : List UInt8)
    (w : ConnectorWorld) : ApiReach w (forwardDownSideMessage pb s sequence data w).2 := by
  unfold forwardDownSideMessage
  split_ifs
  · exact .refl
  have hsend : ApiReach w
      (w.sendToFrontEnd s.netStub (pb.serializeCSMsg (downSideMsg sequence data))).2 :=
    .single (.sendToFrontEnd w _ _)
  generalize w.sendToFrontEnd s.netStub (pb.serializeCSMsg (downSideMsg sequence data))
    = r at hsend ⊢
  obtain ⟨ret, w₁⟩ := r
  dsimp only at hsend ⊢
  split_ifs <;> exact hsend

namespace ConnectorApp

variable (c : ConnectorApp)

theorem api_handshakeFrontEnd (w : ConnectorWorld) :
    ApiReach w (c.handshakeFrontEnd p w).2 := by
  unfold handshakeFrontEnd
  have hdrive := api_driveStateMachine c.pb p w
  generalize driveStateMachine c.pb p w = r at hdrive ⊢
  obtain ⟨ret, w₁⟩ := r
  have hagain := api_driveStateMachine c.pb p w₁
  dsimp only at hdrive ⊢
  generalize driveStateMachine c.pb p w₁ = r at hagain ⊢
  obtain ⟨ret₁, w₂⟩ := r
  dsimp only at hagain ⊢
  split_ifs
  · exact hdrive.tail (.destroyNet w₁ .frontEnd (some p))
  · exact (hdrive.trans hagain).tail (.destroyNet w₂ .frontEnd (some p))
  · exact hdrive.trans hagain
  · exact hdrive

theorem api_onRecvFrontEnd (msg : List UInt8) (size : Nat) (w : ConnectorWorld) :
    ApiReach w (c.onRecvFrontEnd p msg size w).2 := by
  unfold onRecvFrontEnd
  cases w.getUserContext p with
  | none => exact .refl
  | some s =>
    dsimp only
    generalize s.checkUpSideMessage (c.pb.parseCSMsg msg size) = r
    obtain ⟨ret, s₁⟩ := r
    have hset : ApiReach w (w.setUserContext p s₁) := .single (.setUserContext w p s₁)
    dsimp only
    split_ifs
    · exact .refl
    · exact hset
    · exact hset.trans (api_sendDataToBackEnd _ _)
    · exact hset.trans (c.api_handshakeFrontEnd p _)

theorem api_setSid (sid : UInt32) (w : ConnectorWorld) : ApiReach w (setSid p sid w) := by
  unfold setSid
  cases w.getUserContext p with
  | none => exact .refl
  | some s => exact .single (.setUserContext w p _)

theorem api_relayToFrontEnd (s : ConnectorSession) (downMsg : SSMsg) (w : ConnectorWorld) :
    ApiReach w (c.relayToFrontEnd p s downMsg w).2 := by
  unfold relayToFrontEnd
  have hdrive := api_driveStateMachine c.pb p w
  generalize driveStateMachine c.pb p w = r at hdrive ⊢
  obtain ⟨ret, w₁⟩ := r
  dsimp only at hdrive ⊢
  split_ifs
  · exact .refl
  · exact hdrive.tail (.destroyNet w₁ .frontEnd (some p))
  · exact hdrive.trans (api_setSid p _ w₁)
  · exact .single (.destroyNet w .frontEnd (some p))
  · exact .single (.destroyNet w .frontEnd (some p))
  · exact api_forwardDownSideMessage c.pb s _ _ w

theorem api_onRecvBackEnd (msg : List UInt8) (size : Nat) (w : ConnectorWorld) :
    ApiReach w (c.onRecvBackEnd msg size w).2 := by
  unfold onRecvBackEnd
  dsimp only
  split
  · exact .refl
  · split
    · exact .refl
    · exact c.api_relayToFrontEnd _ _ _ w

/-- The connector as the framework calls it; it registers no rpc service and makes no rpc. -/
def toApp : App BackEndSet ConnectorSession where
  onRecvFrontEnd p _ data size w := c.onRecvFrontEnd p data size w
  onRecvFrontEnd_api p _ data size w := c.api_onRecvFrontEnd p data size w
  onRecvBackEnd _ _ data size w := c.onRecvBackEnd data size w
  onRecvBackEnd_api _ _ data size w := c.api_onRecvBackEnd data size w
  spawnMessage _ _ := none
  rpcSvcMgr := none
  rpcIsActive _ _ := false
  rpcResume _ _ _ w := w
  rpcResume_api _ _ _ _ := .refl

end ConnectorApp

end Rapidapp.Connector
