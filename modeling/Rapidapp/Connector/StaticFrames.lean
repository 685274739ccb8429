import Rapidapp.Connector.StaticMessages

/-!
# What the handlers emit

Every static object is clean: the next message comes out of it as it comes out of a new object.
So a handler does what its model in `Connector/Session` or `Connector/App` does, and the frames it
emits are, as far as it gets, those that the session and the message determine.
-/

namespace Rapidapp.Connector

open MessageObject ConnectorSession World

namespace GeneratedCode

variable (code : GeneratedCode)

/-- The connector as it is when every message is a new one. -/
abbrev app (debug : Bool) : ConnectorApp := ⟨code.protobuf, debug⟩

/-- The frame with this message for a client. -/
def toClient (m : CSMsg) : Frame := .toFrontEnd (code.protobuf.serializeCSMsg m)

/-- The frame with this message for a backend server. -/
def toServer (m : SSMsg) : Frame := .toBackEnd (code.protobuf.serializeSSMsg m)

end GeneratedCode

/-! ## The frames of each handler -/

namespace GeneratedCode

variable (code : GeneratedCode)

/-- `DriveStateMachine`. -/
def driveFrames (s : ConnectorSession) (w : ConnectorWorld) : List Frame :=
  match s.state with
  | .stateInit => [code.toClient keyMakingMsg]
  | .stateAuth => [code.toClient authMsg]
  | .stateSyning => [code.toServer (s.startMsg w)]
  | .stateSynack => [code.toClient startAckedMsg]
  | .stateOk => []

/-- A message of the client that goes on with the handshake. -/
def handshakeFrames (s : ConnectorSession) (w : ConnectorWorld) : List Frame :=
  code.driveFrames s w ++ if s.state = .stateAuth then [code.toServer (s.startMsg w)] else []

/-- A message of the client with the expected sequence number. -/
def checkedFrames (s : ConnectorSession) (w : ConnectorWorld) (upMsg : CSMsg) : List Frame :=
  if ¬ s.beenReady then code.handshakeFrames s w
  else if upMsg.head.bodyid ≠ CSBodyCmdId.dataTransparent.value then []
  else [code.toServer (s.upSideMsg w upMsg.head.sequence.toUInt64 (upMsg.body.data.getD []))]

/-- A message of the client. -/
def frontEndFrames (s : ConnectorSession) (w : ConnectorWorld) (upMsg : CSMsg) : List Frame :=
  if (s.checkUpSideMessage upMsg).1 ≠ 0 then [] else code.checkedFrames s w upMsg

/-- A message of a backend server. -/
def backEndFrames (debug : Bool) (s : ConnectorSession) (w : ConnectorWorld) (downMsg : SSMsg) :
    List Frame :=
  if downMsg.head.bodyid ≠ SSBodyCmdId.data.value then
    if downMsg.head.bodyid ≠ SSBodyCmdId.fin.value ∧ s.state = .stateOk then []
    else code.driveFrames s w
  else if debug = false ∧ (s.state ≠ .stateOk ∨ s.sid ≠ downMsg.head.session.sid) then []
  else if downMsg.body.data.getD [] = [] then []
  else [code.toClient (downSideMsg downMsg.head.sequence.toUInt64 (downMsg.body.data.getD []))]

/-! The frames are determined by what the session has of its own. -/

variable {s s' : ConnectorSession} {w w' : ConnectorWorld}

theorem driveFrames_congr (hstate : s'.state = s.state) (htuple : s'.tuple w' = s.tuple w) :
    code.driveFrames s' w' = code.driveFrames s w := by
  rw [driveFrames, driveFrames, ConnectorSession.startMsg, ConnectorSession.startMsg, hstate,
    htuple]

theorem checkedFrames_congr (upMsg : CSMsg) (hstate : s'.state = s.state)
    (htuple : s'.tuple w' = s.tuple w) :
    code.checkedFrames s' w' upMsg = code.checkedFrames s w upMsg := by
  unfold checkedFrames handshakeFrames
  rw [driveFrames_congr code hstate htuple, ConnectorSession.startMsg, ConnectorSession.startMsg,
    ConnectorSession.upSideMsg, ConnectorSession.upSideMsg, ConnectorSession.beenReady,
    ConnectorSession.beenReady, hstate, htuple]

theorem frontEndFrames_congr (upMsg : CSMsg) (hstate : s'.state = s.state)
    (hseq : s'.lastSeq = s.lastSeq) (htuple : s'.tuple w' = s.tuple w) :
    code.frontEndFrames s' w' upMsg = code.frontEndFrames s w upMsg := by
  have hcheck : (s'.checkUpSideMessage upMsg).1 = (s.checkUpSideMessage upMsg).1 := by
    unfold ConnectorSession.checkUpSideMessage
    rw [hseq]
    split_ifs <;> rfl
  rw [frontEndFrames, frontEndFrames, hcheck, checkedFrames_congr code upMsg hstate htuple]

theorem backEndFrames_congr (debug : Bool) (downMsg : SSMsg) (hstate : s'.state = s.state)
    (htuple : s'.tuple w' = s.tuple w) :
    code.backEndFrames debug s' w' downMsg = code.backEndFrames debug s w downMsg := by
  have hsid : s'.sid = s.sid := congrArg Tuple.sid htuple
  rw [backEndFrames, backEndFrames, hsid, hstate, driveFrames_congr code hstate htuple]

end GeneratedCode

variable (code : GeneratedCode)

/-- Nothing of the earlier messages can be seen in the next ones. -/
structure Statics.Clean (t : Statics) : Prop where
  upMsg : MessageObject.Clean (fun i : List UInt8 × Nat => code.parseCSMsgOps i.1 i.2) t.upMsg
  keyMaking : MessageObject.Clean (fun _ : Unit => keyMakingOps) t.keyMaking
  authRequest : MessageObject.Clean (fun _ : Unit => authRequestOps) t.authRequest
  startAcked : MessageObject.Clean (fun _ : Unit => startAckedOps) t.startAcked
  start : MessageObject.Clean startOps t.start
  stop : MessageObject.Clean stopOps t.stop
  msgToBackend : MessageObject.Clean
    (fun i : Tuple × UInt64 × List UInt8 => upSideOps i.1 i.2.1 i.2.2) t.msgToBackend
  downMsg2Client : MessageObject.Clean
    (fun i : UInt64 × List UInt8 => downSideOps i.1 i.2) t.downMsg2Client

theorem Statics.clean_new : Statics.Clean code {} :=
  ⟨clean_empty _, clean_empty _, clean_empty _, clean_empty _, clean_empty _, clean_empty _,
    clean_empty _, clean_empty _⟩

/-- The message of `StopToBackEnd` (`connector_session.cpp:236-246`). -/
def ConnectorSession.stopMsg (s : ConnectorSession) (w : ConnectorWorld) : SSMsg where
  head := { sequence := 1, bodyid := SSBodyCmdId.fin.value, session := s.tuple w }
  body := { fin := some 0 }

namespace Emit

/-- Up to `r` the program did what it does with new messages, and after `sofar` it emitted the
first of the expected frames, all of them if it succeeded. -/
structure Emits (expected sofar : List Frame) (new : Int × ConnectorWorld) (r : Int × Emit) :
    Prop where
  ret : r.1 = new.1
  world : r.2.world = new.2
  clean : r.2.statics.Clean code
  frames : ∃ fs, fs <+: expected ∧ (r.1 = 0 → fs = expected) ∧ r.2.frames = sofar ++ fs

variable {code} {expected expected' sofar : List Frame} {e : Emit} {new new' : Int × ConnectorWorld}
  {r r' : Int × Emit}

/-- Nothing is emitted. -/
theorem Emits.none (hc : e.statics.Clean code) (ret : Int) (w : ConnectorWorld)
    (hfail : ret = 0 → expected = []) : Emits code expected e.frames (ret, w) (ret, e.goTo w) :=
  ⟨rfl, rfl, hc, [], List.nil_prefix, fun h => (hfail h).symm, (List.append_nil _).symm⟩

/-- The program goes on without emitting anything; it does not succeed where it failed. -/
theorem Emits.goTo (h : Emits code expected sofar new r) (ret : Int) (w : ConnectorWorld)
    (hret : ret = 0 → r.1 = 0) : Emits code expected sofar (ret, w) (ret, r.2.goTo w) := by
  obtain ⟨fs, hpre, hdone, hfs⟩ := h.frames
  exact ⟨rfl, rfl, h.clean, fs, hpre, fun h₀ => hdone (hret h₀), hfs⟩

/-- It fails, and what could have followed is not emitted. -/
theorem Emits.fail (h : Emits code expected sofar new r) (expected' : List Frame) {ret : Int}
    (w : ConnectorWorld) (hret : ret ≠ 0) :
    Emits code (expected ++ expected') sofar (ret, w) (ret, r.2.goTo w) := by
  obtain ⟨fs, hpre, _, hfs⟩ := h.frames
  exact ⟨rfl, rfl, h.clean, fs, hpre.trans (List.prefix_append _ _), fun h₀ => absurd h₀ hret,
    hfs⟩

/-- It succeeds and does something else. -/
theorem Emits.andThen (h : Emits code expected sofar new r) (h₀ : r.1 = 0)
    (h' : Emits code expected' r.2.frames new' r') :
    Emits code (expected ++ expected') sofar new' r' := by
  obtain ⟨fs, _, hdone, hfs⟩ := h.frames
  obtain ⟨fs', hpre', hdone', hfs'⟩ := h'.frames
  obtain rfl := hdone h₀
  refine ⟨h'.ret, h'.world, h'.clean, fs ++ fs', ?_, fun h₁ => by rw [hdone' h₁], ?_⟩
  · exact List.prefix_append_right_inj fs |>.mpr hpre'
  · rw [hfs', hfs, List.append_assoc]

/-! ## The session -/

variable {p : NetPtr} {s : ConnectorSession}

theorem emits_answerFrontEnd {t : Statics} (ht : t.Clean code) {msg : MsgObject} {m : CSMsg}
    (hmsg : code.serializeCSMsg msg = code.protobuf.serializeCSMsg m) (state : SessionState) :
    Emits code [code.toClient m] e.frames
      (Connector.answerFrontEnd code.protobuf p s m state e.world)
      ({ e with statics := t }.answerFrontEnd code p s msg state) := by
  unfold answerFrontEnd serializeAndSendToFrontEnd sendToFrontEnd Connector.answerFrontEnd
    Connector.serializeAndSendToFrontEnd
  rw [hmsg]
  dsimp only
  rcases e.world.sendToFrontEnd s.netStub (code.protobuf.serializeCSMsg m) with ⟨ret, w⟩
  have hframes : e.frames ++ [Frame.toFrontEnd (code.protobuf.serializeCSMsg m)] =
      e.frames ++ [code.toClient m] := rfl
  by_cases hret : ret = 0
  · simp only [hret, ne_eq, not_true, if_false]
    exact ⟨rfl, rfl, ht, _, List.prefix_rfl, fun _ => rfl, hframes⟩
  · have hneg : ¬ (-1 : Int) = 0 := by decide
    simp only [hret, hneg, ne_eq, not_false_eq_true, if_true]
    exact ⟨rfl, rfl, ht, _, List.prefix_rfl, fun _ => rfl, hframes⟩

theorem emits_handleKeyMaking (hc : e.statics.Clean code) :
    Emits code [code.toClient keyMakingMsg] e.frames
      (Connector.handleKeyMaking code.protobuf p s e.world) (e.handleKeyMaking code p s) := by
  have hmsg : run keyMakingOps e.statics.keyMaking = keyMakingMsg.object := hc.keyMaking ()
  have ht : Statics.Clean code
      { e.statics with keyMaking := run keyMakingOps e.statics.keyMaking } :=
    { hc with keyMaking := hc.keyMaking.run (overwriting_csMsg _ _ _ _) () }
  exact emits_answerFrontEnd ht (congrArg code.serializeCSMsg hmsg) _

theorem emits_handleAuthRequest (hc : e.statics.Clean code) :
    Emits code [code.toClient authMsg] e.frames
      (Connector.handleAuthRequest code.protobuf p s e.world) (e.handleAuthRequest code p s) := by
  have hmsg : run authRequestOps e.statics.authRequest = authMsg.object := hc.authRequest ()
  have ht : Statics.Clean code
      { e.statics with authRequest := run authRequestOps e.statics.authRequest } :=
    { hc with authRequest := hc.authRequest.run (overwriting_csMsg _ _ _ _) () }
  exact emits_answerFrontEnd ht (congrArg code.serializeCSMsg hmsg) _

theorem emits_handShakeOnStartAcked (hc : e.statics.Clean code) :
    Emits code [code.toClient startAckedMsg] e.frames
      (Connector.handShakeOnStartAcked code.protobuf p s e.world)
      (e.handShakeOnStartAcked code p s) := by
  have hmsg : run startAckedOps e.statics.startAcked = startAckedMsg.object := hc.startAcked ()
  have ht : Statics.Clean code
      { e.statics with startAcked := run startAckedOps e.statics.startAcked } :=
    { hc with startAcked := hc.startAcked.run (overwriting_csMsg _ _ _ _) () }
  exact emits_answerFrontEnd ht (congrArg code.serializeCSMsg hmsg) _

/-- The common end of the functions that write to a backend. -/
theorem emits_sendToBackEnd {t : Statics} (ht : t.Clean code) {buf : List UInt8} {m : SSMsg}
    (hbuf : buf = code.protobuf.serializeSSMsg m) (w : ConnectorWorld) (net : Option NetPtr) :
    Emits code [code.toServer m] e.frames
      (match w.sendToBackEnd net (code.protobuf.serializeSSMsg m) with
        | (ret, w) => if ret ≠ 0 then (-1, w) else (0, w))
      (match ({ e with world := w, statics := t } : Emit).sendToBackEnd net buf with
        | (ret, e) => if ret ≠ 0 then (-1, e) else (0, e)) := by
  subst hbuf
  unfold sendToBackEnd
  dsimp only
  rcases w.sendToBackEnd net (code.protobuf.serializeSSMsg m) with ⟨ret, w'⟩
  dsimp only
  split_ifs <;> exact ⟨rfl, rfl, ht, _, List.prefix_rfl, fun _ => rfl, rfl⟩

theorem emits_startToBackEnd (hc : e.statics.Clean code) (backNet : Option NetPtr) :
    Emits code [code.toServer (s.startMsg e.world)] e.frames
      (Connector.startToBackEnd code.protobuf s backNet e.world)
      (e.startToBackEnd code s backNet) := by
  have hneg : ¬ (-1 : Int) = 0 := by decide
  unfold startToBackEnd Connector.startToBackEnd
  cases s.frameStub with
  | false => exact .none hc _ _ (absurd · hneg)
  | true =>
    cases backNet with
    | none => exact .none hc _ _ (absurd · hneg)
    | some q =>
      have hmsg : run (startOps (s.tuple e.world)) e.statics.start =
          (s.startMsg e.world).object := hc.start _
      have ht : Statics.Clean code
          { e.statics with start := run (startOps (s.tuple e.world)) e.statics.start } :=
        { hc with start := hc.start.run (overwriting_ssMsg _ _ _ _ _) _ }
      exact emits_sendToBackEnd ht (congrArg code.serializeSSMsg hmsg) e.world (some q)

/-- `StopToBackEnd` builds its message in the same way. -/
theorem emits_stopToBackEnd (hc : e.statics.Clean code) (q : NetPtr) (hstub : s.frameStub = true) :
    Emits code [code.toServer (s.stopMsg e.world)] e.frames
      (match e.world.sendToBackEnd (some q) (code.protobuf.serializeSSMsg (s.stopMsg e.world)) with
        | (ret, w) => if ret ≠ 0 then (-1, w) else (0, w))
      (e.stopToBackEnd code s (some q)) := by
  have hmsg : run (stopOps (s.tuple e.world)) e.statics.stop = (s.stopMsg e.world).object :=
    hc.stop _
  have ht : Statics.Clean code
      { e.statics with stop := run (stopOps (s.tuple e.world)) e.statics.stop } :=
    { hc with stop := hc.stop.run (overwriting_ssMsg _ _ _ _ _) _ }
  unfold stopToBackEnd
  rw [hstub]
  exact emits_sendToBackEnd ht (congrArg code.serializeSSMsg hmsg) e.world (some q)

theorem emits_handShakeStartSession (hc : e.statics.Clean code) :
    Emits code [code.toServer (s.startMsg e.world)] e.frames
      (Connector.handShakeStartSession code.protobuf p s e.world)
      (e.handShakeStartSession code p s) := by
  have hstart := emits_startToBackEnd (e := e.goTo { e.world with app := e.world.app.next.2 })
    (s := s) hc e.world.app.next.1
  simp only [handShakeStartSession, Connector.handShakeStartSession]
  have hret := hstart.ret
  have hworld := hstart.world
  change _ = (Connector.startToBackEnd code.protobuf s e.world.app.next.1
    { e.world with app := e.world.app.next.2 }).1 at hret
  change _ = (Connector.startToBackEnd code.protobuf s e.world.app.next.1
    { e.world with app := e.world.app.next.2 }).2 at hworld
  by_cases hzero : ((e.goTo { e.world with app := e.world.app.next.2 }).startToBackEnd code s
      e.world.app.next.1).1 = 0
  · simp only [← hret, ← hworld, hzero, ne_eq, not_true, if_false]
    exact hstart.goTo _ _ fun _ => hzero
  · simp only [← hret, ← hworld, hzero, ne_eq, not_false_eq_true, if_true]
    exact hstart.goTo _ _ fun h => absurd h (by decide)

theorem emits_driveStateMachine (hc : e.statics.Clean code)
    (hs : e.world.getUserContext p = some s) :
    Emits code (code.driveFrames s e.world) e.frames
      (Connector.driveStateMachine code.protobuf p e.world) (e.driveStateMachine code p) := by
  unfold driveStateMachine Connector.driveStateMachine GeneratedCode.driveFrames
  rw [hs]
  dsimp only
  cases s.state with
  | stateInit => exact emits_handleKeyMaking hc
  | stateAuth => exact emits_handleAuthRequest hc
  | stateSyning => exact emits_handShakeStartSession hc
  | stateSynack => exact emits_handShakeOnStartAcked hc
  | stateOk => exact .none hc _ _ fun _ => rfl

theorem emits_forwardUpSideMessage (hc : e.statics.Clean code) (sequence : UInt64)
    (data : List UInt8) :
    Emits code [code.toServer (s.upSideMsg e.world sequence data)] e.frames
      (Connector.forwardUpSideMessage code.protobuf s sequence data e.world)
      (e.forwardUpSideMessage code s sequence data) := by
  have hmsg : run (upSideOps (s.tuple e.world) sequence data) e.statics.msgToBackend =
      (s.upSideMsg e.world sequence data).object := hc.msgToBackend (_, _, _)
  have hrun := hc.msgToBackend.run (overwriting_ssMsg _ _ _ _ _) (s.tuple e.world, sequence, data)
  have ht : Statics.Clean code
      { e.statics with
        msgToBackend := run (upSideOps (s.tuple e.world) sequence data) e.statics.msgToBackend } :=
    { hc with msgToBackend := hrun }
  exact emits_sendToBackEnd ht (congrArg code.serializeSSMsg hmsg)
    { e.world with app := e.world.app.next.2 } e.world.app.next.1

theorem emits_forwardDownSideMessage (hc : e.statics.Clean code) (sequence : UInt64)
    (data : List UInt8) :
    Emits code (if data = [] then [] else [code.toClient (downSideMsg sequence data)]) e.frames
      (Connector.forwardDownSideMessage code.protobuf s sequence data e.world)
      (e.forwardDownSideMessage code s sequence data) := by
  unfold forwardDownSideMessage Connector.forwardDownSideMessage
  by_cases hdata : data = []
  · rw [if_pos hdata, if_pos hdata, if_pos hdata]
    exact .none hc _ _ fun _ => rfl
  rw [if_neg hdata, if_neg hdata, if_neg hdata]
  have hmsg : run (downSideOps sequence data) e.statics.downMsg2Client =
      (downSideMsg sequence data).object := hc.downMsg2Client (_, _)
  have hrun := hc.downMsg2Client.run (overwriting_csMsg _ _ _ _) (sequence, data)
  have ht : Statics.Clean code
      { e.statics with
        downMsg2Client := run (downSideOps sequence data) e.statics.downMsg2Client } :=
    { hc with downMsg2Client := hrun }
  have hbuf : code.serializeCSMsg (run (downSideOps sequence data) e.statics.downMsg2Client) =
      code.protobuf.serializeCSMsg (downSideMsg sequence data) := congrArg _ hmsg
  unfold sendToFrontEnd
  dsimp only
  rw [hbuf]
  rcases e.world.sendToFrontEnd s.netStub (code.protobuf.serializeCSMsg
    (downSideMsg sequence data)) with ⟨ret, w⟩
  dsimp only
  split_ifs <;> exact ⟨rfl, rfl, ht, _, List.prefix_rfl, fun _ => rfl, rfl⟩

/-! ## The callbacks -/

/-- What a session says of itself is the same when another state of the connections has the same
links. -/
theorem tuple_of_sameLinks {k : Nat} {w w' : ConnectorWorld} {s s' : ConnectorSession}
    (hl : w.heap.SameLinks k w'.heap) (hstub : s'.netStub = s.netStub) (hsid : s'.sid = s.sid) :
    s'.tuple w' = s.tuple w := by
  unfold ConnectorSession.tuple
  rw [hstub, hsid]
  cases s.netStub with
  | none => rfl
  | some q => simp only [getNetIds_of_sameLinks hl]

/-- `DriveStateMachine` with the static messages: what it emits, and where it leaves the session. -/
theorem driveStateMachine_cases (h : Inv e.world) (hc : e.statics.Clean code)
    (hs : e.world.getUserContext p = some s) :
    ∃ ret e₁, e.driveStateMachine code p = (ret, e₁) ∧
      Connector.driveStateMachine code.protobuf p e.world = (ret, e₁.world) ∧
      Emits code (code.driveFrames s e.world) e.frames (ret, e₁.world) (ret, e₁) ∧
      Effect p e.world e₁.world ∧
      (ret = 0 ∧ e₁.world.getUserContext p = some { s with state := s.state.next } ∨
        ret = -1 ∨ ret = 0 ∧ s.state = .stateOk ∧ e₁.world.getUserContext p = none) := by
  have hdrive := emits_driveStateMachine hc hs
  obtain ⟨ret, w₁, hrun, he, hor⟩ := driveStateMachine_spec code.protobuf h hs
  have hret := hdrive.ret
  have hworld := hdrive.world
  rcases hr : e.driveStateMachine code p with ⟨ret', e₁⟩
  rw [hr, hrun] at hret hworld hdrive
  obtain rfl : ret' = ret := hret
  obtain rfl : e₁.world = w₁ := hworld
  refine ⟨ret', e₁, rfl, hrun, hdrive, he, ?_⟩
  rcases hor with ⟨hzero, _, hctx⟩ | ⟨hfail, _⟩ | hended
  · exact .inl ⟨hzero, hctx⟩
  · exact .inr (.inl hfail)
  · exact .inr (.inr hended)

/-- After `STATE_AUTH` it is the backend's turn, for the session as it was. -/
theorem driveFrames_afterAuth {w w' : ConnectorWorld} (h : Inv w)
    (hs : w.getUserContext p = some s) (hauth : s.state = .stateAuth)
    (hrun : Connector.driveStateMachine code.protobuf p w = (0, w')) :
    code.driveFrames { s with state := .stateSyning } w' = [code.toServer (s.startMsg w)] := by
  have hok : Connector.handleAuthRequest code.protobuf p s w = (0, w') := by
    rw [Connector.driveStateMachine, hs] at hrun
    simpa only [hauth] using hrun
  have hlinks := (Watch.sameLinks_answerFrontEnd code.protobuf (h.session hs).1 hok).1
  have htuple : ({ s with state := .stateSyning } : ConnectorSession).tuple w' = s.tuple w :=
    tuple_of_sameLinks hlinks rfl rfl
  rw [GeneratedCode.driveFrames, ConnectorSession.startMsg, htuple]
  rfl

/-- A message of the client that goes on with the handshake. -/
theorem emits_handshakeFrontEnd (h : Inv e.world) (hc : e.statics.Clean code)
    (hs : e.world.getUserContext p = some s) (debug : Bool) :
    Emits code (code.handshakeFrames s e.world) e.frames
      ((code.app debug).handshakeFrontEnd p e.world) (e.handshakeFrontEnd code p) := by
  have hneg : (-1 : Int) < 0 := by decide
  obtain ⟨ret, e₁, hold, hrun, hdrive, he, hor⟩ := driveStateMachine_cases h hc hs
  unfold handshakeFrontEnd ConnectorApp.handshakeFrontEnd GeneratedCode.handshakeFrames
  rw [hold, hrun]
  dsimp only
  rcases hor with ⟨rfl, hctx⟩ | rfl | ⟨rfl, hok, hgone⟩
  · simp only [lt_irrefl, if_false, sessionState_of_some hctx]
    by_cases hauth : s.state = .stateAuth
    · -- the backend is started at once
      have hsyning : s.state.next = .stateSyning := by rw [hauth]; rfl
      rw [hsyning] at hctx
      simp only [hauth, SessionState.next, if_true]
      obtain ⟨ret, e₂, hold₂, hrun₂, hagain, _, hor₂⟩ :=
        driveStateMachine_cases (he.inv h) hdrive.clean hctx
      rw [driveFrames_afterAuth h hs hauth hrun] at hagain
      have hboth := hdrive.andThen rfl hagain
      rw [hold₂, hrun₂]
      dsimp only
      rcases hor₂ with ⟨rfl, _⟩ | rfl | ⟨rfl, _⟩
      · exact hboth.goTo _ _ fun _ => rfl
      · exact hboth.goTo _ _ fun hzero => absurd hzero (by decide)
      · exact hboth.goTo _ _ fun _ => rfl
    · have hsyning : s.state.next ≠ .stateSyning := by
        cases hst : s.state <;> simp_all [SessionState.next]
      simp only [hsyning, hauth, if_false, List.append_nil]
      exact hdrive.goTo _ _ fun _ => rfl
  · rw [if_pos hneg, if_pos hneg]
    exact hdrive.fail _ _ (by decide)
  · have hst : ConnectorApp.sessionState p e₁.world ≠ .stateSyning := by
      simp [ConnectorApp.sessionState, hgone]
    have hauth : s.state ≠ .stateAuth := by simp [hok]
    simp only [lt_irrefl, hst, hauth, if_false, List.append_nil]
    exact hdrive.goTo _ _ fun _ => rfl

/-- A message of the client once its sequence number was noted. -/
theorem emits_checked (h : Inv e.world) (hc : e.statics.Clean code)
    (hs : e.world.getUserContext p = some s) (debug : Bool) (upMsg : CSMsg) :
    Emits code (code.checkedFrames s e.world upMsg) e.frames
      (if ¬ s.beenReady then (code.app debug).handshakeFrontEnd p e.world
        else if upMsg.head.bodyid ≠ CSBodyCmdId.dataTransparent.value then (-1, e.world)
        else Connector.forwardUpSideMessage code.protobuf s upMsg.head.sequence.toUInt64
          (upMsg.body.data.getD []) e.world)
      (if ¬ s.beenReady then e.handshakeFrontEnd code p
        else if upMsg.head.bodyid ≠ CSBodyCmdId.dataTransparent.value then (-1, e)
        else e.forwardUpSideMessage code s upMsg.head.sequence.toUInt64
          (upMsg.body.data.getD [])) := by
  unfold GeneratedCode.checkedFrames
  by_cases hready : s.beenReady = true
  · simp only [hready, not_true, if_false]
    by_cases hbody : upMsg.head.bodyid = CSBodyCmdId.dataTransparent.value
    · simp only [hbody, ne_eq, not_true, if_false]
      exact emits_forwardUpSideMessage hc _ _
    · simp only [hbody, ne_eq, not_false_eq_true, if_true]
      exact .none hc _ _ fun _ => rfl
  · simp only [hready, Bool.false_eq_true, not_false_eq_true, if_true]
    exact emits_handshakeFrontEnd h hc hs debug

/-- `OnRecvFrontEnd` emits what its session and the message determine. -/
theorem emits_onRecvFrontEnd (h : Inv e.world) (hc : e.statics.Clean code)
    (hs : e.world.getUserContext p = some s) (debug : Bool) (msg : List UInt8) (size : Nat) :
    Emits code (code.frontEndFrames s e.world (code.protobuf.parseCSMsg msg size)) e.frames
      ((code.app debug).onRecvFrontEnd p msg size e.world) (e.onRecvFrontEnd code p msg size) := by
  have hparse : CSMsg.read (run (code.parseCSMsgOps msg size) e.statics.upMsg) =
      code.protobuf.parseCSMsg msg size := congrArg CSMsg.read (hc.upMsg (msg, size))
  have ht : Statics.Clean code
      { e.statics with upMsg := run (code.parseCSMsgOps msg size) e.statics.upMsg } :=
    { hc with upMsg := hc.upMsg.run (overwriting_parse _) (msg, size) }
  have halike := Watch.alike_checkUpSideMessage s (code.protobuf.parseCSMsg msg size)
  unfold onRecvFrontEnd ConnectorApp.onRecvFrontEnd GeneratedCode.frontEndFrames
  dsimp only [GeneratedCode.app]
  rw [hs]
  dsimp only
  rw [hparse]
  generalize code.protobuf.parseCSMsg msg size = upMsg at *
  generalize ({ e.statics with upMsg := _ } : Statics) = t at ht ⊢
  generalize s.checkUpSideMessage upMsg = r at halike ⊢
  rcases r with ⟨ret, s₁⟩
  dsimp only at halike ⊢
  by_cases hret : ret = 0
  · simp only [hret, ne_eq, not_true, if_false]
    obtain ⟨hset, hctx⟩ := Effect.setUserContext h s₁ hs halike.netStub
    have hlinks := (Watch.sameLinks_setUserContext e.world p s₁).1
    rw [← GeneratedCode.checkedFrames_congr code upMsg halike.state
      (tuple_of_sameLinks hlinks halike.netStub halike.sid)]
    exact emits_checked (e := { e with world := e.world.setUserContext p s₁, statics := t })
      (hset.inv h) ht hctx debug upMsg
  · simp only [hret, ne_eq, not_false_eq_true, if_true]
    exact Emits.none (e := { e with statics := t }) ht _ _ fun _ => rfl

/-- What a message of a backend server makes the connector emit. -/
theorem emits_relayToFrontEnd (h : Inv e.world) (hc : e.statics.Clean code)
    (hs : e.world.getUserContext p = some s) (debug : Bool) (downMsg : SSMsg) :
    Emits code (code.backEndFrames debug s e.world downMsg) e.frames
      ((code.app debug).relayToFrontEnd p s downMsg e.world)
      (e.relayToFrontEnd code debug p s downMsg) := by
  have hneg : ¬ (-1 : Int) = 0 := by decide
  unfold relayToFrontEnd ConnectorApp.relayToFrontEnd GeneratedCode.backEndFrames
  dsimp only [GeneratedCode.app]
  by_cases hdata : downMsg.head.bodyid = SSBodyCmdId.data.value
  · simp only [hdata, ne_eq, not_true, if_false]
    by_cases hstate : debug = false ∧ ¬ s.state = .stateOk
    · have hnone : debug = false ∧ (¬ s.state = .stateOk ∨ ¬ s.sid = downMsg.head.session.sid) :=
        ⟨hstate.1, .inl hstate.2⟩
      rw [if_pos hstate, if_pos hstate, if_pos hnone]
      exact .none hc _ _ fun _ => rfl
    by_cases hsid : debug = false ∧ ¬ s.sid = downMsg.head.session.sid
    · have hnone : debug = false ∧ (¬ s.state = .stateOk ∨ ¬ s.sid = downMsg.head.session.sid) :=
        ⟨hsid.1, .inr hsid.2⟩
      rw [if_neg hstate, if_neg hstate, if_pos hsid, if_pos hsid, if_pos hnone]
      exact .none hc _ _ fun _ => rfl
    · have hsome :
          ¬ (debug = false ∧ (¬ s.state = .stateOk ∨ ¬ s.sid = downMsg.head.session.sid)) :=
        fun ⟨hd, hor⟩ => hor.elim (fun hst => hstate ⟨hd, hst⟩) fun hne => hsid ⟨hd, hne⟩
      rw [if_neg hstate, if_neg hstate, if_neg hsid, if_neg hsid, if_neg hsome]
      exact emits_forwardDownSideMessage hc _ _
  · simp only [hdata, ne_eq, not_false_eq_true, if_true]
    by_cases hready : ¬ downMsg.head.bodyid = SSBodyCmdId.fin.value ∧ s.state = .stateOk
    · rw [if_pos hready, if_pos hready, if_pos hready]
      exact .none hc _ _ fun _ => rfl
    rw [if_neg hready, if_neg hready, if_neg hready]
    obtain ⟨ret, e₁, hold, hrun, hdrive, _, hor⟩ := driveStateMachine_cases h hc hs
    rw [hold, hrun]
    dsimp only
    rcases hor with ⟨rfl, _⟩ | rfl | ⟨rfl, _⟩
    · exact hdrive.goTo _ _ fun _ => rfl
    · rw [if_pos (by decide), if_pos (by decide)]
      exact hdrive.goTo _ _ fun hzero => absurd hzero hneg
    · exact hdrive.goTo _ _ fun _ => rfl

/-- The session that a message of a backend server is for. -/
def target (w : ConnectorWorld) (downMsg : SSMsg) : Option ConnectorSession :=
  (w.getFrontEndByAsyncIds downMsg.head.session.fd.toNat downMsg.head.session.nid.toNat).bind
    w.getUserContext

/-- `OnRecvBackEnd` emits what the session and the message determine. -/
theorem emits_onRecvBackEnd (h : Inv e.world) (hc : e.statics.Clean code) (debug : Bool)
    (msg : List UInt8) (size : Nat) :
    Emits code
      ((target e.world (code.protobuf.parseSSMsg msg size)).elim [] fun s =>
        code.backEndFrames debug s e.world (code.protobuf.parseSSMsg msg size)) e.frames
      ((code.app debug).onRecvBackEnd msg size e.world) (e.onRecvBackEnd code debug msg size) := by
  unfold onRecvBackEnd ConnectorApp.onRecvBackEnd target
  dsimp only [GeneratedCode.app, GeneratedCode.protobuf]
  generalize SSMsg.read (run (code.parseSSMsgOps msg size) empty) = downMsg
  cases e.world.getFrontEndByAsyncIds downMsg.head.session.fd.toNat
      downMsg.head.session.nid.toNat with
  | none => exact .none hc _ _ fun _ => rfl
  | some p =>
    dsimp only [Option.bind_some]
    cases hs : e.world.getUserContext p with
    | none => exact .none hc _ _ fun _ => rfl
    | some s => exact emits_relayToFrontEnd h hc hs debug downMsg

end Emit

end Rapidapp.Connector
