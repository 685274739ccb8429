import Rapidapp.Misc.Turns
import Rapidapp.Connector.Handshake

/-!
# Turns of the backends

`HandShake_StartSession` and `SendDataToBackEnd` (`server/connector/connector_session.cpp`) each
take the entry of `BackEndSet::backends_` at the cursor that all sessions share. A run of the
connector is read as the entries it selects, and the cursor as `Turns.Uses`: the two call sites
leave it in the same way, so it does not matter which of them made a selection.
-/

namespace Rapidapp.Connector

open World

/-- What one use of `backends_` reads: the index, and the pointer that stands there. -/
structure Selection where
  index : Nat
  backNet : Option NetPtr
  deriving DecidableEq

/-- The use that `BackEndSet.next` makes. -/
def BackEndSet.selection (b : BackEndSet) : Selection :=
  ⟨Turns.place b.backends.length b.backendPos, b.next.1⟩

namespace ConnectorApp

/-- The selections of `DriveStateMachine`: `HandShake_StartSession` makes one. -/
def driveSelections (p : NetPtr) (w : ConnectorWorld) : List Selection :=
  match w.getUserContext p with
  | none => []
  | some s =>
    match s.state with
    | .stateSyning => [w.app.selection]
    | .stateInit | .stateAuth | .stateSynack | .stateOk => []

variable (c : ConnectorApp)

/-- The selections of `handshakeFrontEnd`. -/
def handshakeSelections (net : NetPtr) (w : ConnectorWorld) : List Selection :=
  driveSelections net w ++
    match driveStateMachine c.pb net w with
    | (ret, w) =>
      if ret < 0 then []
      else if sessionState net w = .stateSyning then driveSelections net w
      else []

/-- The selections of `OnRecvFrontEnd`: `SendDataToBackEnd` makes one. -/
def recvFrontEndSelections (net : NetPtr) (msg : List UInt8) (size : Nat) (w : ConnectorWorld) :
    List Selection :=
  match w.getUserContext net with
  | none => []
  | some s =>
    let upMsg := c.pb.parseCSMsg msg size
    match s.checkUpSideMessage upMsg with
    | (ret, s) =>
      if ret ≠ 0 then []
      else
        let w := w.setUserContext net s
        if ¬ s.beenReady then c.handshakeSelections net w
        else if upMsg.head.bodyid ≠ CSBodyCmdId.dataTransparent.value then []
        else [w.app.selection]

/-- The selections of `OnRecvBackEnd`, where a message for a session that is not ready drives its
state machine. -/
def recvBackEndSelections (msg : List UInt8) (size : Nat) (w : ConnectorWorld) :
    List Selection :=
  let downMsg := c.pb.parseSSMsg msg size
  let ids := downMsg.head.session
  match w.getFrontEndByAsyncIds ids.fd.toNat ids.nid.toNat with
  | none => []
  | some frontNet =>
    match w.getUserContext frontNet with
    | none => []
    | some s =>
      if downMsg.head.bodyid ≠ SSBodyCmdId.data.value then
        if downMsg.head.bodyid ≠ SSBodyCmdId.fin.value ∧ s.state = .stateOk then []
        else driveSelections frontNet w
      else []

/-- The selections of one step. -/
def selections (w : ConnectorWorld) : Event → List Selection
  | .frontEndMsg net msg size => c.recvFrontEndSelections net msg size w
  | .backEndMsg msg size => c.recvBackEndSelections msg size w
  | _ => []

end ConnectorApp

/-- `AddBackEnd` is called for this event. -/
def Event.isBackEnd : Event → Bool
  | .backEnd _ => true
  | _ => false

/-! ## What leaves the backends alone -/

section App

variable (w : ConnectorWorld)

@[simp] theorem app_setMgr (side : Side) (m : NetHandlerMgr × Heap ConnectorSession) :
    (w.setMgr side m).app = w.app := by
  cases side <;> rfl

@[simp] theorem app_setUserContext (p : NetPtr) (s : ConnectorSession) :
    (w.setUserContext p s).app = w.app := by
  unfold World.setUserContext
  split
  · rfl
  · split <;> rfl

@[simp] theorem app_setState (p : NetPtr) (state : SessionState) :
    (setState p state w).app = w.app := by
  unfold setState
  split
  · rfl
  · simp

@[simp] theorem app_setSid (p : NetPtr) (sid : UInt32) :
    (ConnectorApp.setSid p sid w).app = w.app := by
  unfold ConnectorApp.setSid
  split
  · rfl
  · simp

@[simp] theorem app_destroyFrontEnd (net : Option NetPtr) :
    (w.destroyFrontEnd net).app = w.app := by
  unfold World.destroyFrontEnd World.destroyNet
  split
  · rfl
  · simp

@[simp] theorem app_sendToFrontEnd (net : Option NetPtr) (buf : List UInt8) :
    (w.sendToFrontEnd net buf).2.app = w.app := by
  obtain heq | ⟨q, _, heq⟩ := sendToFrontEnd_cases w net buf
  · rw [heq]
  · rw [heq]

@[simp] theorem app_sendToBackEnd (net : Option NetPtr) (buf : List UInt8) :
    (w.sendToBackEnd net buf).2.app = w.app := by
  obtain heq | ⟨q, _, heq | ⟨n, _, heq⟩⟩ := sendToBackEnd_cases w net buf
  · rw [heq]
  · rw [heq]
  · rw [heq]

end App

/-! ## The cursor -/

/-- The backends are still `b`'s, and its cursor was used for these selections. -/
structure Turned (b : BackEndSet) (l : List Selection) (b' : BackEndSet) : Prop where
  backends : b'.backends = b.backends
  uses : Turns.Uses b.backends.length b.backendPos (l.map Selection.index) b'.backendPos
  backNet : ∀ x ∈ l, x.backNet = b.backends[x.index]?

namespace Turned

variable {b b' b'' : BackEndSet} {l l' : List Selection}

theorem refl (b : BackEndSet) : Turned b [] b :=
  ⟨rfl, .nil _, by simp⟩

theorem of_eq (h : b' = b) : Turned b [] b' := h ▸ refl b

theorem trans (h : Turned b l b') (h' : Turned b' l' b'') : Turned b (l ++ l') b'' where
  backends := h'.backends.trans h.backends
  uses := by
    have huses := h'.uses
    rw [h.backends] at huses
    rw [List.map_append]
    exact h.uses.append huses
  backNet x hx := by
    obtain hx | hx := List.mem_append.mp hx
    · exact h.backNet x hx
    · rw [h'.backNet x hx, h.backends]

theorem next (b : BackEndSet) : Turned b [b.selection] b.next.2 where
  backends := rfl
  uses := .once _ _
  backNet x hx := by
    obtain rfl := List.mem_singleton.mp hx
    rfl

end Turned

variable {c : ConnectorApp} {w w' : ConnectorWorld}

theorem app_answerFrontEnd (pb : Protobuf) (p : NetPtr) (s : ConnectorSession) (msg : CSMsg)
    (state : SessionState) (w : ConnectorWorld) :
    (answerFrontEnd pb p s msg state w).2.app = w.app := by
  have hsend := app_sendToFrontEnd w s.netStub (pb.serializeCSMsg msg)
  have hserialize : (serializeAndSendToFrontEnd pb s msg w).2.app = w.app := by
    unfold serializeAndSendToFrontEnd
    dsimp only
    split_ifs
    · rw [app_destroyFrontEnd]
      exact hsend
    · exact hsend
  unfold answerFrontEnd
  dsimp only
  split_ifs
  · exact hserialize
  · rw [app_setState]
    exact hserialize

theorem turned_handShakeStartSession (pb : Protobuf) (p : NetPtr) (s : ConnectorSession)
    (w : ConnectorWorld) :
    Turned w.app [w.app.selection] (handShakeStartSession pb p s w).2.app := by
  have hstart : ∀ (net : Option NetPtr) (w : ConnectorWorld),
      (startToBackEnd pb s net w).2.app = w.app := by
    intro net w
    unfold startToBackEnd
    split_ifs
    · rfl
    cases net with
    | none => rfl
    | some q =>
      have hsend := app_sendToBackEnd w (some q) (pb.serializeSSMsg (s.startMsg w))
      dsimp only
      split_ifs
      · exact hsend
      · exact hsend
  have happ : (handShakeStartSession pb p s w).2.app = w.app.next.2 := by
    have hw' := hstart w.app.next.1 { w with app := w.app.next.2 }
    unfold handShakeStartSession
    dsimp only
    split_ifs
    · exact hw'
    · rw [app_setState]
      exact hw'
  rw [happ]
  exact Turned.next w.app

theorem turned_driveStateMachine (pb : Protobuf) (p : NetPtr) (w : ConnectorWorld) :
    Turned w.app (ConnectorApp.driveSelections p w) (driveStateMachine pb p w).2.app := by
  unfold ConnectorApp.driveSelections driveStateMachine
  cases w.getUserContext p with
  | none => exact Turned.refl w.app
  | some s =>
    dsimp only
    cases s.state
    · exact .of_eq (app_answerFrontEnd pb p s _ _ w)
    · exact .of_eq (app_answerFrontEnd pb p s _ _ w)
    · exact turned_handShakeStartSession pb p s w
    · exact .of_eq (app_answerFrontEnd pb p s _ _ w)
    · exact .of_eq (app_destroyFrontEnd w _)

theorem turned_forwardUpSideMessage (pb : Protobuf) (s : ConnectorSession) (sequence : UInt64)
    (data : List UInt8) (w : ConnectorWorld) :
    Turned w.app [w.app.selection] (forwardUpSideMessage pb s sequence data w).2.app := by
  have happ : (forwardUpSideMessage pb s sequence data w).2.app = w.app.next.2 := by
    have hsend := app_sendToBackEnd { w with app := w.app.next.2 } w.app.next.1
      (pb.serializeSSMsg (s.upSideMsg w sequence data))
    unfold forwardUpSideMessage sendDataToBackEnd
    dsimp only
    split_ifs
    · exact hsend
    · exact hsend
  rw [happ]
  exact Turned.next w.app

theorem turned_handshakeFrontEnd (net : NetPtr) (w : ConnectorWorld) :
    Turned w.app (c.handshakeSelections net w) (c.handshakeFrontEnd net w).2.app := by
  have hfirst := turned_driveStateMachine c.pb net w
  unfold ConnectorApp.handshakeSelections ConnectorApp.handshakeFrontEnd
  refine hfirst.trans ?_
  dsimp only
  by_cases hret : (driveStateMachine c.pb net w).1 < 0
  · rw [if_pos hret, if_pos hret]
    exact .of_eq (app_destroyFrontEnd _ _)
  rw [if_neg hret, if_neg hret]
  by_cases hsyning : ConnectorApp.sessionState net (driveStateMachine c.pb net w).2 = .stateSyning
  · have hsecond := turned_driveStateMachine c.pb net (driveStateMachine c.pb net w).2
    rw [if_pos hsyning, if_pos hsyning]
    split_ifs
    · rw [app_destroyFrontEnd]
      exact hsecond
    · exact hsecond
  · rw [if_neg hsyning, if_neg hsyning]
    exact Turned.refl _

theorem turned_onRecvFrontEnd (net : NetPtr) (msg : List UInt8) (size : Nat)
    (w : ConnectorWorld) :
    Turned w.app (c.recvFrontEndSelections net msg size w)
      (c.onRecvFrontEnd net msg size w).2.app := by
  unfold ConnectorApp.recvFrontEndSelections ConnectorApp.onRecvFrontEnd
  cases w.getUserContext net with
  | none => exact Turned.refl w.app
  | some s =>
    dsimp only
    rcases s.checkUpSideMessage (c.pb.parseCSMsg msg size) with ⟨ret, s'⟩
    have hset := app_setUserContext w net s'
    dsimp only
    by_cases hret : ret ≠ 0
    · rw [if_pos hret, if_pos hret]
      exact Turned.refl w.app
    rw [if_neg hret, if_neg hret, ← hset]
    by_cases hready : ¬ s'.beenReady
    · rw [if_pos hready, if_pos hready]
      exact turned_handshakeFrontEnd net _
    rw [if_neg hready, if_neg hready]
    split_ifs
    · exact Turned.refl _
    · exact turned_forwardUpSideMessage c.pb s' _ _ _

theorem app_forwardDownSideMessage (pb : Protobuf) (s : ConnectorSession) (sequence : UInt64)
    (data : List UInt8) (w : ConnectorWorld) :
    (forwardDownSideMessage pb s sequence data w).2.app = w.app := by
  have hsend := app_sendToFrontEnd w s.netStub
    (pb.serializeCSMsg (ConnectorSession.downSideMsg sequence data))
  unfold forwardDownSideMessage
  dsimp only
  split_ifs
  · rfl
  · exact hsend
  · exact hsend

theorem turned_onRecvBackEnd (msg : List UInt8) (size : Nat) (w : ConnectorWorld) :
    Turned w.app (c.recvBackEndSelections msg size w) (c.onRecvBackEnd msg size w).2.app := by
  unfold ConnectorApp.recvBackEndSelections ConnectorApp.onRecvBackEnd
  dsimp only
  set downMsg := c.pb.parseSSMsg msg size
  cases w.getFrontEndByAsyncIds downMsg.head.session.fd.toNat
    downMsg.head.session.nid.toNat with
  | none => exact Turned.refl w.app
  | some frontNet =>
    dsimp only
    cases w.getUserContext frontNet with
    | none => exact Turned.refl w.app
    | some s =>
      dsimp only
      unfold ConnectorApp.relayToFrontEnd
      by_cases hdata : downMsg.head.bodyid ≠ SSBodyCmdId.data.value
      · rw [if_pos hdata, if_pos hdata]
        split_ifs with hok
        · exact Turned.refl w.app
        · have hdrive := turned_driveStateMachine c.pb frontNet w
          dsimp only
          split_ifs
          · rw [app_destroyFrontEnd]
            exact hdrive
          · rw [app_setSid]
            exact hdrive
      · rw [if_neg hdata, if_neg hdata]
        split_ifs
        · exact .of_eq (app_destroyFrontEnd w _)
        · exact .of_eq (app_destroyFrontEnd w _)
        · exact .of_eq (app_forwardDownSideMessage c.pb s _ _ w)

/-! ## Steps and runs -/

theorem app_onFrontEndClose (net : NetPtr) (w : ConnectorWorld) :
    (ConnectorApp.onFrontEndClose net w).app = w.app := by
  unfold ConnectorApp.onFrontEndClose
  split
  · rfl
  · rw [app_setUserContext]

theorem app_onFrontEndSocketEvent (b : BevPtr) (events : BevEvents) (w : ConnectorWorld) :
    (w.onFrontEndSocketEvent ConnectorApp.onFrontEndClose b events).app = w.app := by
  have hclose : (w.closeFrontEnd ConnectorApp.onFrontEndClose b).app = w.app := by
    unfold World.closeFrontEnd
    dsimp only
    rw [app_setMgr]
    split
    · rfl
    · exact app_onFrontEndClose _ w
  unfold World.onFrontEndSocketEvent
  split_ifs
  · exact hclose
  · rfl
  · exact hclose
  · rfl

theorem app_onFrontEndConnect (h : Inv w) {fd : Int} (hfd : w.FreshFd fd)
    (bevOk callocOk : Bool) :
    (w.onFrontEndConnect ConnectorApp.onFrontEndConnect fd bevOk callocOk).app = w.app := by
  obtain hcalm | ⟨w₁, hacc, heq⟩ :=
    onFrontEndConnect_cases h.ok h.nid ConnectorApp.onFrontEndConnect hfd bevOk callocOk
  · exact hcalm.app
  · rw [heq, ConnectorApp.onFrontEndConnect, ← hacc.app]
    split
    · rfl
    · rw [app_setUserContext]

/-- Every step but an `AddBackEnd` uses the cursor for just its selections. -/
theorem step_turned (h : Inv w) {e : Event} (he : e.isBackEnd = false)
    (hstep : c.step w e = some w') : Turned w.app (c.selections w e) w'.app := by
  cases e with
  | backEnd connect => cases he
  | connect fd bevOk callocOk =>
    rw [ConnectorApp.step] at hstep
    split_ifs at hstep with hfd
    cases hstep
    exact .of_eq (app_onFrontEndConnect h (hfd.freshFd h.ok) bevOk callocOk)
  | frontEndSocket b events =>
    cases hstep
    exact .of_eq (app_onFrontEndSocketEvent b events w)
  | backEndSocket b events =>
    cases hstep
    exact .of_eq (calm_onBackEndSocketEvent h.ok h.nid b events).app
  | frontEndMsg net msg size =>
    cases hstep
    exact turned_onRecvFrontEnd net msg size w
  | backEndMsg msg size =>
    cases hstep
    exact turned_onRecvBackEnd msg size w
  | tick now setting =>
    cases hstep
    exact .of_eq (calm_tick h.ok h.nid now setting).app
  | input b chunk =>
    cases hstep
    exact .of_eq (calm_evbufferAdd h.ok h.nid b chunk).app
  | countPkg p =>
    cases hstep
    have hcalm : Calm w (w.modifyNet p countPkg) :=
      calm_modifyNet h.ok h.nid p (fun _ => rfl) (fun _ => rfl) fun _ => rfl
    exact .of_eq hcalm.app
  | drain b len =>
    cases hstep
    exact .of_eq (calm_evbufferDrain h.ok h.nid b len).app
  | countTraffic p elapsed =>
    cases hstep
    have hcalm : Calm w (w.modifyNet p (countTraffic elapsed w.now)) :=
      calm_modifyNet h.ok h.nid p (fun _ => rfl) (fun _ => rfl) fun _ => rfl
    exact .of_eq hcalm.app

/-- A run without an `AddBackEnd` uses the cursor for just its selections. -/
theorem run_turned (h : Inv w) {es : List Event} (hes : ∀ e ∈ es, e.isBackEnd = false)
    (hrun : Run.run c.step w es = some w') :
    Turned w.app (Run.trace c.step c.selections w es) w'.app := by
  have hinv : Inv w' ∧ Turned w.app ([] ++ Run.trace c.step c.selections w es) w'.app := by
    refine Run.run_inv_observed (I := fun t l => Inv t ∧ Turned w.app l t.app)
      (P := fun _ e => e.isBackEnd = false) ?_ ⟨h, Turned.refl w.app⟩
      (Run.along_of_forall (fun e he _ => hes e he) w) hrun
    intro s l e s' hI he hstep
    exact ⟨(step_spec hI.1 hstep).1, hI.2.trans (step_turned hI.1 he hstep)⟩
  exact hinv.2

/-- `AddBackEnd` leaves the cursor where it is. -/
theorem backendPos_onInitBackEnd (connect : Option Int) (w : ConnectorWorld) :
    (ConnectorApp.onInitBackEnd connect w).app.backendPos = w.app.backendPos := by
  have hadd : ∀ (b : BackEndSet) (q : NetPtr), (b.addBackEnd q).backendPos = b.backendPos := by
    intro b q
    unfold BackEndSet.addBackEnd
    split_ifs
    · rfl
    · rfl
  unfold ConnectorApp.onInitBackEnd
  obtain ⟨_, heq⟩ | ⟨fd, n, _, _, heq⟩ := createBackEnd_cases w 0 connect
  · rw [heq]
  · rw [heq]
    dsimp only
    rw [hadd]
    exact congrArg BackEndSet.backendPos (app_setMgr w .backEnd _)

/-- `OnInit` leaves the cursor on the first backend. -/
theorem backendPos_of_onInit (hw : w.app.backendPos = 0) {es : List Event}
    (hes : ∀ e ∈ es, e.isBackEnd = true) (hrun : Run.run c.step w es = some w') :
    w'.app.backendPos = 0 := by
  refine Run.run_inv (I := fun t => t.app.backendPos = 0) (P := fun _ e => e.isBackEnd = true) ?_
    hw (Run.along_of_forall (fun e he _ => hes e he) w) hrun
  intro s e s' hs he hstep
  cases e with
  | backEnd connect =>
    rw [ConnectorApp.step] at hstep
    split_ifs at hstep
    cases hstep
    rw [backendPos_onInitBackEnd, hs]
  | _ => cases he

/-- After `OnInit` has registered `n` backends, every selection of any run is of a registered
backend, and at any time each of them was selected `⌊k / n⌋` or `⌈k / n⌉` of the `k` times. -/
theorem backEnds_take_turns (fate : Nat → Bool) (frontRecv backRecv : RapBuffer) (now : Int)
    {onInit es : List Event} (hinit : ∀ e ∈ onInit, e.isBackEnd = true)
    (hes : ∀ e ∈ es, e.isBackEnd = false)
    (hstart : Run.run c.step (ConnectorWorld.start fate frontRecv backRecv now) onInit = some w)
    (hrun : Run.run c.step w es = some w') (hn : 1 ≤ w.app.backends.length) :
    (∀ x ∈ Run.trace c.step c.selections w es, x.index < w.app.backends.length ∧
      ∃ q ∈ w.app.backends, w.app.backends[x.index]? = some q ∧ x.backNet = some q) ∧
    ∀ k ≤ (Run.trace c.step c.selections w es).length, ∀ j < w.app.backends.length,
      let times := (((Run.trace c.step c.selections w es).take k).map Selection.index).count j
      times = k / w.app.backends.length ∨ times = k ⌈/⌉ w.app.backends.length := by
  have hInv : Inv w := run_inv (Inv.start fate frontRecv backRecv now) hstart
  have hpos : w.app.backendPos = 0 := backendPos_of_onInit rfl hinit hstart
  have hturned := run_turned hInv hes hrun
  have huses := hturned.uses
  rw [hpos] at huses
  constructor
  · intro x hx
    have hlt : x.index < w.app.backends.length :=
      huses.lt hn x.index (List.mem_map_of_mem hx)
    have hget := List.getElem?_eq_getElem hlt
    exact ⟨hlt, _, List.getElem_mem hlt, hget, (hturned.backNet x hx).trans hget⟩
  · intro k hk j hj
    rw [List.map_take]
    exact huses.count_take hn hj (by rwa [List.length_map])

/-- A message of the client for the server. -/
def dataMsg (sequence : Int64) : CSMsg where
  head := { sequence := sequence, bodyid := CSBodyCmdId.dataTransparent.value }
  body := { data := some [104, 105] }

/-- A client whose session starts, and that then sends two messages. -/
def forwarding : List Event :=
  [.backEndSocket 0 { connected := true }, .backEndSocket 1 { connected := true },
    .connect 7 true true] ++
  [synMsg, authenticationMsg].map (fun msg =>
    .frontEndMsg 2 (Wire.encodeCSMsg msg) (Wire.encodeCSMsg msg).length) ++
  [.backEndMsg (Wire.encodeSSMsg { ackMsg with head := { ackMsg.head with session := ⟨7, 3, 5⟩ } })
    (Wire.encodeSSMsg { ackMsg with head := { ackMsg.head with session := ⟨7, 3, 5⟩ } }).length] ++
  [dataMsg 3, dataMsg 4].map (fun msg =>
    .frontEndMsg 2 (Wire.encodeCSMsg msg) (Wire.encodeCSMsg msg).length)

theorem backEnds_take_turns_forwarding :
    ∃ w, Run.run ConnectorApp.greeting.step
        (ConnectorWorld.start (fun _ => true) .small .small 0)
        [.backEnd (some 3), .backEnd (some 4)] = some w ∧
      Run.trace ConnectorApp.greeting.step ConnectorApp.greeting.selections w forwarding =
        [⟨0, some 0⟩, ⟨1, some 1⟩, ⟨0, some 0⟩] ∧
      ∀ k ≤ 3, ∀ j < 2, ([0, 1, 0].take k).count j = k / 2 ∨
        ([0, 1, 0].take k).count j = k ⌈/⌉ 2 := by
  have hseen : ((Run.run ConnectorApp.greeting.step
      (ConnectorWorld.start (fun _ => true) .small .small 0)
      [.backEnd (some 3), .backEnd (some 4)]).map fun w =>
        (w.app.backends,
          Run.trace ConnectorApp.greeting.step ConnectorApp.greeting.selections w forwarding,
          (Run.run ConnectorApp.greeting.step w forwarding).isSome)) =
      some ([0, 1], [⟨0, some 0⟩, ⟨1, some 1⟩, ⟨0, some 0⟩], true) := by decide +kernel
  obtain ⟨w, hw, hseen⟩ := Option.map_eq_some_iff.mp hseen
  simp only [Prod.mk.injEq] at hseen
  obtain ⟨hbackends, htrace, hend⟩ := hseen
  obtain ⟨w', hw'⟩ := Option.isSome_iff_exists.mp hend
  have hturns := (backEnds_take_turns (fun _ => true) .small .small 0 (by decide) (by decide)
    hw hw' (by rw [hbackends]; decide)).2
  rw [htrace, hbackends] at hturns
  refine ⟨w, hw, htrace, fun k hk j hj => ?_⟩
  have htimes := hturns k hk j hj
  rw [List.map_take] at htimes
  exact htimes

end Rapidapp.Connector
