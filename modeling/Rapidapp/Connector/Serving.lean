import Rapidapp.Framework.OpenNets
import Rapidapp.Connector.SessionOk

/-!
# What the connector does for one client

`Serves` is the connector as one client and one backend server see it: the session of the client,
and the bytes written to the two so far. When no write fails, each message of the handshake and
each payload takes the session to its next state and appends one frame, or two, and closes nothing;
one lemma for each function of `ConnectorSession` and of `ConnectorApp`.
-/

namespace Rapidapp.Connector

open World ConnectorSession

/-- A client and a server that talk through the connector: their connections, and the ids of the
client's. -/
structure Route where
  client : NetPtr
  server : NetPtr
  fd : Int
  nid : Int
  fd_nonneg : 0 ≤ fd
  fd_lt : fd < 2 ^ 31

/-- The ids of the client in a message, and its session id. -/
def Route.tuple (r : Route) (sid : UInt32) : Tuple where
  fd := UInt32.ofNat (CInt.uint32 r.fd)
  nid := UInt64.ofNat (CInt.uint64 r.nid)
  sid := sid

theorem toNat_uint32 (x : Int) : (UInt32.ofNat (CInt.uint32 x)).toNat = CInt.uint32 x := by
  refine UInt32.toNat_ofNat_of_lt' ?_
  change CInt.uint32 x < 2 ^ 32
  unfold CInt.uint32
  omega

theorem toNat_uint64 (x : Int) : (UInt64.ofNat (CInt.uint64 x)).toNat = CInt.uint64 x := by
  refine UInt64.toNat_ofNat_of_lt' ?_
  change CInt.uint64 x < 2 ^ 64
  unfold CInt.uint64
  omega

/-- Whether a message between the connector and the server is about the client. -/
def Route.isFor (r : Route) (msg : SSMsg) : Prop :=
  msg.head.session.fd = (r.tuple 0).fd ∧ msg.head.session.nid = (r.tuple 0).nid

instance (r : Route) (msg : SSMsg) : Decidable (r.isFor msg) :=
  inferInstanceAs (Decidable (_ ∧ _))

/-- `s` is the session of the client, `down` was written to the client and `up` to the server, the
only backend. -/
structure Serves (r : Route) (w : ConnectorWorld) (s : ConnectorSession) (down up : List UInt8) :
    Prop where
  inv : Inv w
  fate : ∀ i, w.heap.fate i = true
  backEnds : w.app.backends = [r.server]
  at_ : w.At r.client r.fd r.nid
  session : w.getUserContext r.client = some s
  client : w.Wired r.client down
  server : w.Wired r.server up

/-- The message of `StartToBackEnd` for a client. -/
def startMsgOf (tuple : Tuple) : SSMsg where
  head := { sequence := 1, bodyid := SSBodyCmdId.syn.value, session := tuple }
  body := { syn := some 0 }

/-- The message of `ForwardUpSideMessage` for a client. -/
def upSideMsgOf (tuple : Tuple) (sequence : UInt64) (data : List UInt8) : SSMsg where
  head := { sequence := sequence.toInt64, bodyid := SSBodyCmdId.data.value, session := tuple }
  body := { data := some data }

variable {r : Route} {w w' : ConnectorWorld} {s s' : ConnectorSession}
  {down down' up up' : List UInt8}

theorem isSome_nets_of_context {p : NetPtr} (h : w.getUserContext p = some s) :
    (w.heap.nets p).isSome := by
  obtain ⟨n, hn, _⟩ := exists_of_getUserContext h
  rw [hn]
  rfl

namespace Serves

theorem server_mem (h : Serves r w s down up) : r.server ∈ w.app.backends := by
  rw [h.backEnds]
  exact List.mem_singleton_self _

theorem stub (h : Serves r w s down up) : s.netStub = some r.client := (h.inv.session h.session).1

theorem inFront (h : Serves r w s down up) : w.InFront r.client := (h.inv.session h.session).2

theorem not_inFront (h : Serves r w s down up) : ¬ w.InFront r.server :=
  (h.inv.backEnds _ h.server_mem).2

theorem client_ne (h : Serves r w s down up) : r.client ≠ r.server := fun heq =>
  h.not_inFront (heq ▸ h.inFront)

/-- A backend has no session. -/
theorem context_server (h : Serves r w s down up) : w.getUserContext r.server = none := by
  cases hs : w.getUserContext r.server with
  | none => rfl
  | some s₁ => exact absurd (h.inv.session hs).2 h.not_inFront

theorem tuple (h : Serves r w s down up) : s.tuple w = r.tuple s.sid := by
  simp only [ConnectorSession.tuple, h.stub, h.at_.getNetIds]
  rfl

theorem startMsg (h : Serves r w s down up) : s.startMsg w = startMsgOf (r.tuple s.sid) := by
  rw [← h.tuple]
  rfl

theorem upSideMsg (h : Serves r w s down up) (sequence : UInt64) (data : List UInt8) :
    s.upSideMsg w sequence data = upSideMsgOf (r.tuple s.sid) sequence data := by
  rw [← h.tuple]
  rfl

/-- Handling a message for some connection keeps what is not written anew. -/
theorem of_effect (h : Serves r w s down up) {c : NetPtr} (he : Effect c w w')
    (hfate : w'.heap.fate = w.heap.fate) (hs : w'.getUserContext r.client = some s')
    (hclient : w'.Wired r.client down') (hserver : w'.Wired r.server up') :
    Serves r w' s' down' up' where
  inv := he.inv h.inv
  fate := by rw [hfate]; exact h.fate
  backEnds := he.app.trans h.backEnds
  at_ := h.at_.stable he.kept.stable (isSome_nets_of_context hs)
  session := hs
  client := hclient
  server := hserver

/-! ## The operations of the framework -/

/-- There is one backend, so it is its turn. -/
theorem next (h : Serves r w s down up) : w.app.next.1 = some r.server ∧
    Serves r { w with app := w.app.next.2 } s down up := by
  refine ⟨?_, h.of_effect (Effect.next h.inv r.client) rfl h.session h.client h.server⟩
  have hpos : (if w.app.backends.length ≤ w.app.backendPos then 0 else w.app.backendPos) = 0 := by
    rw [h.backEnds, List.length_singleton]
    split_ifs <;> omega
  change w.app.backends[_]? = _
  rw [hpos, h.backEnds]
  rfl

theorem setUserContext (h : Serves r w s down up) (s' : ConnectorSession)
    (hstub : s'.netStub = s.netStub) :
    Serves r (w.setUserContext r.client s') s' down up := by
  obtain ⟨he, hnew⟩ := Effect.setUserContext h.inv s' h.session hstub
  obtain ⟨n, hn, hctx⟩ := exists_of_getUserContext h.session
  have heq : w.setUserContext r.client s' =
      { w with heap := w.heap.setNet r.client { n with userContext := some s' } } := by
    simp only [World.setUserContext, hn, hctx]
  refine h.of_effect he (by rw [heq]; rfl) hnew ?_ ?_
  · rw [heq]
    exact h.client.setNet hn rfl rfl
  · rw [heq]
    exact h.server.setNet hn rfl rfl

theorem setState (h : Serves r w s down up) (state : SessionState) :
    Serves r (Connector.setState r.client state w) { s with state := state } down up := by
  simp only [Connector.setState, h.session]
  exact h.setUserContext _ rfl

theorem sendToFrontEnd (h : Serves r w s down up) {buf : List UInt8} (hbuf : buf ≠ []) :
    ∃ w', w.sendToFrontEnd (some r.client) buf = (0, w') ∧
      Serves r w' s (down ++ encodeMsg buf) up := by
  obtain ⟨hret, hclient⟩ := h.client.send h.fate hbuf
  have hother := leftAlone_send h.inv.ok h.client_ne.symm buf
  have heffect := Effect.send (p := r.client) h.inv (.inl rfl) buf
  have hfate := fate_send w.heap r.client buf
  have hctx := getUserContext_sendToFrontEnd w (some r.client) buf r.client
  rcases hsend : w.heap.send r.client buf with ⟨ret, h'⟩
  rw [hsend] at hret hclient hother heffect hfate
  obtain rfl : ret = .easyNetOk := hret
  have hrun : w.sendToFrontEnd (some r.client) buf = (0, { w with heap := h' }) := by
    simp only [World.sendToFrontEnd, hbuf, if_false, hsend]
  rw [hrun] at hctx
  exact ⟨_, hrun, h.of_effect heffect hfate (hctx.trans h.session) hclient
    (h.server.leftAlone hother)⟩

theorem sendToBackEnd (h : Serves r w s down up) {buf : List UInt8} (hbuf : buf ≠ []) :
    ∃ w', w.sendToBackEnd (some r.server) buf = (0, w') ∧
      Serves r w' s down (up ++ encodeMsg buf) := by
  obtain ⟨hret, hserver⟩ := h.server.send h.fate hbuf
  have hother := leftAlone_send h.inv.ok h.client_ne buf
  have heffect := Effect.send (p := r.client) h.inv (.inr h.server_mem) buf
  have hfate := fate_send w.heap r.server buf
  rcases hsend : w.heap.send r.server buf with ⟨ret, h'⟩
  rw [hsend] at hret hserver hother heffect hfate
  obtain rfl : ret = .easyNetOk := hret
  have hmid : Serves r { w with heap := h' } s down (up ++ encodeMsg buf) :=
    h.of_effect heffect hfate (hother.getUserContext.trans h.session) (h.client.leftAlone hother)
      hserver
  obtain ⟨n, b, e, hl, _⟩ := hserver
  have hn : h'.nets r.server = some n := hl.net
  have hset := Effect.setNet (p := r.client) hmid.inv h.server_mem hl.net w.now
  have hctx := getUserContext_setNet (w := { w with heap := h' })
    { n with lastActiveTimestamp := w.now } hl.net rfl r.client
  have hrun : w.sendToBackEnd (some r.server) buf =
      (0, { w with heap := h'.setNet r.server { n with lastActiveTimestamp := w.now } }) := by
    simp only [World.sendToBackEnd, hbuf, if_false, hsend, hn]
  refine ⟨_, hrun, ?_⟩
  exact hmid.of_effect hset rfl (hctx.trans hmid.session) (hmid.client.setNet hl.net rfl rfl)
    (hmid.server.setNet hl.net rfl rfl)

end Serves

/-! ## The member functions of the session -/

section Functions

variable (pb : Protobuf)

namespace Serves

theorem answerFrontEnd (h : Serves r w s down up) {msg : CSMsg} (hmsg : pb.serializeCSMsg msg ≠ [])
    (state : SessionState) :
    ∃ w', Connector.answerFrontEnd pb r.client s msg state w = (0, w') ∧
      Serves r w' { s with state := state } (down ++ encodeMsg (pb.serializeCSMsg msg)) up := by
  obtain ⟨w', hsend, hserves⟩ := h.sendToFrontEnd hmsg
  refine ⟨_, ?_, hserves.setState state⟩
  simp only [Connector.answerFrontEnd, serializeAndSendToFrontEnd, h.stub, hsend, ne_eq, not_true,
    if_false]

theorem handShakeStartSession (h : Serves r w s down up) (hframe : s.frameStub = true)
    (hmsg : pb.serializeSSMsg (startMsgOf (r.tuple s.sid)) ≠ []) :
    ∃ w', Connector.handShakeStartSession pb r.client s w = (0, w') ∧
      Serves r w' { s with state := .stateSynack } down
        (up ++ encodeMsg (pb.serializeSSMsg (startMsgOf (r.tuple s.sid)))) := by
  obtain ⟨hnext, hserves⟩ := h.next
  obtain ⟨w', hsend, hserves'⟩ := hserves.sendToBackEnd hmsg
  rw [← hserves.startMsg] at hsend
  refine ⟨_, ?_, hserves'.setState .stateSynack⟩
  simp only [Connector.handShakeStartSession, startToBackEnd, hframe, hnext, hsend, ne_eq, not_true,
    Bool.true_eq_false, if_false]

theorem sendDataToBackEnd (h : Serves r w s down up) {data : List UInt8} (hdata : data ≠ []) :
    ∃ w', Connector.sendDataToBackEnd data w = (0, w') ∧
      Serves r w' s down (up ++ encodeMsg data) := by
  obtain ⟨hnext, hserves⟩ := h.next
  obtain ⟨w', hsend, hserves'⟩ := hserves.sendToBackEnd hdata
  exact ⟨w', by simp only [Connector.sendDataToBackEnd, hnext, hsend, ne_eq, not_true, if_false],
    hserves'⟩

theorem forwardDownSideMessage (h : Serves r w s down up) (sequence : UInt64) {data : List UInt8}
    (hdata : data ≠ []) (hmsg : pb.serializeCSMsg (downSideMsg sequence data) ≠ []) :
    ∃ w', Connector.forwardDownSideMessage pb s sequence data w = (0, w') ∧
      Serves r w' s (down ++ encodeMsg (pb.serializeCSMsg (downSideMsg sequence data))) up := by
  obtain ⟨w', hsend, hserves⟩ := h.sendToFrontEnd hmsg
  refine ⟨w', ?_, hserves⟩
  simp only [Connector.forwardDownSideMessage, hdata, h.stub, hsend, ne_eq, not_true, if_false]

theorem sessionState (h : Serves r w s down up) :
    ConnectorApp.sessionState r.client w = s.state := sessionState_of_some h.session

end Serves

end Functions

/-! ## The callbacks -/

variable (c : ConnectorApp)

namespace Serves

/-- The first message of a client: it is given a key. -/
theorem onRecvFrontEnd_init (h : Serves r w s down up) {msg : List UInt8} {size : Nat}
    (hcheck : (s.checkUpSideMessage (c.pb.parseCSMsg msg size)).1 = 0)
    (hstate : s.state = .stateInit) (hmsg : c.pb.serializeCSMsg keyMakingMsg ≠ []) :
    Serves r (c.onRecvFrontEnd r.client msg size w).2
      { s.accept (c.pb.parseCSMsg msg size) with state := .stateAuth }
      (down ++ encodeMsg (c.pb.serializeCSMsg keyMakingMsg)) up := by
  rw [onRecvFrontEnd_accepted c h.session hcheck]
  generalize c.pb.parseCSMsg msg size = upMsg
  have hset := h.setUserContext (s.accept upMsg) rfl
  obtain ⟨w', hrun, hserves⟩ := hset.answerFrontEnd c.pb hmsg .stateAuth
  have hdrive : driveStateMachine c.pb r.client (w.setUserContext r.client (s.accept upMsg)) =
      (0, w') := by
    have hsame : (s.accept upMsg).state = .stateInit := hstate
    simp only [driveStateMachine, hset.session, hsame, handleKeyMaking, hrun]
  have hafter := hserves.sessionState
  simp only [hstate, ConnectorApp.handshakeFrontEnd, hdrive, hafter, lt_irrefl, ne_eq, reduceCtorEq,
    not_false_eq_true, if_true, if_false]
  exact hserves

/-- The second one: the client gets a passport, and the server is told of it. -/
theorem onRecvFrontEnd_auth (h : Serves r w s down up) (hframe : s.frameStub = true)
    {msg : List UInt8} {size : Nat}
    (hcheck : (s.checkUpSideMessage (c.pb.parseCSMsg msg size)).1 = 0)
    (hstate : s.state = .stateAuth) (hmsg : c.pb.serializeCSMsg authMsg ≠ [])
    (hstart : c.pb.serializeSSMsg (startMsgOf (r.tuple s.sid)) ≠ []) :
    Serves r (c.onRecvFrontEnd r.client msg size w).2
      { s.accept (c.pb.parseCSMsg msg size) with state := .stateSynack }
      (down ++ encodeMsg (c.pb.serializeCSMsg authMsg))
      (up ++ encodeMsg (c.pb.serializeSSMsg (startMsgOf (r.tuple s.sid)))) := by
  rw [onRecvFrontEnd_accepted c h.session hcheck]
  generalize c.pb.parseCSMsg msg size = upMsg
  have hset := h.setUserContext (s.accept upMsg) rfl
  obtain ⟨w', hrun, hserves⟩ := hset.answerFrontEnd c.pb hmsg .stateSyning
  have hdrive : driveStateMachine c.pb r.client (w.setUserContext r.client (s.accept upMsg)) =
      (0, w') := by
    have hsame : (s.accept upMsg).state = .stateAuth := hstate
    simp only [driveStateMachine, hset.session, hsame, handleAuthRequest, hrun]
  have hafter := hserves.sessionState
  -- `OnRecvFrontEnd` drives the machine once more
  obtain ⟨w'', hrun', hserves'⟩ := hserves.handShakeStartSession c.pb hframe hstart
  have hdrive' : driveStateMachine c.pb r.client w' = (0, w'') := by
    simp only [driveStateMachine, hserves.session, hrun']
  simp only [hstate, ConnectorApp.handshakeFrontEnd, hdrive, hafter, hdrive', lt_irrefl, ne_eq,
    reduceCtorEq, not_false_eq_true, if_true, if_false]
  exact hserves'

/-- A payload goes on to the server. -/
theorem onRecvFrontEnd_data (h : Serves r w s down up) {msg : List UInt8} {size : Nat}
    {upMsg : CSMsg} (hparse : c.pb.parseCSMsg msg size = upMsg)
    (hcheck : (s.checkUpSideMessage upMsg).1 = 0) (hstate : s.state = .stateOk)
    (hid : upMsg.head.bodyid = CSBodyCmdId.dataTransparent.value)
    (hmsg : c.pb.serializeSSMsg (upSideMsgOf (r.tuple s.sid) upMsg.head.sequence.toUInt64
      (upMsg.body.data.getD [])) ≠ []) :
    Serves r (c.onRecvFrontEnd r.client msg size w).2 (s.accept upMsg) down
      (up ++ encodeMsg (c.pb.serializeSSMsg (upSideMsgOf (r.tuple s.sid)
        upMsg.head.sequence.toUInt64 (upMsg.body.data.getD [])))) := by
  rw [onRecvFrontEnd_accepted c h.session (hparse.symm ▸ hcheck), hparse]
  have hset := h.setUserContext (s.accept upMsg) rfl
  obtain ⟨w', hrun, hserves⟩ := hset.sendDataToBackEnd hmsg
  have hsame := hset.upSideMsg upMsg.head.sequence.toUInt64 (upMsg.body.data.getD [])
  simp only [hstate, hid, ne_eq, not_true, if_false, forwardUpSideMessage, hsame]
  have hsid : (s.accept upMsg).sid = s.sid := rfl
  rw [hsid, hrun]
  exact hserves

/-- A message of the server that is about the client is relayed to its session. -/
theorem onRecvBackEnd (h : Serves r w s down up) {msg : List UInt8} {size : Nat} {downMsg : SSMsg}
    (hparse : c.pb.parseSSMsg msg size = downMsg) (hfor : r.isFor downMsg) :
    c.onRecvBackEnd msg size w = c.relayToFrontEnd r.client s downMsg w := by
  have hfound := h.at_.found h.inv.ok h.inFront r.fd_nonneg r.fd_lt
  have hfd : downMsg.head.session.fd.toNat = CInt.uint32 r.fd := by
    rw [hfor.1]
    exact toNat_uint32 r.fd
  have hnid : downMsg.head.session.nid.toNat = CInt.uint64 r.nid := by
    rw [hfor.2]
    exact toNat_uint64 r.nid
  simp only [ConnectorApp.onRecvBackEnd, hparse, hfd, hnid, hfound, h.session]

/-- The server accepts the client, which is told to start. -/
theorem relayToFrontEnd_ack (h : Serves r w s down up) {downMsg : SSMsg}
    (hid : downMsg.head.bodyid ≠ SSBodyCmdId.data.value) (hstate : s.state = .stateSynack)
    (hmsg : c.pb.serializeCSMsg startAckedMsg ≠ []) :
    Serves r (c.relayToFrontEnd r.client s downMsg w).2
      { s with state := .stateOk, sid := downMsg.head.session.sid }
      (down ++ encodeMsg (c.pb.serializeCSMsg startAckedMsg)) up := by
  obtain ⟨w', hrun, hserves⟩ := h.answerFrontEnd c.pb hmsg .stateOk
  have hdrive : driveStateMachine c.pb r.client w = (0, w') := by
    simp only [driveStateMachine, h.session, hstate, handShakeOnStartAcked, hrun]
  have hset := hserves.setUserContext
    { s with state := .stateOk, sid := downMsg.head.session.sid } rfl
  simp only [ConnectorApp.relayToFrontEnd, hid, hstate, hdrive, ConnectorApp.setSid,
    hserves.session, ne_eq, not_false_eq_true, reduceCtorEq, and_false, if_true, if_false, lt_irrefl]
  exact hset

/-- A payload of the server goes on to the client. -/
theorem relayToFrontEnd_data (h : Serves r w s down up) {downMsg : SSMsg} {data : List UInt8}
    (hid : downMsg.head.bodyid = SSBodyCmdId.data.value) (hstate : s.state = .stateOk)
    (hsid : s.sid = downMsg.head.session.sid) (hbody : downMsg.body.data.getD [] = data)
    (hdata : data ≠ [])
    (hmsg : c.pb.serializeCSMsg (downSideMsg downMsg.head.sequence.toUInt64 data) ≠ []) :
    Serves r (c.relayToFrontEnd r.client s downMsg w).2 s
      (down ++ encodeMsg (c.pb.serializeCSMsg (downSideMsg downMsg.head.sequence.toUInt64 data)))
      up := by
  obtain ⟨w', hrun, hserves⟩ := h.forwardDownSideMessage c.pb downMsg.head.sequence.toUInt64 hdata
    hmsg
  simp only [ConnectorApp.relayToFrontEnd, hid, hstate, hsid, hbody, hrun, ne_eq, not_true,
    and_false, if_false]
  exact hserves

end Serves

end Rapidapp.Connector
