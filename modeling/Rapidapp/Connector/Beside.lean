import Rapidapp.Misc.Lane
import Rapidapp.Connector.BackEndTurns
import Rapidapp.Connector.Serving
import Rapidapp.Connector.Addressing

/-!
# What the connector does for everybody else

The other clients share the process and the backend server with a client. Whatever they send and
whatever happens to them, the client keeps its session and its output; what is written to the
server meanwhile are whole messages that are not about the client (`Beside`).
-/

namespace Rapidapp.Connector

open World ConnectorSession Framing

/-- A message on the connection to a backend server. -/
def ssFrame (pb : Protobuf) (msg : SSMsg) : List UInt8 := encodeMsg (pb.serializeSSMsg msg)

/-- The connector after some work for others: `s` is still the session of the client, nothing was
written to the client, and only messages about others were written behind `up`. -/
structure Beside (pb : Protobuf) (r : Route) (s : ConnectorSession) (down up : List UInt8)
    (w : ConnectorWorld) : Prop where
  few : (w.heap.nextNet : Int) < 2 ^ 31
  serves : ∃ ms : List SSMsg, (∀ m ∈ ms, ¬ r.isFor m) ∧
    Serves r w s down (up ++ Decoder.stream (ssFrame pb) ms)

variable {pb : Protobuf} {r : Route} {s : ConnectorSession} {down up : List UInt8}
  {w w' : ConnectorWorld}

theorem Serves.beside (h : Serves r w s down up) (hfew : (w.heap.nextNet : Int) < 2 ^ 31) :
    Beside pb r s down up w :=
  ⟨hfew, [], fun _ hm => (List.not_mem_nil hm).elim, by rwa [Decoder.stream_nil, List.append_nil]⟩

/-- Another connection than those of the client and the server. -/
structure Other (r : Route) (c : NetPtr) : Prop where
  client : c ≠ r.client
  server : c ≠ r.server

variable {c : NetPtr} {s₁ : ConnectorSession}

/-- A session of another client belongs to another connection. -/
theorem Serves.other (h : Serves r w s down up) (hc : c ≠ r.client)
    (hs : w.getUserContext c = some s₁) : Other r c where
  client := hc
  server heq := by rw [heq, h.context_server] at hs; cases hs

/-- What the connector tells the server about another client. -/
theorem Serves.not_isFor (h : Serves r w s down up) (hfew : (w.heap.nextNet : Int) < 2 ^ 31)
    (hc : c ≠ r.client) (hthere : (w.heap.nets c).isSome) (hstub : s₁.netStub = some c) {m : SSMsg}
    (hm : m.head.session = s₁.tuple w) : ¬ r.isFor m := by
  rintro ⟨hfd, hnid⟩
  obtain ⟨n, hn⟩ := Option.isSome_iff_exists.mp hthere
  obtain ⟨n', _, _, hl', _⟩ := h.client
  obtain ⟨b, e, hl⟩ := h.inv.ok.heap.owns hn
  have hids := getNetIds_of_live hl
  rw [hm] at hfd hnid
  simp only [ConnectorSession.tuple, hstub, hids, Route.tuple] at hfd hnid
  have hfd' : CInt.uint32 e.fd = CInt.uint32 r.fd := by
    have heq := congrArg UInt32.toNat hfd
    rwa [toNat_uint32, toNat_uint32] at heq
  have hnid' : CInt.uint64 n.nid = CInt.uint64 r.nid := by
    have heq := congrArg UInt64.toNat hnid
    rwa [toNat_uint64, toNat_uint64] at heq
  refine hc (getNetIds_inj h.inv h.inv hfew (le_refl _) hl'.net hn ?_)
  rw [hids, h.at_.getNetIds, hfd', hnid']

namespace Beside

theorem inv (h : Beside pb r s down up w) : Inv w := by
  obtain ⟨_, _, hserves⟩ := h.serves
  exact hserves.inv

theorem other (h : Beside pb r s down up w) (hc : c ≠ r.client)
    (hs : w.getUserContext c = some s₁) : Other r c := by
  obtain ⟨_, _, hserves⟩ := h.serves
  exact hserves.other hc hs

theorem stub (h : Beside pb r s down up w) (hs : w.getUserContext c = some s₁) :
    s₁.netStub = some c := (h.inv.session hs).1

/-! ## The operations of the framework -/

/-- Work for a connection that leaves the client and the server alone. -/
theorem of_effect (h : Beside pb r s down up w) (hnext : w'.heap.nextNet = w.heap.nextNet)
    (hfate : w'.heap.fate = w.heap.fate) (he : Effect c w w')
    (hclient : LeftAlone w w' r.client) (hserver : LeftAlone w w' r.server) :
    Beside pb r s down up w' := by
  obtain ⟨ms, hms, hserves⟩ := h.serves
  refine ⟨hnext ▸ h.few, ms, hms, hserves.of_effect he hfate ?_ (hserves.client.leftAlone hclient)
    (hserves.server.leftAlone hserver)⟩
  exact hclient.getUserContext.trans hserves.session

theorem next (h : Beside pb r s down up w) : w.app.next.1 = some r.server ∧
    Beside pb r s down up { w with app := w.app.next.2 } := by
  obtain ⟨ms, hms, hserves⟩ := h.serves
  exact ⟨hserves.next.1, h.few, ms, hms, hserves.next.2⟩

theorem setUserContext (h : Beside pb r s down up w) (hc : Other r c)
    (hs : w.getUserContext c = some s₁) {s₂ : ConnectorSession} (hstub : s₂.netStub = s₁.netStub) :
    Beside pb r s down up (w.setUserContext c s₂) := by
  obtain ⟨n, hn, hctx⟩ := exists_of_getUserContext hs
  have heq : w.setUserContext c s₂ =
      { w with heap := w.heap.setNet c { n with userContext := some s₂ } } := by
    simp only [World.setUserContext, hn, hctx]
  exact h.of_effect (nextNet_setUserContext w c s₂) (by rw [heq]; rfl)
    (Effect.setUserContext h.inv s₂ hs hstub).1 (leftAlone_setUserContext w hc.client.symm s₂)
    (leftAlone_setUserContext w hc.server.symm s₂)

theorem sendToFrontEnd (h : Beside pb r s down up w) (hc : Other r c) (buf : List UInt8) :
    Beside pb r s down up (w.sendToFrontEnd (some c) buf).2 := by
  obtain heq | ⟨q, hq, heq⟩ := sendToFrontEnd_cases w (some c) buf
  · rwa [heq]
  · obtain rfl := Option.some.inj hq
    obtain ⟨_, hwrote, _⟩ := w.heap.wrote_send c buf
    rw [heq]
    exact h.of_effect hwrote.nextNet (fate_send w.heap c buf) (Effect.send h.inv (.inl rfl) buf)
      (leftAlone_send h.inv.ok hc.client.symm buf) (leftAlone_send h.inv.ok hc.server.symm buf)

theorem destroyFrontEnd (h : Beside pb r s down up w) (hc : Other r c) :
    Beside pb r s down up (w.destroyFrontEnd (some c)) := by
  have hheap : (w.destroyFrontEnd (some c)).heap.nextNet = w.heap.nextNet ∧
      (w.destroyFrontEnd (some c)).heap.fate = w.heap.fate := by
    obtain heq | ⟨p, n, b, e, _, hl, _, heq⟩ := destroyNet_cases h.inv.ok .frontEnd (some c)
    · rw [World.destroyFrontEnd, heq]
      exact ⟨rfl, rfl⟩
    · rw [World.destroyFrontEnd, heq, w.heap_eraseAt .frontEnd e.fd hl]
      exact ⟨rfl, rfl⟩
  exact h.of_effect hheap.1 hheap.2 (Effect.destroyFrontEnd h.inv c)
    (leftAlone_destroyNet h.inv.ok .frontEnd hc.client.symm)
    (leftAlone_destroyNet h.inv.ok .frontEnd hc.server.symm)

theorem sendToBackEnd (h : Beside pb r s down up w) {m : SSMsg} (hm : ¬ r.isFor m) :
    Beside pb r s down up (w.sendToBackEnd (some r.server) (pb.serializeSSMsg m)).2 := by
  obtain ⟨ms, hms, hserves⟩ := h.serves
  by_cases hnil : pb.serializeSSMsg m = []
  · have hsame : (w.sendToBackEnd (some r.server) (pb.serializeSSMsg m)).2 = w := by
      simp only [World.sendToBackEnd, hnil, if_true]
    rwa [hsame]
  obtain ⟨w', hrun, hserves'⟩ := hserves.sendToBackEnd hnil
  have hnext : w'.heap.nextNet = w.heap.nextNet := by
    obtain heq | ⟨q, _, heq⟩ := sendToBackEnd_cases w (some r.server) (pb.serializeSSMsg m)
    · rw [hrun] at heq
      rw [show w' = w from heq]
    · obtain ⟨_, hwrote, _⟩ := w.heap.wrote_send q (pb.serializeSSMsg m)
      obtain heq | ⟨n, _, heq⟩ := heq
      · rw [hrun] at heq
        rw [show w' = _ from heq]
        exact hwrote.nextNet
      · rw [hrun] at heq
        rw [show w' = _ from heq]
        exact hwrote.nextNet
  rw [hrun]
  refine ⟨hnext ▸ h.few, ms ++ [m], ?_, ?_⟩
  · intro m' hm'
    obtain hm' | hm' := List.mem_append.mp hm'
    · exact hms m' hm'
    · rwa [List.mem_singleton.mp hm']
  · rwa [Decoder.stream_append, Decoder.stream_singleton, ← List.append_assoc]

/-! ## The member functions of a session -/

theorem setState (h : Beside pb r s down up w) (hc : c ≠ r.client) (state : SessionState) :
    Beside pb r s down up (Connector.setState c state w) := by
  unfold Connector.setState
  cases hs : w.getUserContext c with
  | none => exact h
  | some s₁ => exact h.setUserContext (h.other hc hs) hs rfl

theorem serializeAndSendToFrontEnd (h : Beside pb r s down up w) (hc : Other r c)
    (hstub : s₁.netStub = some c) (msg : CSMsg) :
    Beside pb r s down up (Connector.serializeAndSendToFrontEnd pb s₁ msg w).2 := by
  unfold Connector.serializeAndSendToFrontEnd
  rw [hstub]
  have hsend := h.sendToFrontEnd hc (pb.serializeCSMsg msg)
  generalize w.sendToFrontEnd (some c) (pb.serializeCSMsg msg) = ran at hsend ⊢
  obtain ⟨ret, w'⟩ := ran
  dsimp only at hsend ⊢
  split_ifs
  · exact hsend.destroyFrontEnd hc
  · exact hsend

theorem answerFrontEnd (h : Beside pb r s down up w) (hc : Other r c)
    (hstub : s₁.netStub = some c) (msg : CSMsg) (state : SessionState) :
    Beside pb r s down up (Connector.answerFrontEnd pb c s₁ msg state w).2 := by
  unfold Connector.answerFrontEnd
  have hsend := h.serializeAndSendToFrontEnd hc hstub msg
  generalize Connector.serializeAndSendToFrontEnd pb s₁ msg w = ran at hsend ⊢
  obtain ⟨ret, w'⟩ := ran
  dsimp only at hsend ⊢
  split_ifs
  · exact hsend
  · exact hsend.setState hc.client state

/-- A message about another client is written to the server. -/
theorem sendAbout (h : Beside pb r s down up w) (hc : c ≠ r.client)
    (hthere : (w.heap.nets c).isSome) (hstub : s₁.netStub = some c) {m : SSMsg}
    (hm : m.head.session = s₁.tuple w) :
    Beside pb r s down up (w.sendToBackEnd (some r.server) (pb.serializeSSMsg m)).2 := by
  obtain ⟨_, _, hserves⟩ := h.serves
  exact h.sendToBackEnd (hserves.not_isFor h.few hc hthere hstub hm)

theorem handShakeStartSession (h : Beside pb r s down up w) (hc : c ≠ r.client)
    (hs : w.getUserContext c = some s₁) :
    Beside pb r s down up (Connector.handShakeStartSession pb c s₁ w).2 := by
  obtain ⟨hnext, hbeside⟩ := h.next
  have hsend := hbeside.sendAbout (m := s₁.startMsg { w with app := w.app.next.2 }) hc
    (isSome_nets_of_context hs) (h.stub hs) rfl
  unfold Connector.handShakeStartSession
  rw [show w.app.next = (some r.server, w.app.next.2) from Prod.ext hnext rfl]
  dsimp only
  unfold startToBackEnd
  by_cases hframe : s₁.frameStub = false
  · simp only [hframe, if_true]
    exact hbeside
  · simp only [hframe]
    generalize ({ w with app := w.app.next.2 } : ConnectorWorld).sendToBackEnd (some r.server)
      (pb.serializeSSMsg (s₁.startMsg { w with app := w.app.next.2 })) = ran at hsend ⊢
    obtain ⟨ret, w'⟩ := ran
    dsimp only at hsend ⊢
    by_cases hret : ret = 0
    · simp only [hret, ne_eq, not_true, if_false]
      exact hsend.setState hc _
    · simp only [hret, ne_eq, not_false_eq_true, if_true]
      exact hsend

theorem driveStateMachine (h : Beside pb r s down up w) (hc : c ≠ r.client) :
    Beside pb r s down up (Connector.driveStateMachine pb c w).2 := by
  unfold Connector.driveStateMachine
  cases hs : w.getUserContext c with
  | none => exact h
  | some s₁ =>
    have hother := h.other hc hs
    have hstub := h.stub hs
    dsimp only
    cases s₁.state with
    | stateInit => exact h.answerFrontEnd hother hstub _ _
    | stateAuth => exact h.answerFrontEnd hother hstub _ _
    | stateSyning => exact h.handShakeStartSession hc hs
    | stateSynack => exact h.answerFrontEnd hother hstub _ _
    | stateOk =>
      dsimp only [handShakeOnStopNotify]
      rw [hstub]
      exact h.destroyFrontEnd hother

theorem sendDataToBackEnd (h : Beside pb r s down up w) {m : SSMsg} (hm : ¬ r.isFor m) :
    Beside pb r s down up (Connector.sendDataToBackEnd (pb.serializeSSMsg m) w).2 := by
  obtain ⟨hnext, hbeside⟩ := h.next
  have hsend := hbeside.sendToBackEnd hm
  unfold Connector.sendDataToBackEnd
  rw [show w.app.next = (some r.server, w.app.next.2) from Prod.ext hnext rfl]
  dsimp only
  generalize ({ w with app := w.app.next.2 } : ConnectorWorld).sendToBackEnd (some r.server)
    (pb.serializeSSMsg m) = ran at hsend ⊢
  obtain ⟨ret, w'⟩ := ran
  dsimp only at hsend ⊢
  split_ifs <;> exact hsend

end Beside

/-! ## The callbacks -/

section Callbacks

variable {app : ConnectorApp}

namespace Beside

theorem handshakeFrontEnd (h : Beside app.pb r s down up w) (hc : Other r c) :
    Beside app.pb r s down up (app.handshakeFrontEnd c w).2 := by
  unfold ConnectorApp.handshakeFrontEnd
  have hdrive := h.driveStateMachine hc.client
  generalize Connector.driveStateMachine app.pb c w = ran at hdrive ⊢
  obtain ⟨ret, w₁⟩ := ran
  dsimp only at hdrive ⊢
  have hagain := hdrive.driveStateMachine hc.client
  generalize Connector.driveStateMachine app.pb c w₁ = ran at hagain ⊢
  obtain ⟨ret₁, w₂⟩ := ran
  dsimp only at hagain ⊢
  split_ifs
  · exact hdrive.destroyFrontEnd hc
  · exact hagain.destroyFrontEnd hc
  · exact hagain
  · exact hdrive

/-- A message of another client. -/
theorem onRecvFrontEnd (h : Beside app.pb r s down up w) (hc : c ≠ r.client) (msg : List UInt8)
    (size : Nat) : Beside app.pb r s down up (app.onRecvFrontEnd c msg size w).2 := by
  cases hs : w.getUserContext c with
  | none =>
    have hsame : app.onRecvFrontEnd c msg size w = (-1, w) := by
      simp only [ConnectorApp.onRecvFrontEnd, hs]
    rwa [hsame]
  | some s₁ =>
    by_cases hcheck : (s₁.checkUpSideMessage (app.pb.parseCSMsg msg size)).1 = 0
    swap
    · rwa [onRecvFrontEnd_rejected app hs hcheck]
    have hother := h.other hc hs
    rw [onRecvFrontEnd_accepted app hs hcheck]
    generalize app.pb.parseCSMsg msg size = upMsg
    have hset : Beside app.pb r s down up (w.setUserContext c (s₁.accept upMsg)) :=
      h.setUserContext hother hs rfl
    have hnew := (Effect.setUserContext h.inv (s₁.accept upMsg) hs rfl).2
    obtain ⟨_, _, hserves⟩ := hset.serves
    dsimp only
    split_ifs
    · exact hset.handshakeFrontEnd hother
    · exact hset
    · exact hset.sendDataToBackEnd (hserves.not_isFor hset.few hc (isSome_nets_of_context hnew)
        (hset.stub hnew) rfl)

theorem setSid (h : Beside pb r s down up w) (hc : c ≠ r.client) (sid : UInt32) :
    Beside pb r s down up (ConnectorApp.setSid c sid w) := by
  unfold ConnectorApp.setSid
  cases hs : w.getUserContext c with
  | none => exact h
  | some s₁ => exact h.setUserContext (h.other hc hs) hs rfl

theorem relayToFrontEnd (h : Beside app.pb r s down up w) (hc : Other r c)
    (hstub : s₁.netStub = some c) (downMsg : SSMsg) :
    Beside app.pb r s down up (app.relayToFrontEnd c s₁ downMsg w).2 := by
  have hforward : Beside app.pb r s down up (forwardDownSideMessage app.pb s₁
      downMsg.head.sequence.toUInt64 (downMsg.body.data.getD []) w).2 := by
    unfold forwardDownSideMessage
    rw [hstub]
    split_ifs
    · exact h
    have hsend := h.sendToFrontEnd hc (app.pb.serializeCSMsg
      (downSideMsg downMsg.head.sequence.toUInt64 (downMsg.body.data.getD [])))
    generalize w.sendToFrontEnd (some c) (app.pb.serializeCSMsg
      (downSideMsg downMsg.head.sequence.toUInt64 (downMsg.body.data.getD []))) = ran at hsend ⊢
    obtain ⟨ret, w'⟩ := ran
    dsimp only at hsend ⊢
    split_ifs <;> exact hsend
  unfold ConnectorApp.relayToFrontEnd
  have hdrive := h.driveStateMachine hc.client
  generalize Connector.driveStateMachine app.pb c w = ran at hdrive ⊢
  obtain ⟨ret, w₁⟩ := ran
  dsimp only at hdrive ⊢
  split_ifs
  · exact h
  · exact hdrive.destroyFrontEnd hc
  · exact hdrive.setSid hc.client _
  · exact h.destroyFrontEnd hc
  · exact h.destroyFrontEnd hc
  · exact hforward

/-- A message of the server that is about another client, or about none. -/
theorem onRecvBackEnd (h : Beside app.pb r s down up w) {msg : List UInt8} {size : Nat}
    (hfor : ¬ r.isFor (app.pb.parseSSMsg msg size)) :
    Beside app.pb r s down up (app.onRecvBackEnd msg size w).2 := by
  obtain heq | ⟨c, s₁, _, hs, hids, heq⟩ := onRecvBackEnd_spec app h.inv msg size
  · rwa [heq]
  have hc : c ≠ r.client := by
    rintro rfl
    obtain ⟨_, _, hserves⟩ := h.serves
    rw [hserves.at_.getNetIds, Prod.mk.injEq] at hids
    refine hfor ⟨?_, ?_⟩
    · rw [Route.tuple, hids.1, UInt32.ofNat_toNat]
    · rw [Route.tuple, hids.2, UInt64.ofNat_toNat]
  rw [heq]
  exact h.relayToFrontEnd (h.other hc hs) (h.stub hs) _

end Beside

end Callbacks

/-! ## Everything that is not a message of the client or the server -/

/-- The connection is still there, and with it all that the two parties know of it. -/
theorem Serves.of_spares (h : Serves r w s down up) (hinv : Inv w') (happ : w'.app = w.app)
    (hclient : Spares r.client w w') (hserver : Spares r.server w w')
    (haliveClient : (w'.heap.nets r.client).isSome)
    (haliveServer : (w'.heap.nets r.server).isSome) : Serves r w' s down up where
  inv := hinv
  fate := by rw [hclient.fate]; exact h.fate
  backEnds := (congrArg BackEndSet.backends happ).trans h.backEnds
  at_ := hclient.at_ h.at_ haliveClient
  session := hclient.getUserContext h.session haliveClient
  client := hclient.wired h.client haliveClient
  server := hserver.wired h.server haliveServer

theorem fate_setUserContext (w : ConnectorWorld) (p : NetPtr) (s : ConnectorSession) :
    (w.setUserContext p s).heap.fate = w.heap.fate := by
  unfold World.setUserContext
  split
  · rfl
  · split <;> rfl

theorem spares_setUserContext {p : NetPtr} (hc : c ≠ p) (s₁ : ConnectorSession) :
    Spares c w (w.setUserContext p s₁) :=
  .of_leftAlone (leftAlone_setUserContext w hc s₁) (nextNet_setUserContext w p s₁).ge
    (fate_setUserContext w p s₁)

theorem spares_onFrontEndConnect {p : NetPtr} (hc : c ≠ p) :
    Spares c w (ConnectorApp.onFrontEndConnect p w) := by
  unfold ConnectorApp.onFrontEndConnect
  split
  · exact .refl c w
  · exact spares_setUserContext hc _

theorem spares_onFrontEndClose {p : NetPtr} (hc : c ≠ p) :
    Spares c w (ConnectorApp.onFrontEndClose p w) := by
  unfold ConnectorApp.onFrontEndClose
  split
  · exact .refl c w
  · exact spares_setUserContext hc _

/-- What the other clients do, and what the framework and the kernel do between two calls. -/
def Event.Elsewhere (r : Route) (w : ConnectorWorld) : Event → Prop
  | .backEnd _ => False
  | .frontEndSocket b _ => w.frontendHandlerMgr.getHandlerByEvent w.heap b ≠ some r.client
  | .backEndSocket b _ => w.backendHandlerMgr.getHandlerByEvent w.heap b ≠ some r.server
  | .frontEndMsg net _ _ => net ≠ r.client
  | .backEndMsg _ _ => False
  | _ => True

variable {app : ConnectorApp}

/-- Nothing of that takes more from a connection than the connection itself. -/
theorem Serves.spares (h : Serves r w s down up) (hc : c = r.client ∨ c = r.server)
    (hthere : (w.heap.nets c).isSome) {e : Event} (hstep : app.step w e = some w')
    (he : e.Elsewhere r w) (hmsg : ∀ net msg size, e ≠ .frontEndMsg net msg size) :
    Spares c w w' ∧ w'.app = w.app := by
  obtain ⟨n, hn⟩ := Option.isSome_iff_exists.mp hthere
  have hlt : c < w.heap.nextNet := h.inv.ok.heap.netLt hn
  have hok := h.inv.ok
  have hnid := h.inv.nid
  cases e with
  | backEnd connect => exact he.elim
  | connect fd bevOk callocOk =>
    rw [ConnectorApp.step] at hstep
    split_ifs at hstep with hfd
    cases hstep
    have hfresh := hfd.freshFd hok
    refine ⟨.onFrontEndConnect hok hlt (fun w₁ => spares_onFrontEndConnect hlt.ne) hfresh bevOk
      callocOk, ?_⟩
    obtain hcalm | ⟨w₁, hacc, heq⟩ :=
      onFrontEndConnect_cases hok hnid ConnectorApp.onFrontEndConnect hfresh bevOk callocOk
    · exact hcalm.app
    · rw [heq, ConnectorApp.onFrontEndConnect]
      split
      · exact hacc.app
      · exact (app_setUserContext _ _ _).trans hacc.app
  | frontEndSocket b events =>
    cases hstep
    have hne : ∀ {p}, w.frontendHandlerMgr.getHandlerByEvent w.heap b = some p → c ≠ p := by
      rintro p hp rfl
      obtain rfl | rfl := hc
      · exact he hp
      · exact h.not_inFront ⟨_, hp⟩
    refine ⟨.onFrontEndSocketEvent hok (fun p hp =>
      ⟨(onFrontEndClose_spec h.inv p).1.kept.ok, spares_onFrontEndClose (hne hp)⟩) events, ?_⟩
    have hclose : ∀ p, (ConnectorApp.onFrontEndClose p w).app = w.app := by
      intro p
      rw [ConnectorApp.onFrontEndClose]
      split
      · rfl
      · exact app_setUserContext _ _ _
    unfold World.onFrontEndSocketEvent closeFrontEnd
    split_ifs
    · split
      · rfl
      · exact hclose _
    · rfl
    · split
      · rfl
      · exact hclose _
    · rfl
  | backEndSocket b events =>
    cases hstep
    have hne : w.backendHandlerMgr.getHandlerByEvent w.heap b ≠ some c := by
      intro hp
      obtain rfl | rfl := hc
      · -- a descriptor is not in both pools
        obtain ⟨fd, hfd⟩ := h.inFront
        obtain ⟨m, d, f, hl, hfdeq⟩ := hok.frontEntry hfd
        have hpool : (w.mgr .backEnd).handlerPool.lookup (w.heap.getfd b) = some r.client := hp
        obtain ⟨m', d', f', hl', hfdeq'⟩ := hok.entry hpool
        obtain rfl := Option.some.inj (hl.net.symm.trans hl'.net)
        obtain rfl := Option.some.inj (hl.hevent.symm.trans hl'.hevent)
        obtain rfl := Option.some.inj (hl.bev.symm.trans hl'.bev)
        rw [← hfdeq, hfdeq'] at hfd
        exact hok.apart hfd hp
      · exact he hp
    exact ⟨.onBackEndSocketEvent hne events, (calm_onBackEndSocketEvent hok hnid b events).app⟩
  | frontEndMsg net msg size => exact absurd rfl (hmsg net msg size)
  | backEndMsg msg size => exact he.elim
  | tick now setting =>
    cases hstep
    exact ⟨.tick hok now setting, (calm_tick hok hnid now setting).app⟩
  | input b chunk =>
    cases hstep
    exact ⟨.evbufferAdd fun _ _ => ⟨rfl, rfl⟩, (calm_evbufferAdd hok hnid b chunk).app⟩
  | countPkg p =>
    cases hstep
    have hcalm : Calm w (w.modifyNet p countPkg) :=
      calm_modifyNet hok hnid p (fun _ => rfl) (fun _ => rfl) fun _ => rfl
    exact ⟨.modifyNet p (fun _ => rfl) (fun _ => rfl) (fun _ => rfl) fun _ => rfl, hcalm.app⟩
  | drain b len =>
    cases hstep
    exact ⟨.evbufferDrain fun _ _ => ⟨rfl, rfl⟩, (calm_evbufferDrain hok hnid b len).app⟩
  | countTraffic p elapsed =>
    cases hstep
    have hcalm : Calm w (w.modifyNet p (countTraffic elapsed w.now)) :=
      calm_modifyNet hok hnid p (fun _ => rfl) (fun _ => rfl) fun _ => rfl
    exact ⟨.modifyNet p (fun _ => rfl) (fun _ => rfl) (fun _ => rfl) fun _ => rfl, hcalm.app⟩

/-- The client is served as before, as long as its connection and the server's are there. -/
theorem Serves.elsewhere (h : Serves r w s down up) {e : Event} (hstep : app.step w e = some w')
    (he : e.Elsewhere r w) (hfew : (w'.heap.nextNet : Int) < 2 ^ 31)
    (hclient : (w'.heap.nets r.client).isSome) (hserver : (w'.heap.nets r.server).isSome) :
    Beside app.pb r s down up w' := by
  have hle := nextNet_le_step h.inv hstep
  have hfew₀ : (w.heap.nextNet : Int) < 2 ^ 31 := lt_of_le_of_lt (Int.ofNat_le.mpr hle) hfew
  by_cases hmsg : ∃ net msg size, e = .frontEndMsg net msg size
  · obtain ⟨net, msg, size, rfl⟩ := hmsg
    cases hstep
    exact (h.beside hfew₀).onRecvFrontEnd he msg size
  · have hother : ∀ net msg size, e ≠ .frontEndMsg net msg size :=
      fun net msg size heq => hmsg ⟨net, msg, size, heq⟩
    have hthereClient := isSome_nets_of_context h.session
    have hthereServer : (w.heap.nets r.server).isSome := by
      obtain ⟨n, _, _, hl, _⟩ := h.server
      rw [hl.net]
      rfl
    obtain ⟨hsparesClient, happ⟩ := h.spares (.inl rfl) hthereClient hstep he hother
    obtain ⟨hsparesServer, _⟩ := h.spares (.inr rfl) hthereServer hstep he hother
    exact (h.of_spares (step_session h.inv hstep).1 happ hsparesClient hsparesServer hclient
      hserver).beside hfew

end Rapidapp.Connector
