import Rapidapp.Framework.NetIds
import Rapidapp.Connector.App

/-!
# Sessions belong to their connections

`Inv` is what holds of the connector between two steps: the framework's invariants, every
session knows the connection it is kept in, and no backend is among the frontends. `Effect`
is what handling one message may do: it acts on one frontend and on backends and leaves every
other connection alone. The operations of `IFrameWork` come first, then the member functions
of a session, each with what it does to the state machine.
-/

namespace Rapidapp.Connector

open World

/-- What holds of the connector between two steps. -/
structure Inv (w : ConnectorWorld) : Prop where
  ok : w.Ok
  nid : w.NidOk
  session : ∀ {p s}, w.getUserContext p = some s → s.netStub = some p ∧ w.InFront p
  backEnds : ∀ q ∈ w.app.backends, q < w.heap.nextNet ∧ ¬ w.InFront q

/-- What code that handles a message for the connection `p` may do. -/
structure Effect (p : NetPtr) (w w' : ConnectorWorld) : Prop where
  kept : Kept w w'
  nid : w'.NidOk
  app : w'.app.backends = w.app.backends
  others : ∀ {c}, c ≠ p → c ∉ w.app.backends → LeftAlone w w' c
  front : ∀ {c}, w'.InFront c → w.InFront c
  context : ∀ {c s}, c ≠ p → w'.getUserContext c = some s → w.getUserContext c = some s
  own : ∀ {s}, w'.getUserContext p = some s →
    ∃ s₀, w.getUserContext p = some s₀ ∧ s.netStub = s₀.netStub

theorem exists_of_getUserContext {w : ConnectorWorld} {p : NetPtr} {s : ConnectorSession}
    (h : w.getUserContext p = some s) : ∃ n, w.heap.nets p = some n ∧ n.userContext = some s :=
  Option.bind_eq_some_iff.mp h

/-- A connection that still has a session is still in the pool. -/
theorem inFront_of_stable {w w' : ConnectorWorld} (h : Stable w w') {p : NetPtr}
    (hf : w.InFront p) {s : ConnectorSession} (hs : w'.getUserContext p = some s) :
    w'.InFront p := by
  obtain ⟨fd, hfd⟩ := hf
  obtain ⟨n, hn, _⟩ := exists_of_getUserContext hs
  exact ⟨fd, h.frontPool hfd hn⟩

namespace Effect

variable {p : NetPtr} {w w' w'' : ConnectorWorld}

theorem refl (h : Inv w) (p : NetPtr) : Effect p w w where
  kept := Kept.refl h.ok
  nid := h.nid
  app := rfl
  others _ _ := LeftAlone.refl w _
  front := id
  context _ := id
  own hs := ⟨_, hs, rfl⟩

theorem inv (h : Inv w) (he : Effect p w w') : Inv w' where
  ok := he.kept.ok
  nid := he.nid
  session {c s} hs := by
    by_cases hc : c = p
    · subst hc
      obtain ⟨s₀, hs₀, hstub⟩ := he.own hs
      obtain ⟨hnet, hf⟩ := h.session hs₀
      exact ⟨hstub.trans hnet, inFront_of_stable he.kept.stable hf hs⟩
    · obtain ⟨hnet, hf⟩ := h.session (he.context hc hs)
      exact ⟨hnet, inFront_of_stable he.kept.stable hf hs⟩
  backEnds q hq := by
    rw [he.app] at hq
    obtain ⟨hlt, hnf⟩ := h.backEnds q hq
    exact ⟨lt_of_lt_of_le hlt he.kept.stable.nextNet, fun hf => hnf (he.front hf)⟩

theorem trans (h : Inv w) (he : Effect p w w') (he' : Effect p w' w'') : Effect p w w'' where
  kept := Kept.trans h.ok he.kept he'.kept
  nid := he'.nid
  app := he'.app.trans he.app
  others hc hb := (he.others hc hb).trans (he'.others hc (he.app.symm ▸ hb))
  front hf := he.front (he'.front hf)
  context hc hs := he.context hc (he'.context hc hs)
  own hs := by
    obtain ⟨s₁, hs₁, h₁⟩ := he'.own hs
    obtain ⟨s₀, hs₀, h₀⟩ := he.own hs₁
    exact ⟨s₀, hs₀, h₁.trans h₀⟩

/-! ## The operations of the framework -/

/-- Writing to that frontend or to a backend; no user context changes. -/
theorem send (h : Inv w) {q : NetPtr} (hq : q = p ∨ q ∈ w.app.backends) (buf : List UInt8) :
    Effect p w { w with heap := (w.heap.send q buf).2 } := by
  have hctx : ∀ c, ({ w with heap := (w.heap.send q buf).2 } : ConnectorWorld).getUserContext c =
      w.getUserContext c := by
    obtain ⟨_, hw, _⟩ := w.heap.wrote_send q buf
    intro c
    rw [World.getUserContext, World.getUserContext, hw.nets]
  refine ⟨kept_send h.ok q buf, h.nid.send q buf, rfl, fun {c} hc hb => ?_, id,
    fun _ hs => (hctx _).symm.trans hs, fun hs => ⟨_, (hctx _).symm.trans hs, rfl⟩⟩
  refine leftAlone_send h.ok ?_ buf
  rintro rfl
  exact hq.elim hc hb

/-- The active time of a backend. -/
theorem setNet (h : Inv w) {q : NetPtr} (hq : q ∈ w.app.backends) {n : EasyNet ConnectorSession}
    (hn : w.heap.nets q = some n) (now : Int) :
    Effect p w { w with heap := w.heap.setNet q { n with lastActiveTimestamp := now } } := by
  have hctx := getUserContext_setNet { n with lastActiveTimestamp := now } hn rfl
  refine ⟨kept_setNet h.ok hn rfl rfl rfl rfl, h.nid.setNet hn rfl, rfl, fun {c} _ hb => ?_, id,
    fun _ hs => (hctx _).symm.trans hs, fun hs => ⟨_, (hctx _).symm.trans hs, rfl⟩⟩
  refine leftAlone_setNet w ?_ _
  rintro rfl
  exact hb hq

theorem sendToFrontEnd (h : Inv w) (p : NetPtr) (buf : List UInt8) :
    Effect p w (w.sendToFrontEnd (some p) buf).2 := by
  obtain heq | ⟨q, hq, heq⟩ := sendToFrontEnd_cases w (some p) buf
  · rw [heq]; exact refl h p
  · obtain rfl := Option.some.inj hq
    rw [heq]; exact send h (.inl rfl) buf

theorem sendToBackEnd (h : Inv w) (p : NetPtr) {net : Option NetPtr}
    (hnet : ∀ q, net = some q → q ∈ w.app.backends) (buf : List UInt8) :
    Effect p w (w.sendToBackEnd net buf).2 := by
  obtain heq | ⟨q, hq, heq | ⟨n, hn, heq⟩⟩ := sendToBackEnd_cases w net buf
  · rw [heq]; exact refl h p
  · rw [heq]; exact send h (.inr (hnet q hq)) buf
  · rw [heq]
    have hsend := send (p := p) h (.inr (hnet q hq)) buf
    exact hsend.trans h (setNet (hsend.inv h) (hnet q hq) hn _)

theorem destroyFrontEnd (h : Inv w) (p : NetPtr) :
    Effect p w (w.destroyFrontEnd (some p)) := by
  have hcalm := calm_destroyNet h.ok h.nid .frontEnd (some p)
  refine ⟨kept_destroyNet h.ok .frontEnd _, hcalm.nid, congrArg _ hcalm.app,
    fun hc _ => leftAlone_destroyNet h.ok .frontEnd hc, ?_, fun _ => hcalm.context,
    fun hs => ⟨_, hcalm.context hs, rfl⟩⟩
  -- erasing an entry adds none
  rintro c ⟨fd, hfd⟩
  obtain heq | ⟨q, _, _, e, _, _, _, heq⟩ := destroyNet_cases h.ok .frontEnd (some p)
  · rw [World.destroyFrontEnd, heq] at hfd
    exact ⟨fd, hfd⟩
  · rw [World.destroyFrontEnd, heq] at hfd
    have hlookup := w.lookup_eraseAt .frontEnd .frontEnd e.fd fd q
    simp only [mgr] at hlookup
    rw [hlookup] at hfd
    split_ifs at hfd
    exact ⟨fd, hfd⟩

/-- The session of that connection changes, and stays with it. -/
theorem setUserContext (h : Inv w) {p : NetPtr} {s : ConnectorSession} (s' : ConnectorSession)
    (hs : w.getUserContext p = some s) (hstub : s'.netStub = s.netStub) :
    Effect p w (w.setUserContext p s') ∧ (w.setUserContext p s').getUserContext p = some s' := by
  obtain ⟨n, hn, hctx⟩ := exists_of_getUserContext hs
  have heq : w.setUserContext p s' =
      { w with heap := w.heap.setNet p { n with userContext := some s' } } := by
    simp only [World.setUserContext, hn, hctx]
  have hnew : (w.setUserContext p s').getUserContext p = some s' := by
    rw [heq, World.getUserContext]
    simp only [Heap.setNet, Function.update_self, Option.bind_some]
  refine ⟨⟨(ApiStep.setUserContext w p s').kept h.ok, ?_, by rw [heq], fun hc _ =>
    leftAlone_setUserContext w hc s', ?_, fun hc hs' =>
    (leftAlone_setUserContext w hc s').getUserContext.symm.trans hs', fun hs' => ?_⟩, hnew⟩
  · rw [heq]; exact h.nid.setNet hn rfl
  · rw [heq]; exact id
  · rw [hnew] at hs'
    exact ⟨s, hs, (congrArg ConnectorSession.netStub (Option.some.inj hs').symm).trans hstub⟩

/-- `BackEndSet` moves on to the next backend. -/
theorem next (h : Inv w) (p : NetPtr) : Effect p w { w with app := w.app.next.2 } where
  kept := (ApiStep.app w w.app.next.2).kept h.ok
  nid := h.nid.of_eq rfl rfl rfl
  app := rfl
  others _ _ := ⟨rfl, fun _ _ => rfl, id⟩
  front := id
  context _ := id
  own hs := ⟨_, hs, rfl⟩

end Effect

theorem next_mem {b : BackEndSet} {q : NetPtr} (h : b.next.1 = some q) : q ∈ b.backends :=
  List.mem_of_getElem? h

/-- A frontend that is destroyed has no session any more. -/
theorem getUserContext_destroyFrontEnd {w : ConnectorWorld} (h : Inv w) (p : NetPtr) :
    (w.destroyFrontEnd (some p)).getUserContext p = none := by
  have hcalm := calm_destroyNet h.ok h.nid .frontEnd (some p)
  cases hs : (w.destroyFrontEnd (some p)).getUserContext p with
  | none => rfl
  | some s =>
    exfalso
    obtain ⟨_, hfront⟩ := h.session (hcalm.context hs)
    rw [World.getUserContext, nets_destroyFrontEnd h.ok hfront] at hs
    cases hs

/-- A frontend is gone after `DestroyFrontEnd`, also when it was destroyed before. -/
theorem Effect.nets_destroyFrontEnd {p : NetPtr} {w w' : ConnectorWorld} (h : Inv w)
    (he : Effect p w w') (hfront : w.InFront p) :
    (w'.destroyFrontEnd (some p)).heap.nets p = none := by
  obtain ⟨fd, hfd⟩ := hfront
  cases hn : w'.heap.nets p with
  | some n => exact World.nets_destroyFrontEnd he.kept.ok ⟨fd, he.kept.stable.frontPool hfd hn⟩
  | none =>
    obtain ⟨_, _, _, hl, _⟩ := h.ok.frontEntry hfd
    have hlt := lt_of_lt_of_le (h.ok.heap.netLt hl.net) he.kept.stable.nextNet
    exact (Effect.destroyFrontEnd (he.inv h) p).kept.stable.gone hlt hn

/-! ## The member functions of a session -/

/-- The state after this one in the handshake. -/
def SessionState.next : SessionState → SessionState
  | .stateInit => .stateAuth
  | .stateAuth => .stateSyning
  | .stateSyning => .stateSynack
  | .stateSynack => .stateOk
  | .stateOk => .stateOk

variable (pb : Protobuf) {w : ConnectorWorld} {p : NetPtr} {s : ConnectorSession}

theorem setState_spec (h : Inv w) (hs : w.getUserContext p = some s) (state : SessionState) :
    Effect p w (setState p state w) ∧
      (setState p state w).getUserContext p = some { s with state := state } := by
  simp only [setState, hs]
  exact Effect.setUserContext h _ hs rfl

/-- Writing to a frontend changes no session. -/
theorem getUserContext_sendToFrontEnd (w : ConnectorWorld) (net : Option NetPtr)
    (buf : List UInt8) (c : NetPtr) :
    (w.sendToFrontEnd net buf).2.getUserContext c = w.getUserContext c := by
  obtain heq | ⟨q, _, heq⟩ := sendToFrontEnd_cases w net buf
  · rw [heq]
  · obtain ⟨_, hw, _⟩ := w.heap.wrote_send q buf
    rw [heq, World.getUserContext, World.getUserContext, hw.nets]

/-- A handshake message is sent and leaves the session as it was, or the connection is
destroyed. -/
theorem serializeAndSendToFrontEnd_spec (h : Inv w) (hs : w.getUserContext p = some s)
    (msg : CSMsg) :
    ∃ ret w', serializeAndSendToFrontEnd pb s msg w = (ret, w') ∧ Effect p w w' ∧
      (ret = 0 ∧ w'.getUserContext p = some s ∨ ret = -1 ∧ w'.getUserContext p = none) := by
  obtain ⟨hstub, _⟩ := h.session hs
  have hsend := Effect.sendToFrontEnd h p (pb.serializeCSMsg msg)
  have hctx := (getUserContext_sendToFrontEnd w (some p) (pb.serializeCSMsg msg) p).trans hs
  unfold serializeAndSendToFrontEnd
  rw [hstub]
  rcases hr : w.sendToFrontEnd (some p) (pb.serializeCSMsg msg) with ⟨ret, w'⟩
  rw [hr] at hsend hctx
  by_cases hret : ret = 0
  · subst hret
    exact ⟨0, w', rfl, hsend, .inl ⟨rfl, hctx⟩⟩
  · have hinv := hsend.inv h
    exact ⟨-1, _, by simp only [hret, ne_eq, not_false_eq_true, if_true],
      hsend.trans h (Effect.destroyFrontEnd hinv p),
      .inr ⟨rfl, getUserContext_destroyFrontEnd hinv p⟩⟩

/-- `HandleKeyMaking`, `HandleAuthRequest` and `HandShake_OnStartAcked`. -/
theorem answerFrontEnd_spec (h : Inv w) (hs : w.getUserContext p = some s) (msg : CSMsg)
    (state : SessionState) :
    ∃ ret w', answerFrontEnd pb p s msg state w = (ret, w') ∧ Effect p w w' ∧
      (ret = 0 ∧ w'.getUserContext p = some { s with state := state } ∨
        ret = -1 ∧ w'.getUserContext p = none) := by
  obtain ⟨ret, w', hsend, he, ⟨rfl, hctx⟩ | ⟨rfl, hctx⟩⟩ :=
    serializeAndSendToFrontEnd_spec pb h hs msg
  · obtain ⟨hset, hnew⟩ := setState_spec (he.inv h) hctx state
    exact ⟨0, _, by simp only [answerFrontEnd, hsend, ne_eq, not_true, if_false],
      he.trans h hset, .inl ⟨rfl, hnew⟩⟩
  · exact ⟨-1, w', by simp [answerFrontEnd, hsend], he, .inr ⟨rfl, hctx⟩⟩

/-- Writing to a backend changes no session. -/
theorem getUserContext_sendToBackEnd (w : ConnectorWorld) (net : Option NetPtr)
    (buf : List UInt8) (c : NetPtr) :
    (w.sendToBackEnd net buf).2.getUserContext c = w.getUserContext c := by
  obtain heq | ⟨q, _, heq⟩ := sendToBackEnd_cases w net buf
  · rw [heq]
  obtain ⟨_, hw, _⟩ := w.heap.wrote_send q buf
  have hsend : ({ w with heap := (w.heap.send q buf).2 } : ConnectorWorld).getUserContext c =
      w.getUserContext c := by
    rw [World.getUserContext, World.getUserContext, hw.nets]
  obtain heq | ⟨n, hn, heq⟩ := heq
  · rw [heq, hsend]
  · rw [heq, ← hsend]
    exact getUserContext_setNet (w := { w with heap := (w.heap.send q buf).2 })
      { n with lastActiveTimestamp := w.now } hn rfl c

/-- `StartToBackEnd` refuses, or writes to a backend. -/
theorem startToBackEnd_spec (h : Inv w) (hs : w.getUserContext p = some s)
    {backNet : Option NetPtr} (hmem : ∀ q, backNet = some q → q ∈ w.app.backends) :
    ∃ ret w', startToBackEnd pb s backNet w = (ret, w') ∧ Effect p w w' ∧
      w'.getUserContext p = some s ∧ (ret = 0 ∨ ret = -1) := by
  unfold startToBackEnd
  split_ifs
  · exact ⟨-1, w, rfl, Effect.refl h p, hs, .inr rfl⟩
  cases backNet with
  | none => exact ⟨-1, w, rfl, Effect.refl h p, hs, .inr rfl⟩
  | some q =>
    have hsend := Effect.sendToBackEnd h p hmem (pb.serializeSSMsg (s.startMsg w))
    have hsame := getUserContext_sendToBackEnd w (some q) (pb.serializeSSMsg (s.startMsg w)) p
    rcases hr : w.sendToBackEnd (some q) (pb.serializeSSMsg (s.startMsg w)) with ⟨ret, w'⟩
    rw [hr] at hsend hsame
    simp only [hr]
    split_ifs
    · exact ⟨-1, w', rfl, hsend, hsame.trans hs, .inr rfl⟩
    · exact ⟨0, w', rfl, hsend, hsame.trans hs, .inl rfl⟩

theorem handShakeStartSession_spec (h : Inv w) (hs : w.getUserContext p = some s) :
    ∃ ret w', handShakeStartSession pb p s w = (ret, w') ∧ Effect p w w' ∧
      (ret = 0 ∧ w'.getUserContext p = some { s with state := .stateSynack } ∨
        ret = -1 ∧ w'.getUserContext p = some s) := by
  have hnext := Effect.next h p
  have hmem : ∀ q, w.app.next.1 = some q →
      q ∈ ({ w with app := w.app.next.2 } : ConnectorWorld).app.backends :=
    fun q hq => List.mem_of_getElem? hq
  obtain ⟨ret, w', hstart, he, hctx, hret⟩ := startToBackEnd_spec pb (hnext.inv h) hs hmem
  have hboth := hnext.trans h he
  rcases hret with rfl | rfl
  · obtain ⟨hset, hnew⟩ := setState_spec (hboth.inv h) hctx .stateSynack
    exact ⟨0, _, by simp only [handShakeStartSession, hstart, ne_eq, not_true, if_false],
      hboth.trans h hset, .inl ⟨rfl, hnew⟩⟩
  · exact ⟨-1, w', by simp [handShakeStartSession, hstart], hboth, .inr ⟨rfl, hctx⟩⟩

/-- `DriveStateMachine` takes a session that is not ready to the next state or fails; a session
that is ready it ends. -/
theorem driveStateMachine_spec (h : Inv w) (hs : w.getUserContext p = some s) :
    ∃ ret w', driveStateMachine pb p w = (ret, w') ∧ Effect p w w' ∧
      (ret = 0 ∧ s.state ≠ .stateOk ∧
          w'.getUserContext p = some { s with state := s.state.next } ∨
        ret = -1 ∧ s.state ≠ .stateOk ∨
        ret = 0 ∧ s.state = .stateOk ∧ w'.getUserContext p = none) := by
  have hanswer : ∀ msg state, s.state ≠ .stateOk → s.state.next = state →
      ∃ ret w', answerFrontEnd pb p s msg state w = (ret, w') ∧ Effect p w w' ∧
        (ret = 0 ∧ s.state ≠ .stateOk ∧
            w'.getUserContext p = some { s with state := s.state.next } ∨
          ret = -1 ∧ s.state ≠ .stateOk ∨
          ret = 0 ∧ s.state = .stateOk ∧ w'.getUserContext p = none) := by
    intro msg state hne hnext
    obtain ⟨ret, w', hrun, he, ⟨hret, hctx⟩ | ⟨hret, _⟩⟩ := answerFrontEnd_spec pb h hs msg state
    · exact ⟨ret, w', hrun, he, .inl ⟨hret, hne, hnext ▸ hctx⟩⟩
    · exact ⟨ret, w', hrun, he, .inr (.inl ⟨hret, hne⟩)⟩
  unfold driveStateMachine
  simp only [hs]
  cases hst : s.state with
  | stateInit =>
    simpa only [hst, handleKeyMaking] using
      hanswer _ .stateAuth (by simp [hst]) (by rw [hst]; rfl)
  | stateAuth =>
    simpa only [hst, handleAuthRequest] using
      hanswer _ .stateSyning (by simp [hst]) (by rw [hst]; rfl)
  | stateSyning =>
    obtain ⟨ret, w', hrun, he, ⟨hret, hctx⟩ | ⟨hret, _⟩⟩ :=
      handShakeStartSession_spec pb h hs
    · exact ⟨ret, w', hrun, he, .inl ⟨hret, by simp, hctx⟩⟩
    · exact ⟨ret, w', hrun, he, .inr (.inl ⟨hret, by simp⟩)⟩
  | stateSynack =>
    simpa only [hst, handShakeOnStartAcked] using
      hanswer _ .stateOk (by simp [hst]) (by rw [hst]; rfl)
  | stateOk =>
    obtain ⟨hstub, _⟩ := h.session hs
    dsimp only [handShakeOnStopNotify]
    rw [hstub]
    exact ⟨0, _, rfl, Effect.destroyFrontEnd h p,
      .inr (.inr ⟨rfl, rfl, getUserContext_destroyFrontEnd h p⟩)⟩

/-! ## The callbacks for messages -/

/-- The state a session that is not ready is in after a message of the client. -/
def SessionState.afterClient : SessionState → SessionState
  | .stateAuth => .stateSynack
  | state => state.next

theorem sessionState_of_some {w : ConnectorWorld} {p : NetPtr} {s : ConnectorSession}
    (hs : w.getUserContext p = some s) : ConnectorApp.sessionState p w = s.state := by
  rw [ConnectorApp.sessionState, hs]
  rfl

variable (c : ConnectorApp)

/-- A message of the client that drives the state machine takes it as far as it goes, or the
connection is destroyed. -/
theorem handshakeFrontEnd_spec (h : Inv w) (hs : w.getUserContext p = some s)
    (hne : s.state ≠ .stateOk) :
    Effect p w (c.handshakeFrontEnd p w).2 ∧
      ∀ s', (c.handshakeFrontEnd p w).2.getUserContext p = some s' →
        s' = { s with state := s.state.afterClient } := by
  have hfail : ∀ {w'}, Effect p w w' → Effect p w (w'.destroyFrontEnd (some p)) ∧
      ∀ s', (w'.destroyFrontEnd (some p)).getUserContext p = some s' →
        s' = { s with state := s.state.afterClient } := by
    intro w' he
    refine ⟨he.trans h (Effect.destroyFrontEnd (he.inv h) p), fun s' hs' => ?_⟩
    rw [getUserContext_destroyFrontEnd (he.inv h)] at hs'
    cases hs'
  have hneg : (-1 : Int) < 0 := by decide
  unfold ConnectorApp.handshakeFrontEnd
  obtain ⟨ret, w₁, hrun, he, ⟨rfl, _, hctx⟩ | ⟨rfl, _⟩ | ⟨_, hok, _⟩⟩ :=
    driveStateMachine_spec c.pb h hs
  · simp only [hrun, lt_irrefl, if_false, sessionState_of_some hctx]
    by_cases hsyning : s.state.next = .stateSyning
    · -- the client message was the one of `STATE_AUTH`; the backend is started at once
      have hafter : SessionState.next .stateSyning = s.state.afterClient := by
        cases hst : s.state <;> simp_all [SessionState.next, SessionState.afterClient]
      simp only [hsyning, if_true] at hctx ⊢
      obtain ⟨ret, w₂, hrun₂, he₂, ⟨rfl, _, hctx₂⟩ | ⟨rfl, _⟩ | ⟨_, hok, _⟩⟩ :=
        driveStateMachine_spec c.pb (he.inv h) hctx
      · simp only [hrun₂, lt_irrefl, if_false]
        refine ⟨he.trans h he₂, fun s' hs' => ?_⟩
        rw [← Option.some.inj (hctx₂.symm.trans hs'), ← hafter]
      · simpa only [hrun₂, hneg, if_true] using hfail (he.trans h he₂)
      · cases hok
    · have hafter : s.state.next = s.state.afterClient := by
        cases hst : s.state <;> simp_all [SessionState.next, SessionState.afterClient]
      simp only [hsyning, if_false]
      refine ⟨he, fun s' hs' => ?_⟩
      rw [← Option.some.inj (hctx.symm.trans hs'), ← hafter]
  · simpa only [hrun, hneg, if_true] using hfail he
  · exact absurd hok hne

theorem sendDataToBackEnd_spec (h : Inv w) (p : NetPtr) (data : List UInt8) :
    Effect p w (sendDataToBackEnd data w).2 ∧
      (sendDataToBackEnd data w).2.getUserContext p = w.getUserContext p := by
  have hnext := Effect.next h p
  have hinv := hnext.inv h
  have hmem : ∀ q, w.app.next.1 = some q → q ∈ w.app.backends := fun q hq => next_mem hq
  have hsend := Effect.sendToBackEnd hinv p hmem data
  have hctx := getUserContext_sendToBackEnd { w with app := w.app.next.2 } w.app.next.1 data p
  unfold sendDataToBackEnd
  dsimp only
  rcases hr : ({ w with app := w.app.next.2 } : ConnectorWorld).sendToBackEnd w.app.next.1 data with
    ⟨ret, w'⟩
  rw [hr] at hsend hctx
  split_ifs <;> exact ⟨hnext.trans h hsend, hctx⟩

/-- The session once the message is accepted. -/
def ConnectorSession.accept (s : ConnectorSession) (upMsg : CSMsg) : ConnectorSession :=
  { s with lastSeq := upMsg.head.sequence.toUInt64 }

/-- What `CheckUpSideMessage` makes of a session. -/
theorem checkUpSideMessage_cases (s : ConnectorSession) (upMsg : CSMsg) :
    s.checkUpSideMessage upMsg = (-1, s) ∨ s.checkUpSideMessage upMsg = (0, s.accept upMsg) := by
  unfold ConnectorSession.checkUpSideMessage
  split_ifs
  · exact .inl rfl
  · exact .inl rfl
  · exact .inr rfl

/-- A message of a client that is rejected changes nothing. -/
theorem onRecvFrontEnd_rejected (hs : w.getUserContext p = some s) {msg : List UInt8} {size : Nat}
    (hcheck : (s.checkUpSideMessage (c.pb.parseCSMsg msg size)).1 ≠ 0) :
    c.onRecvFrontEnd p msg size w = (-1, w) := by
  unfold ConnectorApp.onRecvFrontEnd
  simp only [hs]
  rcases hpair : s.checkUpSideMessage (c.pb.parseCSMsg msg size) with ⟨ret, s₁⟩
  rw [hpair] at hcheck
  exact if_pos hcheck

/-- What is done with a message of a client that is accepted. -/
theorem onRecvFrontEnd_accepted (hs : w.getUserContext p = some s) {msg : List UInt8} {size : Nat}
    (hcheck : (s.checkUpSideMessage (c.pb.parseCSMsg msg size)).1 = 0) :
    c.onRecvFrontEnd p msg size w =
      let upMsg := c.pb.parseCSMsg msg size
      let s₁ := s.accept upMsg
      let w₁ := w.setUserContext p s₁
      if s.state ≠ .stateOk then c.handshakeFrontEnd p w₁
      else if upMsg.head.bodyid ≠ CSBodyCmdId.dataTransparent.value then (-1, w₁)
      else forwardUpSideMessage c.pb s₁ upMsg.head.sequence.toUInt64 (upMsg.body.data.getD []) w₁ := by
  obtain hpair | hpair := checkUpSideMessage_cases s (c.pb.parseCSMsg msg size)
  · rw [hpair] at hcheck
    cases hcheck
  unfold ConnectorApp.onRecvFrontEnd
  simp only [hs, hpair, ne_eq, not_true, if_false, ConnectorSession.beenReady, decide_eq_true_eq]
  rfl

/-- What a message of a client does to its session. -/
theorem onRecvFrontEnd_spec (h : Inv w) (hs : w.getUserContext p = some s) (msg : List UInt8)
    (size : Nat) :
    Effect p w (c.onRecvFrontEnd p msg size w).2 ∧
      ∀ s', (c.onRecvFrontEnd p msg size w).2.getUserContext p = some s' →
        (s.checkUpSideMessage (c.pb.parseCSMsg msg size)).1 ≠ 0 ∧ s' = s ∨
        (s.checkUpSideMessage (c.pb.parseCSMsg msg size)).1 = 0 ∧
          s' = { s.accept (c.pb.parseCSMsg msg size) with state := s.state.afterClient } := by
  by_cases hcheck : (s.checkUpSideMessage (c.pb.parseCSMsg msg size)).1 = 0
  · rw [onRecvFrontEnd_accepted c hs hcheck]
    generalize c.pb.parseCSMsg msg size = upMsg at hcheck ⊢
    obtain ⟨hset, hnew⟩ := Effect.setUserContext h (s.accept upMsg) hs rfl
    have hinv := hset.inv h
    by_cases hok : s.state = .stateOk
    · have hsame : { s.accept upMsg with state := s.state.afterClient } = s.accept upMsg := by
        rw [hok]
        exact congrArg (fun state => { s.accept upMsg with state := state }) hok.symm
      rw [hsame]
      simp only [hok, ne_eq, not_true, if_false]
      by_cases hid : upMsg.head.bodyid = CSBodyCmdId.dataTransparent.value
      · simp only [hid, not_true, if_false, forwardUpSideMessage]
        obtain ⟨hsend, hctx⟩ := sendDataToBackEnd_spec hinv p
          (c.pb.serializeSSMsg ((s.accept upMsg).upSideMsg (w.setUserContext p (s.accept upMsg))
            upMsg.head.sequence.toUInt64 (upMsg.body.data.getD [])))
        refine ⟨hset.trans h hsend, fun s' hs' => .inr ⟨hcheck, ?_⟩⟩
        exact Option.some.inj (hs'.symm.trans (hctx.trans hnew))
      · simp only [hid, not_false_eq_true, if_true]
        exact ⟨hset, fun s' hs' => .inr ⟨hcheck, Option.some.inj (hs'.symm.trans hnew)⟩⟩
    · simp only [hok, ne_eq, not_false_eq_true, if_true]
      obtain ⟨hdrive, hafter⟩ := handshakeFrontEnd_spec c hinv hnew hok
      exact ⟨hset.trans h hdrive, fun s' hs' => .inr ⟨hcheck, hafter s' hs'⟩⟩
  · rw [onRecvFrontEnd_rejected c hs hcheck]
    exact ⟨Effect.refl h p, fun s' hs' => .inl ⟨hcheck, Option.some.inj (hs'.symm.trans hs)⟩⟩

theorem setSid_spec (h : Inv w) (hs : w.getUserContext p = some s) (sid : UInt32) :
    Effect p w (ConnectorApp.setSid p sid w) ∧
      (ConnectorApp.setSid p sid w).getUserContext p = some { s with sid := sid } := by
  simp only [ConnectorApp.setSid, hs]
  exact Effect.setUserContext h _ hs rfl

/-- What a message of a backend does to the session it is for. -/
theorem relayToFrontEnd_spec (h : Inv w) (hs : w.getUserContext p = some s) (downMsg : SSMsg) :
    Effect p w (c.relayToFrontEnd p s downMsg w).2 ∧
      ∀ s', (c.relayToFrontEnd p s downMsg w).2.getUserContext p = some s' →
        s' = s ∨
        s.state ≠ .stateOk ∧ downMsg.head.bodyid ≠ SSBodyCmdId.data.value ∧
          s' = { s with state := s.state.next, sid := downMsg.head.session.sid } := by
  have hsame : ∀ s', w.getUserContext p = some s' → s' = s :=
    fun s' hs' => Option.some.inj (hs'.symm.trans hs)
  have hfail : ∀ {w'} {P : ConnectorSession → Prop}, Effect p w w' →
      Effect p w (w'.destroyFrontEnd (some p)) ∧
        ∀ s', (w'.destroyFrontEnd (some p)).getUserContext p = some s' → P s' := by
    intro w' P he
    refine ⟨he.trans h (Effect.destroyFrontEnd (he.inv h) p), fun s' hs' => ?_⟩
    rw [getUserContext_destroyFrontEnd (he.inv h)] at hs'
    cases hs'
  unfold ConnectorApp.relayToFrontEnd
  split_ifs with hdata hready hstate hsid
  · exact ⟨Effect.refl h p, fun s' hs' => .inl (hsame s' hs')⟩
  · obtain ⟨ret, w₁, hrun, he, ⟨rfl, hne, hctx⟩ | ⟨rfl, _⟩ | ⟨rfl, _, hctx⟩⟩ :=
      driveStateMachine_spec c.pb h hs
    · obtain ⟨hset, hnew⟩ := setSid_spec (he.inv h) hctx downMsg.head.session.sid
      simp only [hrun, lt_irrefl, if_false]
      refine ⟨he.trans h hset, fun s' hs' => .inr ⟨hne, hdata, ?_⟩⟩
      rw [← Option.some.inj (hnew.symm.trans hs')]
    · simpa only [hrun, show (-1 : Int) < 0 by decide, if_true] using hfail he
    · simp only [hrun, lt_irrefl, if_false, ConnectorApp.setSid, hctx]
      exact ⟨he, fun s' hs' => nomatch hs'⟩
  · exact hfail (Effect.refl h p)
  · exact hfail (Effect.refl h p)
  · unfold forwardDownSideMessage
    by_cases hdown : downMsg.body.data.getD [] = []
    · simp only [hdown, if_true]
      exact ⟨Effect.refl h p, fun s' hs' => .inl (hsame s' hs')⟩
    simp only [hdown, if_false]
    obtain ⟨hstub, _⟩ := h.session hs
    have hsend := Effect.sendToFrontEnd h p
      (c.pb.serializeCSMsg (ConnectorSession.downSideMsg downMsg.head.sequence.toUInt64
        (downMsg.body.data.getD [])))
    have hctx := getUserContext_sendToFrontEnd w (some p)
      (c.pb.serializeCSMsg (ConnectorSession.downSideMsg downMsg.head.sequence.toUInt64
        (downMsg.body.data.getD []))) p
    rw [hstub]
    rcases hr : w.sendToFrontEnd (some p) (c.pb.serializeCSMsg (ConnectorSession.downSideMsg
      downMsg.head.sequence.toUInt64 (downMsg.body.data.getD []))) with ⟨ret, w'⟩
    rw [hr] at hsend hctx
    dsimp only
    split_ifs <;> exact ⟨hsend, fun s' hs' => .inl (hsame s' (hctx.symm.trans hs'))⟩

/-- A message of a backend is for the frontend with the ids in it and for no other, and when there
is no such frontend it changes nothing. -/
theorem onRecvBackEnd_spec (h : Inv w) (msg : List UInt8) (size : Nat) :
    (c.onRecvBackEnd msg size w).2 = w ∨
    ∃ p s, w.InFront p ∧ w.getUserContext p = some s ∧
      w.getNetIds p = ((c.pb.parseSSMsg msg size).head.session.fd.toNat,
        (c.pb.parseSSMsg msg size).head.session.nid.toNat) ∧
      (c.onRecvBackEnd msg size w).2 =
        (c.relayToFrontEnd p s (c.pb.parseSSMsg msg size) w).2 := by
  unfold ConnectorApp.onRecvBackEnd
  dsimp only
  cases hp : w.getFrontEndByAsyncIds (c.pb.parseSSMsg msg size).head.session.fd.toNat
      (c.pb.parseSSMsg msg size).head.session.nid.toNat with
  | none => exact .inl rfl
  | some p =>
    obtain ⟨hfront, hids⟩ := getFrontEndByAsyncIds_eq_some h.ok (UInt32.toNat_lt _) hp
    cases hs : w.getUserContext p with
    | none => exact .inl (by simp only [hs])
    | some s => exact .inr ⟨p, s, hfront, hs, hids, by simp only [hs]⟩

end Rapidapp.Connector
