import Rapidapp.Connector.Runs
import Rapidapp.Connector.Wire

/-!
# The handshake of a session

`DriveStateMachine` is called for any message that reaches a session which is not ready, and
takes the next step of the handshake whatever the message is. The handshake is the one the
names of its steps describe (`SYN`, `AUTHENTICATION`, `ACK`) in the runs where every message
that drives a session is the one its state expects.
-/

namespace Rapidapp.Connector

open World

variable {c : ConnectorApp} {start w w' : ConnectorWorld}

/-! ## What a session has received -/

/-- From which side a message comes, and its `bodyid`. -/
inductive Kind where
  | client (bodyid : Int32)
  | backEnd (bodyid : Int32)
  deriving DecidableEq

def Message.kind : Message → Kind
  | .client msg => .client msg.head.bodyid
  | .backEnd msg => .backEnd msg.head.bodyid

/-- The messages of a run that were for the session of `p`, the oldest first. -/
def ConnectorApp.received (c : ConnectorApp) (p : NetPtr) :
    ConnectorWorld → List Event → List Message
  | _, [] => []
  | w, e :: es =>
    (c.heard p w e).toList ++
      match c.step w e with
      | none => []
      | some w' => c.received p w' es

theorem received_concat (p : NetPtr) {es : List Event} (h : Run.run c.step w es = some w')
    (e : Event) :
    c.received p w (es ++ [e]) = c.received p w es ++ (c.heard p w' e).toList := by
  induction es generalizing w with
  | nil =>
    cases h
    rw [List.nil_append, ConnectorApp.received, ConnectorApp.received, List.nil_append]
    cases c.step w' e <;> exact List.append_nil _
  | cons a es ih =>
    obtain ⟨w₁, hw₁, hrest⟩ := Run.run_cons_some.mp h
    rw [List.cons_append, ConnectorApp.received, ConnectorApp.received, hw₁]
    dsimp only
    rw [ih hrest, List.append_assoc]

/-! ## The handshake that is meant -/

/-- The message that a state of the session waits for. Nothing waits in `STATE_SYNING`, which
`OnRecvFrontEnd` leaves at once. -/
def SessionState.expects : SessionState → Option Kind
  | .stateInit => some (.client CSBodyCmdId.syn.value)
  | .stateAuth => some (.client CSBodyCmdId.authentication.value)
  | .stateSyning => none
  | .stateSynack => some (.backEnd SSBodyCmdId.ack.value)
  | .stateOk => none

/-- The messages that lead to a state. -/
def SessionState.handshake : SessionState → List Kind
  | .stateInit => []
  | .stateAuth => [.client CSBodyCmdId.syn.value]
  | .stateSyning | .stateSynack =>
    [.client CSBodyCmdId.syn.value, .client CSBodyCmdId.authentication.value]
  | .stateOk =>
    [.client CSBodyCmdId.syn.value, .client CSBodyCmdId.authentication.value,
      .backEnd SSBodyCmdId.ack.value]

theorem handshake_after {state : SessionState} {msg : Message}
    (h : state.expects = some msg.kind) :
    (state.after msg).handshake = state.handshake ++ [msg.kind] := by
  cases msg <;> cases state <;> simp_all [SessionState.expects, SessionState.after,
    SessionState.afterClient, SessionState.next, SessionState.handshake, Message.kind]

theorem expects_of_after_ok {state : SessionState} {msg : Message}
    (h : state.expects = some msg.kind) (hok : state.after msg = .stateOk) :
    msg.kind = .backEnd SSBodyCmdId.ack.value := by
  cases msg <;> cases state <;> simp_all [SessionState.expects, SessionState.after,
    SessionState.afterClient, SessionState.next, Message.kind]

instance (s : ConnectorSession) : DecidablePred s.isDrivenBy
  | .client _ => inferInstanceAs (Decidable (_ ∧ _))
  | .backEnd _ => inferInstanceAs (Decidable (_ ∧ _))

/-- The connections in the pool of the frontends. -/
def frontEnds (w : ConnectorWorld) : List NetPtr :=
  w.frontendHandlerMgr.handlerPool.entries.map (·.2)

/-- Every message that drives a session in this step is the one its state expects. -/
def Expected (c : ConnectorApp) (w : ConnectorWorld) (e : Event) : Prop :=
  ∀ p ∈ frontEnds w, ∀ s ∈ w.getUserContext p, ∀ msg ∈ c.heard p w e, s.isDrivenBy msg →
    s.state.expects = some msg.kind

instance (c : ConnectorApp) (w : ConnectorWorld) (e : Event) : Decidable (Expected c w e) :=
  inferInstanceAs (Decidable (∀ p ∈ frontEnds w, ∀ s ∈ w.getUserContext p,
    ∀ msg ∈ c.heard p w e, s.isDrivenBy msg → s.state.expects = some msg.kind))

theorem Expected.expects {e : Event} (h : Expected c w e) (hinv : Inv w) {p : NetPtr}
    {s : ConnectorSession} {msg : Message} (hs : w.getUserContext p = some s)
    (hheard : c.heard p w e = some msg) (hdriven : s.isDrivenBy msg) :
    s.state.expects = some msg.kind := by
  obtain ⟨_, fd, hfd⟩ := hinv.session hs
  refine h p ?_ s hs msg hheard hdriven
  exact List.mem_map.mpr ⟨⟨fd, p⟩, AList.mem_lookup_iff.mp hfd, rfl⟩

/-- What the handshake is for, in the run of these events: a session is ready only after `SYN`,
`AUTHENTICATION` and the `ACK` for it, in this order, and it is an `ACK` that makes it ready. -/
structure HandshakeSound (c : ConnectorApp) (start : ConnectorWorld) (es : List Event) :
    Prop where
  made : ∀ {es₁ w p s}, es₁ <+: es → Run.run c.step start es₁ = some w →
    w.getUserContext p = some s → s.state = .stateOk →
    SessionState.stateOk.handshake.Sublist ((c.received p start es₁).map Message.kind)
  completed : ∀ {es₁ e w w' p s'}, es₁ ++ [e] <+: es → Run.run c.step start es₁ = some w →
    c.step w e = some w' → w'.getUserContext p = some s' → s'.state = .stateOk →
    (∃ s, w.getUserContext p = some s ∧ s.state = .stateOk) ∨
      ∃ msg, c.heard p w e = some msg ∧ msg.kind = .backEnd SSBodyCmdId.ack.value

/-! ## Runs with the expected messages -/

/-- Every session has received the messages that lead to its state. -/
def Introduced (c : ConnectorApp) (start w : ConnectorWorld) (es : List Event) : Prop :=
  ∀ {p s}, w.getUserContext p = some s →
    s.state.handshake.Sublist ((c.received p start es).map Message.kind)

theorem Introduced.step {es : List Event} {e : Event} (hinv : Inv w)
    (hrun : Run.run c.step start es = some w) (h : Introduced c start w es)
    (hexp : Expected c w e) (hstep : c.step w e = some w') :
    Introduced c start w' (es ++ [e]) := by
  intro p s' hs'
  rw [received_concat p hrun, List.map_append]
  obtain ⟨s, hs, hsame⟩ | hinit | ⟨s, msg, hs, hheard, hdriven, hafter⟩ :=
    (step_spec hinv hstep).2 hs'
  · rw [hsame]
    exact (h hs).trans (List.sublist_append_left _ _)
  · rw [hinit]
    exact List.nil_sublist _
  · rw [hafter, handshake_after (hexp.expects hinv hs hheard hdriven), hheard]
    exact (h hs).append (List.Sublist.refl _)

theorem introduced_run (hinv : Inv start) (hnone : ∀ p, start.getUserContext p = none)
    {es : List Event} (hexp : Run.Along c.step (Expected c) start es)
    (hrun : Run.run c.step start es = some w) : Inv w ∧ Introduced c start w es := by
  have hstart : Introduced c start start [] := by
    intro p s hs
    rw [hnone p] at hs
    cases hs
  have hrule := Run.run_inv_trace
    (I := fun w es => Run.run c.step start es = some w ∧ Inv w ∧ Introduced c start w es)
    (P := Expected c) ?_ [] ⟨rfl, hinv, hstart⟩ hexp hrun
  · exact hrule.2
  rintro w es e w' ⟨hrun, hinv, hint⟩ hexp hstep
  exact ⟨Run.run_concat_some.mpr ⟨w, hrun, hstep⟩, (step_spec hinv hstep).1,
    hint.step hinv hrun hexp hstep⟩

theorem getUserContext_start (fate : Nat → Bool) (frontRecv backRecv : RapBuffer) (now : Int)
    (p : NetPtr) : (ConnectorWorld.start fate frontRecv backRecv now).getUserContext p = none :=
  rfl

/-- In a run where every message that drives a session is the one its state expects, the
handshake is sound. -/
theorem handshakeSound_of_expected (c : ConnectorApp) (fate : Nat → Bool)
    (frontRecv backRecv : RapBuffer) (now : Int) {es : List Event}
    (hexp : Run.Along c.step (Expected c) (ConnectorWorld.start fate frontRecv backRecv now)
      es) :
    HandshakeSound c (ConnectorWorld.start fate frontRecv backRecv now) es := by
  have hinv := Inv.start fate frontRecv backRecv now
  have hnone := getUserContext_start fate frontRecv backRecv now
  constructor
  · rintro es₁ w p s ⟨es₂, rfl⟩ hrun hs hok
    have hint := (introduced_run hinv hnone (Run.along_append.mp hexp).1 hrun).2 hs
    rwa [hok] at hint
  · rintro es₁ e w w' p s' ⟨es₂, rfl⟩ hrun hstep hs' hok
    obtain ⟨hbefore, _⟩ := Run.along_append.mp hexp
    obtain ⟨hfirst, hlast⟩ := Run.along_append.mp hbefore
    have hinvw := (introduced_run hinv hnone hfirst hrun).1
    obtain ⟨s, hs, hsame⟩ | hinit | ⟨s, msg, hs, hheard, hdriven, hafter⟩ :=
      (step_spec hinvw hstep).2 hs'
    · exact .inl ⟨s, hs, hsame ▸ hok⟩
    · rw [hinit] at hok
      cases hok
    · have hkind := (hlast w hrun).1.expects hinvw hs hheard hdriven
      exact .inr ⟨msg, hheard, expects_of_after_ok hkind (hafter ▸ hok)⟩

/-! ## Two runs -/

/-- The messages of a client and of a backend server that keep to the handshake. -/
def synMsg : CSMsg where
  head := { sequence := 1, bodyid := CSBodyCmdId.syn.value }
  body := { syn := some ⟨[97], [98]⟩ }

def authenticationMsg : CSMsg where
  head := { sequence := 2, bodyid := CSBodyCmdId.authentication.value }
  body := { auth := some [99] }

def ackMsg : SSMsg where
  head := { sequence := 1, bodyid := SSBodyCmdId.ack.value, session := ⟨7, 2, 5⟩ }
  body := { ack := some 0 }

/-- The connector in these runs. -/
def ConnectorApp.greeting : ConnectorApp :=
  ⟨Wire.protobuf, false⟩

/-- A backend is connected, then a client. -/
def connected : List Event := [.backEnd (some 3), .backEndSocket 0 { connected := true },
  .connect 7 true true]

/-- The client and the server keep to the handshake. -/
def greeted : List Event :=
  connected ++ [.frontEndMsg 1 (Wire.encodeCSMsg synMsg) (Wire.encodeCSMsg synMsg).length,
    .frontEndMsg 1 (Wire.encodeCSMsg authenticationMsg)
      (Wire.encodeCSMsg authenticationMsg).length,
    .backEndMsg (Wire.encodeSSMsg ackMsg) (Wire.encodeSSMsg ackMsg).length]

theorem handshakeSound_greeted :
    (((Run.run ConnectorApp.greeting.step
        (ConnectorWorld.start (fun _ => true) .small .small 0) greeted).bind
          (·.getUserContext 1)).map (·.state)) = some .stateOk ∧
      HandshakeSound .greeting (ConnectorWorld.start (fun _ => true) .small .small 0) greeted :=
  ⟨by decide +kernel, handshakeSound_of_expected .greeting _ .small .small 0 (by decide +kernel)⟩

/-- A client that sends three times no bytes. -/
def mute : List Event :=
  connected ++ [.frontEndMsg 1 [] 0, .frontEndMsg 1 [] 0, .frontEndMsg 1 [] 0]

/-- The session of a client that never said anything is ready. -/
theorem mute_handshake_unsound :
    ¬ HandshakeSound .greeting (ConnectorWorld.start (fun _ => true) .small .small 0) mute := by
  intro h
  have hok : ((Run.run ConnectorApp.greeting.step
      (ConnectorWorld.start (fun _ => true) .small .small 0) mute).bind
        (·.getUserContext 1)).map (·.state) = some .stateOk := by decide +kernel
  obtain ⟨s, hs, hstate⟩ := Option.map_eq_some_iff.mp hok
  obtain ⟨w, hw, hctx⟩ := Option.bind_eq_some_iff.mp hs
  exact absurd (h.made (List.prefix_refl _) hw hctx hstate) (by decide +kernel)

end Rapidapp.Connector
