import Rapidapp.Connector.StaticFrames
import Rapidapp.Connector.ServerApi
import Rapidapp.Connector.ClientMessages

/-!
# No message leaks into another

The connector, its server API and its client API keep their message objects over all messages.
What they emit is determined all the same by the message they handle and by the session it is for:
after any two histories the same frames come out.
-/

namespace Rapidapp.Connector

open MessageObject World

/-- Two lists of frames are the same as far as both go. -/
def SameFrames {α : Type} (fs fs' : List α) : Prop := fs <+: fs' ∨ fs' <+: fs

/-! ## The connector -/

/-- What can happen to a connector with its static messages. `StopToBackEnd` is there to be called
by a stateful service. -/
inductive EmitEvent where
  | event (e : Event)
  | stopToBackEnd (p q : NetPtr)

namespace Emit

/-- One step. -/
def step (code : GeneratedCode) (debug : Bool) (e : Emit) : EmitEvent → Option Emit
  | .event (.frontEndMsg net msg size) => some (e.onRecvFrontEnd code net msg size).2
  | .event (.backEndMsg msg size) => some (e.onRecvBackEnd code debug msg size).2
  | .event ev => ((code.app debug).step e.world ev).map e.goTo
  | .stopToBackEnd p q =>
    match e.world.getUserContext p with
    | none => none
    | some s =>
      if q ∈ e.world.app.backends then some (e.stopToBackEnd code s (some q)).2 else none

/-- The process before the first event. -/
def start (w : ConnectorWorld) : Emit := ⟨w, {}, []⟩

/-- The state at the beginning of a call, whose frames are counted from there. -/
def begin (e : Emit) : Emit := { e with frames := [] }

/-- A state that some run of the connector reaches. -/
def Reached (code : GeneratedCode) (debug : Bool) (e : Emit) : Prop :=
  ∃ fate frontRecv backRecv now es,
    Run.run (step code debug) (start (.start fate frontRecv backRecv now)) es = some e

/-- What holds in every state of a run. -/
structure Ok (code : GeneratedCode) (e : Emit) : Prop where
  inv : Inv e.world
  clean : e.statics.Clean code

variable {code : GeneratedCode} {debug : Bool} {e e' : Emit}

/-- What a handler leaves is as it should be when the handler with new messages leaves it so. -/
theorem Emits.ok {expected sofar : List Frame} {new : Int × ConnectorWorld} {r : Int × Emit}
    (h : Emits code expected sofar new r) (hinv : Inv new.2) : Ok code r.2 :=
  ⟨h.world ▸ hinv, h.clean⟩

theorem Ok.step (h : Ok code e) {ev : EmitEvent} (hstep : e.step code debug ev = some e') :
    Ok code e' := by
  have hcalm : ∀ ev, ((code.app debug).step e.world ev).map e.goTo = some e' → Ok code e' := by
    intro ev hs
    obtain ⟨w, hw, rfl⟩ := Option.map_eq_some_iff.mp hs
    exact ⟨(step_spec h.inv hw).1, h.clean⟩
  cases ev with
  | event ev =>
    cases ev with
    | frontEndMsg net msg size =>
      cases hstep
      cases hs : e.world.getUserContext net with
      | none =>
        have hnone : e.onRecvFrontEnd code net msg size = (-1, e) := by
          rw [onRecvFrontEnd, hs]
        rw [hnone]
        exact h
      | some s =>
        exact (emits_onRecvFrontEnd h.inv h.clean hs debug msg size).ok
          (step_spec (e := .frontEndMsg net msg size) h.inv rfl).1
    | backEndMsg msg size =>
      cases hstep
      exact (emits_onRecvBackEnd h.inv h.clean debug msg size).ok
        (step_spec (e := .backEndMsg msg size) h.inv rfl).1
    | backEnd connect => exact hcalm (.backEnd connect) hstep
    | connect fd bevOk callocOk => exact hcalm (.connect fd bevOk callocOk) hstep
    | frontEndSocket b events => exact hcalm (.frontEndSocket b events) hstep
    | backEndSocket b events => exact hcalm (.backEndSocket b events) hstep
    | tick now setting => exact hcalm (.tick now setting) hstep
    | input b chunk => exact hcalm (.input b chunk) hstep
    | countPkg net => exact hcalm (.countPkg net) hstep
    | drain b len => exact hcalm (.drain b len) hstep
    | countTraffic net elapsed => exact hcalm (.countTraffic net elapsed) hstep
  | stopToBackEnd p q =>
    rw [Emit.step] at hstep
    cases hs : e.world.getUserContext p with
    | none =>
      rw [hs] at hstep
      cases hstep
    | some s =>
      rw [hs] at hstep
      dsimp only at hstep
      split_ifs at hstep with hq
      cases hstep
      cases hstub : s.frameStub with
      | false =>
        have hnone : e.stopToBackEnd code s (some q) = (-1, e) := by
          rw [stopToBackEnd, if_pos hstub]
        rw [hnone]
        exact h
      | true =>
        refine (emits_stopToBackEnd h.clean q hstub).ok ?_
        have hmem : ∀ c, some q = some c → c ∈ e.world.app.backends := by
          rintro c ⟨⟩
          exact hq
        have hsend := (Effect.sendToBackEnd h.inv p hmem
          (code.protobuf.serializeSSMsg (s.stopMsg e.world))).inv h.inv
        generalize e.world.sendToBackEnd (some q)
          (code.protobuf.serializeSSMsg (s.stopMsg e.world)) = r at hsend ⊢
        rcases r with ⟨ret, w⟩
        dsimp only
        split_ifs <;> exact hsend

theorem Reached.ok (h : Reached code debug e) : Ok code e := by
  obtain ⟨fate, frontRecv, backRecv, now, es, hrun⟩ := h
  refine Run.run_preserves (I := Ok code) (fun _ _ _ h hs => h.step hs) ?_ hrun
  exact ⟨Inv.start fate frontRecv backRecv now, Statics.clean_new code⟩

end Emit

/-- What a session and its connection have of their own. -/
structure OwnFields where
  state : SessionState
  lastSeq : UInt64
  frameStub : Bool
  tuple : Tuple
  deriving DecidableEq

def ConnectorSession.own (s : ConnectorSession) (w : ConnectorWorld) : OwnFields :=
  ⟨s.state, s.lastSeq, s.frameStub, s.tuple w⟩

/-- The fields of the session of a connection. -/
def ownOf (w : ConnectorWorld) (p : NetPtr) : Option OwnFields :=
  (w.getUserContext p).map fun s => s.own w

/-- The fields of the session that a message of a backend server is for. -/
def targetOwn (w : ConnectorWorld) (downMsg : SSMsg) : Option OwnFields :=
  (Emit.target w downMsg).map fun s => s.own w

/-- In any two states that the connector reaches, a message makes it emit the same frames for
sessions with the same fields. -/
structure ConnectorAgrees (code : GeneratedCode) (debug : Bool) : Prop where
  frontEnd : ∀ {e e' : Emit}, e.Reached code debug → e'.Reached code debug → ∀ p p',
    ownOf e.world p = ownOf e'.world p' → ∀ msg size,
      SameFrames (e.begin.onRecvFrontEnd code p msg size).2.frames
        (e'.begin.onRecvFrontEnd code p' msg size).2.frames
  backEnd : ∀ {e e' : Emit}, e.Reached code debug → e'.Reached code debug → ∀ msg size,
    targetOwn e.world (code.protobuf.parseSSMsg msg size) =
        targetOwn e'.world (code.protobuf.parseSSMsg msg size) →
      SameFrames (e.begin.onRecvBackEnd code debug msg size).2.frames
        (e'.begin.onRecvBackEnd code debug msg size).2.frames
  stop : ∀ {e e' : Emit}, e.Reached code debug → e'.Reached code debug → ∀ {p p' s s'},
    e.world.getUserContext p = some s → e'.world.getUserContext p' = some s' →
    s.own e.world = s'.own e'.world → ∀ q q',
      SameFrames (e.begin.stopToBackEnd code s (some q)).2.frames
        (e'.begin.stopToBackEnd code s' (some q')).2.frames

/-! ## The two APIs -/

/-- After any two histories a call of the server API does the same. -/
def ServerApiAgrees (code : GeneratedCode) : Prop :=
  ∀ (calls calls' : List ApiCall) (c : ApiCall),
    ((ConnectorServerApi.after code calls {}).call code c).1 =
      ((ConnectorServerApi.after code calls' {}).call code c).1

namespace ClientProcess

/-- A state that some run of a client with these settings reaches. -/
def Reached (code : GeneratedCode) (k : ClientProcess) : Prop :=
  ∃ settings fd es, Run.run (step code) { client := .start settings fd } es = some k

/-- The state at the beginning of a call. -/
def begin (k : ClientProcess) : ClientProcess := { k with frames := [] }

end ClientProcess

/-- The call makes a message of the same kind with the same data. -/
def ClientEvent.Alike : ClientEvent → ClientEvent → Prop
  | .update _, .update _ => True
  | .pushMessage data _, .pushMessage data' _ => data = data'
  | _, _ => False

/-- In any two states that clients reach with the same settings and number, a call emits the same
frame. -/
def ClientApiAgrees (code : GeneratedCode) : Prop :=
  ∀ {k k' : ClientProcess}, k.Reached code → k'.Reached code →
    k.client.settings = k'.client.settings → k.client.seqno = k'.client.seqno →
    k.client.sessionState = k'.client.sessionState → ∀ {e e' : ClientEvent}, e.Alike e' →
    ∀ {t t'}, k.begin.step code e = some t → k'.begin.step code e' = some t' →
      SameFrames t.frames t'.frames

/-! ## They agree -/

/-- Lists that start like the same list are the same as far as both go. -/
theorem sameFrames_of_starts {α : Type} {fs fs' expected : List α} (h : fs <+: expected)
    (h' : fs' <+: expected) : SameFrames fs fs' :=
  List.prefix_or_prefix_of_prefix h h'

namespace Emit

variable {code : GeneratedCode} {debug : Bool} {e e' : Emit}

/-- The frames of a call are the first of those that are expected. -/
theorem Emits.starts {expected : List Frame} {new : Int × ConnectorWorld} {r : Int × Emit}
    (h : Emits code expected [] new r) : r.2.frames <+: expected := by
  obtain ⟨fs, hpre, _, hfs⟩ := h.frames
  rw [hfs]
  exact hpre

/-- `OnRecvFrontEnd`, also of a connection without a session. -/
theorem onRecvFrontEnd_frames (h : Ok code e) (debug : Bool) (p : NetPtr) (msg : List UInt8)
    (size : Nat) :
    (e.begin.onRecvFrontEnd code p msg size).2.frames <+:
      (e.world.getUserContext p).elim [] fun s =>
        code.frontEndFrames s e.world (code.protobuf.parseCSMsg msg size) := by
  cases hs : e.world.getUserContext p with
  | none =>
    have hnone : e.begin.onRecvFrontEnd code p msg size = (-1, e.begin) := by
      rw [onRecvFrontEnd, begin, hs]
    rw [hnone]
    exact List.nil_prefix
  | some s => exact (emits_onRecvFrontEnd (e := e.begin) h.inv h.clean hs debug msg size).starts

theorem onRecvBackEnd_frames (h : Ok code e) (debug : Bool) (msg : List UInt8) (size : Nat) :
    (e.begin.onRecvBackEnd code debug msg size).2.frames <+:
      (target e.world (code.protobuf.parseSSMsg msg size)).elim [] fun s =>
        code.backEndFrames debug s e.world (code.protobuf.parseSSMsg msg size) :=
  (emits_onRecvBackEnd (e := e.begin) h.inv h.clean debug msg size).starts

theorem stopToBackEnd_frames (h : Ok code e) (s : ConnectorSession) (q : NetPtr) :
    (e.begin.stopToBackEnd code s (some q)).2.frames <+:
      if s.frameStub = false then [] else [code.toServer (s.stopMsg e.world)] := by
  cases hstub : s.frameStub with
  | false =>
    have hnone : e.begin.stopToBackEnd code s (some q) = (-1, e.begin) := by
      rw [stopToBackEnd, if_pos hstub]
    rw [hnone]
    exact List.nil_prefix
  | true => exact (emits_stopToBackEnd (e := e.begin) h.clean q hstub).starts

end Emit

section Agree

variable {w w' : ConnectorWorld} {s s' : ConnectorSession}

/-- What is determined by the fields of a session is the same for sessions with the same fields. -/
theorem elim_own {α : Type} {o o' : Option ConnectorSession} {none : α}
    {f : ConnectorSession → α} {f' : ConnectorSession → α}
    (hown : o.map (fun s => s.own w) = o'.map fun s => s.own w')
    (hf : ∀ s s', s.own w = s'.own w' → f s = f' s') : o.elim none f = o'.elim none f' := by
  cases o with
  | none =>
    cases o' with
    | none => rfl
    | some s' => cases hown
  | some s =>
    cases o' with
    | none => cases hown
    | some s' => exact hf s s' (Option.some.inj hown)

theorem frontEndFrames_own (code : GeneratedCode) (upMsg : CSMsg) (h : s.own w = s'.own w') :
    code.frontEndFrames s w upMsg = code.frontEndFrames s' w' upMsg := by
  obtain ⟨hstate, hseq, _, htuple⟩ := OwnFields.mk.inj h
  exact code.frontEndFrames_congr upMsg hstate hseq htuple

theorem backEndFrames_own (code : GeneratedCode) (debug : Bool) (downMsg : SSMsg)
    (h : s.own w = s'.own w') :
    code.backEndFrames debug s w downMsg = code.backEndFrames debug s' w' downMsg := by
  obtain ⟨hstate, _, _, htuple⟩ := OwnFields.mk.inj h
  exact code.backEndFrames_congr debug downMsg hstate htuple

theorem stopMsg_own (h : s.own w = s'.own w') : s.stopMsg w = s'.stopMsg w' := by
  obtain ⟨_, _, _, htuple⟩ := OwnFields.mk.inj h
  rw [ConnectorSession.stopMsg, ConnectorSession.stopMsg, htuple]

end Agree

theorem connectorAgrees (code : GeneratedCode) (debug : Bool) : ConnectorAgrees code debug where
  frontEnd {e e'} h h' p p' hown msg size := by
    have hpre := Emit.onRecvFrontEnd_frames h.ok debug p msg size
    have hpre' := Emit.onRecvFrontEnd_frames h'.ok debug p' msg size
    rw [elim_own hown fun _ _ => frontEndFrames_own code _] at hpre
    exact sameFrames_of_starts hpre hpre'
  backEnd {e e'} h h' msg size hown := by
    have hpre := Emit.onRecvBackEnd_frames h.ok debug msg size
    have hpre' := Emit.onRecvBackEnd_frames h'.ok debug msg size
    rw [elim_own hown fun _ _ => backEndFrames_own code debug _] at hpre
    exact sameFrames_of_starts hpre hpre'
  stop {e e'} h h' {p p' s s'} hs hs' hown q q' := by
    have hpre := Emit.stopToBackEnd_frames h.ok s q
    have hpre' := Emit.stopToBackEnd_frames h'.ok s' q'
    have hstub : s.frameStub = s'.frameStub := congrArg OwnFields.frameStub hown
    rw [stopMsg_own hown, hstub] at hpre
    exact sameFrames_of_starts hpre hpre'

/-- After any calls the server API does what it does with new messages. -/
theorem serverApiAgrees (code : GeneratedCode) : ServerApiAgrees code := by
  intro calls calls' c
  have hafter := fun calls => (ConnectorServerApi.clean_new code).after calls
  rw [(ConnectorServerApi.call_spec (hafter calls) c).1,
    (ConnectorServerApi.call_spec (hafter calls') c).1]

namespace ClientProcess

variable {code : GeneratedCode} {k k' : ClientProcess}

theorem Reached.clean (h : k.Reached code) : k.Clean := by
  obtain ⟨settings, fd, es, hrun⟩ := h
  have hstart : ({ client := .start settings fd } : ClientProcess).Clean := fun _ => rfl
  refine Run.run_preserves (I := Clean) (fun _ _ _ h hs => ?_) hstart hrun
  obtain ⟨_, _, hmakes⟩ := makes_step code h hs
  exact hmakes.clean

/-- Clients with the same settings and number in the same state mean the same message. -/
theorem makes_agree {pb : Protobuf} {c c' : Client} (hsettings : c.settings = c'.settings)
    (hseqno : c.seqno = c'.seqno) (hstate : c.sessionState = c'.sessionState)
    {e e' : ClientEvent} (halike : e.Alike e') {m m' : CSMsg} (hm : c.makes pb e = some m)
    (hm' : c'.makes pb e' = some m') : m = m' := by
  cases e with
  | update net =>
    cases e' with
    | update net' =>
      unfold Client.makes at hm hm'
      rw [← hstate] at hm'
      cases hst : c.sessionState <;> simp only [hst] at hm hm'
      case sessionStateTcpSyning =>
        split_ifs at hm hm'
        cases hm
        cases hm'
        rw [Client.synMsg, Client.synMsg, hsettings, hseqno]
      case sessionStateKeySyning =>
        split_ifs at hm hm'
        cases hm
        cases hm'
        rw [Client.authMsg, Client.authMsg, hsettings, hseqno]
      all_goals cases hm
    | _ => exact halike.elim
  | pushMessage data send =>
    cases e' with
    | pushMessage data' send' =>
      obtain rfl : data = data' := halike
      unfold Client.makes at hm hm'
      dsimp only at hm hm'
      split_ifs at hm hm'
      cases hm
      cases hm'
      rw [Client.dataMsg, Client.dataMsg, hseqno]
    | _ => exact halike.elim
  | peekMessage => exact halike.elim
  | popMessage => exact halike.elim

end ClientProcess

theorem clientApiAgrees (code : GeneratedCode) : ClientApiAgrees code := by
  intro k k' h h' hsettings hseqno hstate e e' halike t t' ht ht'
  obtain ⟨_, _, hmakes⟩ := ClientProcess.makes_step code (k := k.begin) h.clean ht
  obtain ⟨_, _, hmakes'⟩ := ClientProcess.makes_step code (k := k'.begin) h'.clean ht'
  rw [hmakes.frames, hmakes'.frames]
  change SameFrames (((k.client.makes code.protobuf e).toList).map _)
    (((k'.client.makes code.protobuf e').toList).map _)
  cases hm : k.client.makes code.protobuf e with
  | none => exact .inl List.nil_prefix
  | some m =>
    cases hm' : k'.client.makes code.protobuf e' with
    | none => exact .inr List.nil_prefix
    | some m' =>
      obtain rfl := ClientProcess.makes_agree hsettings hseqno hstate halike hm hm'
      exact .inl List.prefix_rfl

/-- Whatever was handled before, what the connector and its two APIs emit depends on the message
they handle and on the session it is for. -/
theorem frames_do_not_leak (code : GeneratedCode) (debug : Bool) :
    ConnectorAgrees code debug ∧ ServerApiAgrees code ∧ ClientApiAgrees code :=
  ⟨connectorAgrees code debug, serverApiAgrees code, clientApiAgrees code⟩

end Rapidapp.Connector
