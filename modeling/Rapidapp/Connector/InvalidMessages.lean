import Rapidapp.Connector.ClientSequence
import Rapidapp.Connector.FinMessages

/-!
# Bytes that are no message

`OnRecvFrontEnd` and `OnRecvBackEnd` (`server/connector/connector_app.cpp:219-361`) do not look at
what `ParseFromArray` returns. They go on with what is in the message: the fields that were read
before the bytes went wrong, and the defaults of the others. The default of `magic` is the magic
that `CheckUpSideMessage` asks for.
-/

namespace Rapidapp

variable {σ γ : Type}

/-! ## Nothing is sent -/

namespace Heap

/-- No output that is still there has changed. -/
def Silent (h h' : Heap γ) : Prop :=
  ∀ b e', h'.bevs b = some e' → ∃ e, h.bevs b = some e ∧ e'.output = e.output

/-- The connection takes the header of a message: it is established and the first of the two writes
of `Send` succeeds. -/
def TakesHeader (h : Heap γ) (p : NetPtr) : Prop :=
  ∃ n b, h.nets p = some n ∧ n.hevent = some b ∧ n.state = .netEstablished ∧
    (h.bevs b).isSome ∧ h.fate h.writes = true

theorem silent_of_bevs {h h' : Heap γ} (hbevs : ∀ b e', h'.bevs b = some e' → h.bevs b = some e') :
    h.Silent h' :=
  fun b e' he' => ⟨e', hbevs b e' he', rfl⟩

/-- What was written can be seen. -/
theorem Wrote.silent_iff {h h' : Heap γ} {out : BevPtr → List UInt8} (hw : Wrote h h' out) :
    h.Silent h' ↔ ∀ b, (h.bevs b).isSome → out b = [] := by
  constructor
  · intro hsilent b hb
    obtain ⟨e, he⟩ := Option.isSome_iff_exists.mp hb
    obtain ⟨e₀, he₀, hout⟩ := hsilent b _ (hw.bev he)
    cases he.symm.trans he₀
    exact List.self_eq_append_right.mp hout.symm
  · intro hnone b e' he'
    rw [hw.bevs] at he'
    obtain ⟨e, he, rfl⟩ := Option.map_eq_some_iff.mp he'
    refine ⟨e, he, ?_⟩
    rw [hnone b (by rw [he]; rfl)]
    exact List.append_nil _

theorem silent_writeFrame_iff (h : Heap γ) (b : BevPtr) (msg : List UInt8) :
    h.Silent (h.writeFrame b msg).2 ↔ ¬ ((h.bevs b).isSome ∧ h.fate h.writes = true) := by
  have hheader : lengthHeader msg.length ≠ [] := by
    intro hnil
    have hlen := congrArg List.length hnil
    simp [lengthHeader] at hlen
  obtain ⟨hnot, h₁, heq, hw⟩ | ⟨e, he, hfirst, ⟨-, h₁, heq, hw⟩ | ⟨-, h₁, heq, hw⟩⟩ :=
    h.writeFrame_cases b msg
  · rw [heq]
    exact iff_of_true (hw.silent_iff.mpr fun _ _ => rfl) hnot
  -- the header is in the output, whatever becomes of the payload
  all_goals
    rw [heq]
    refine iff_of_false (fun hsilent => ?_) (by simp [he, hfirst])
    have hnone := hw.silent_iff.mp hsilent b (by rw [he]; rfl)
    simp [hheader] at hnone

/-- `Send` writes nothing exactly when the connection does not take the header. -/
theorem silent_send_iff (h : Heap γ) (p : NetPtr) {msg : List UInt8} (hmsg : msg ≠ []) :
    h.Silent (h.send p msg).2 ↔ ¬ h.TakesHeader p := by
  constructor
  · rintro hsilent ⟨n, b, hp, hev, hst, hboth⟩
    rw [send_eq_writeFrame hmsg hp hev hst] at hsilent
    exact (h.silent_writeFrame_iff b msg).mp hsilent hboth
  · intro hnot
    obtain ⟨hnil, _⟩ | ⟨r, _, hs⟩ | ⟨n, b, _, hp, hev, hst, hs⟩ := h.send_cases p msg
    · exact absurd hnil hmsg
    · rw [hs]
      exact silent_of_bevs fun _ _ he => he
    · rw [hs]
      exact (h.silent_writeFrame_iff b msg).mpr fun hboth => hnot ⟨n, b, hp, hev, hst, hboth⟩

end Heap

namespace World

/-- The bytes are some, and the connection takes their header. -/
def Transmits (w : World σ γ) (p : NetPtr) (buf : List UInt8) : Prop :=
  buf ≠ [] ∧ w.heap.TakesHeader p

theorem silent_sendToFrontEnd_iff (w : World σ γ) (p : NetPtr) (buf : List UInt8) :
    w.heap.Silent (w.sendToFrontEnd (some p) buf).2.heap ↔ ¬ w.Transmits p buf := by
  by_cases hbuf : buf = []
  · have hsame : (w.sendToFrontEnd (some p) buf).2 = w := by simp [sendToFrontEnd, hbuf]
    rw [hsame]
    exact iff_of_true (Heap.silent_of_bevs fun _ _ he => he) fun h => h.1 hbuf
  have hheap : (w.sendToFrontEnd (some p) buf).2.heap = (w.heap.send p buf).2 := by
    simp only [sendToFrontEnd, hbuf, if_false]
    rcases w.heap.send p buf with ⟨r, h⟩
    cases r <;> rfl
  rw [hheap, Heap.silent_send_iff _ _ hbuf, Transmits, and_iff_right hbuf]

theorem silent_sendToBackEnd_iff (w : World σ γ) (p : NetPtr) (buf : List UInt8) :
    w.heap.Silent (w.sendToBackEnd (some p) buf).2.heap ↔ ¬ w.Transmits p buf := by
  by_cases hbuf : buf = []
  · have hsame : (w.sendToBackEnd (some p) buf).2 = w := by simp [sendToBackEnd, hbuf]
    rw [hsame]
    exact iff_of_true (Heap.silent_of_bevs fun _ _ he => he) fun h => h.1 hbuf
  have hbevs : (w.sendToBackEnd (some p) buf).2.heap.bevs = (w.heap.send p buf).2.bevs := by
    simp only [sendToBackEnd, hbuf, if_false]
    rcases w.heap.send p buf with ⟨r, h⟩
    cases r with
    | easyNetOk =>
      dsimp only
      cases h.nets p <;> rfl
    | _ => rfl
  have hsend := Heap.silent_send_iff w.heap p hbuf
  unfold Heap.Silent at hsend ⊢
  rw [hbevs, hsend, Transmits, and_iff_right hbuf]

/-- A connection that is destroyed takes its output with it; nothing is written. -/
theorem silent_destroyFrontEnd {w : World σ γ} (h : Ok w) (net : Option NetPtr) :
    w.heap.Silent (w.destroyFrontEnd net).heap := by
  apply Heap.silent_of_bevs
  intro b e' he'
  obtain hsame | ⟨p, n, b₀, e, _, hl, _, herase⟩ := destroyNet_cases h .frontEnd net
  · rwa [destroyFrontEnd, hsame] at he'
  · rw [destroyFrontEnd, herase, heap_eraseAt _ _ _ hl] at he'
    by_cases hb : b = b₀
    · subst hb
      simp [Heap.release] at he'
    · simpa [Heap.release, hb] using he'

/-- Writing what is already there changes nothing. -/
theorem setUserContext_self {w : World σ γ} {p : NetPtr} {s : γ} (hs : w.getUserContext p = some s) :
    w.setUserContext p s = w := by
  obtain ⟨n, hn, hctx⟩ := Option.bind_eq_some_iff.mp hs
  have hsame : { n with userContext := some s } = n := by rw [← hctx]
  simp only [setUserContext, hn, hctx, hsame]
  have hnets : Function.update w.heap.nets p (some n) = w.heap.nets := by
    rw [← hn]
    exact Function.update_eq_self p w.heap.nets
  rw [Heap.setNet, hnets]

end World

end Rapidapp

namespace Rapidapp.Connector

open World ConnectorSession

/-- What `ParseFromArray` of the two messages returns. -/
structure ParseResults where
  parsesCSMsg : List UInt8 → Nat → Bool
  parsesSSMsg : List UInt8 → Nat → Bool

/-! ## What OnRecvBackEnd calls -/

/-- What `OnRecvBackEnd` calls for a session. -/
inductive SessionCall where
  | driveStateMachine
  | setSid (sid : UInt32)
  | destroyFrontEnd
  | forwardDownSideMessage (sequence : UInt64) (data : List UInt8)
  deriving DecidableEq

variable (c : ConnectorApp)

/-- What the call does, for the session `s` of `p`. -/
def SessionCall.run (p : NetPtr) (s : ConnectorSession) (w : ConnectorWorld) :
    SessionCall → ConnectorWorld
  | .driveStateMachine => (Connector.driveStateMachine c.pb p w).2
  | .setSid sid => ConnectorApp.setSid p sid w
  | .destroyFrontEnd => w.destroyFrontEnd (some p)
  | .forwardDownSideMessage sequence data =>
    (Connector.forwardDownSideMessage c.pb s sequence data w).2

namespace ConnectorApp

/-- The calls of `relayToFrontEnd`, one after the other. -/
def relayCalls (p : NetPtr) (s : ConnectorSession) (downMsg : SSMsg) (w : ConnectorWorld) :
    List SessionCall :=
  if downMsg.head.bodyid ≠ SSBodyCmdId.data.value then
    if downMsg.head.bodyid ≠ SSBodyCmdId.fin.value ∧ s.state = .stateOk then []
    else if (driveStateMachine c.pb p w).1 < 0 then [.driveStateMachine, .destroyFrontEnd]
    else [.driveStateMachine, .setSid downMsg.head.session.sid]
  else if c.debug = false ∧ (s.state ≠ .stateOk ∨ s.sid ≠ downMsg.head.session.sid) then
    [.destroyFrontEnd]
  else
    [.forwardDownSideMessage downMsg.head.sequence.toUInt64 (downMsg.body.data.getD [])]

/-- The calls of `OnRecvBackEnd`. -/
def backEndCalls (msg : List UInt8) (size : Nat) (w : ConnectorWorld) : List SessionCall :=
  let downMsg := c.pb.parseSSMsg msg size
  let ids := downMsg.head.session
  match w.getFrontEndByAsyncIds ids.fd.toNat ids.nid.toNat with
  | none => []
  | some p =>
    match w.getUserContext p with
    | none => []
    | some s => c.relayCalls p s downMsg w

end ConnectorApp

/-- The calls are all that is done. -/
theorem relayToFrontEnd_calls (p : NetPtr) (s : ConnectorSession) (downMsg : SSMsg)
    (w : ConnectorWorld) :
    (c.relayToFrontEnd p s downMsg w).2 =
      (c.relayCalls p s downMsg w).foldl (SessionCall.run c p s) w := by
  unfold ConnectorApp.relayToFrontEnd ConnectorApp.relayCalls
  by_cases hdata : downMsg.head.bodyid = SSBodyCmdId.data.value
  · simp only [hdata, ne_eq, not_true, if_false]
    by_cases hdebug : c.debug = false <;> by_cases hstate : s.state = .stateOk <;>
      by_cases hsid : s.sid = downMsg.head.session.sid <;>
      simp [hdebug, hstate, hsid, SessionCall.run]
  · simp only [hdata, ne_eq, not_false_eq_true, if_true]
    by_cases hready : downMsg.head.bodyid ≠ SSBodyCmdId.fin.value ∧ s.state = .stateOk
    · simp [hready]
    · rw [if_neg hready, if_neg hready]
      rcases hrun : driveStateMachine c.pb p w with ⟨ret, w₁⟩
      by_cases hret : ret < 0 <;> simp [hrun, hret, SessionCall.run]

/-! ## Messages that are ignored -/

/-- These bytes from the client of `p` leave its session as it was, and nothing is sent. -/
structure FrontEndIgnored (p : NetPtr) (msg : List UInt8) (size : Nat) (w : ConnectorWorld) :
    Prop where
  session : ∀ s, w.getUserContext p = some s →
    ∃ s', (c.onRecvFrontEnd p msg size w).2.getUserContext p = some s' ∧
      s'.state = s.state ∧ s'.lastSeq = s.lastSeq
  silent : w.heap.Silent (c.onRecvFrontEnd p msg size w).2.heap

/-- These bytes from a backend drive no session, change no `sid_` and are not forwarded. -/
structure BackEndIgnored (msg : List UInt8) (size : Nat) (w : ConnectorWorld) : Prop where
  undriven : .driveStateMachine ∉ c.backEndCalls msg size w
  sid : ∀ p s s', w.getUserContext p = some s →
    (c.onRecvBackEnd msg size w).2.getUserContext p = some s' → s'.sid = s.sid
  silent : w.heap.Silent (c.onRecvBackEnd msg size w).2.heap

/-- If this event is a message that `ParseFromArray` fails for, the message is ignored. -/
def IgnoresInvalid (parses : ParseResults) (w : ConnectorWorld) : Event → Prop
  | .frontEndMsg p msg size => parses.parsesCSMsg msg size = false → FrontEndIgnored c p msg size w
  | .backEndMsg msg size => parses.parsesSSMsg msg size = false → BackEndIgnored c msg size w
  | _ => True

/-! ## Messages that do no harm -/

/-- The session of `p` rejects what is in the message of its client; or it is ready, has the number
0 and gets it again, and there is no data that a backend takes. -/
def HarmlessUpSide (p : NetPtr) (upMsg : CSMsg) (w : ConnectorWorld) : Prop :=
  ∀ s, w.getUserContext p = some s → (s.checkUpSideMessage upMsg).1 ≠ 0 ∨
    s.state = .stateOk ∧ s.lastSeq = 0 ∧ upMsg.head.sequence = 0 ∧
      (upMsg.head.bodyid = CSBodyCmdId.dataTransparent.value → ∀ q, w.app.next.1 = some q →
        ¬ w.Transmits q (c.pb.serializeSSMsg (s.upSideMsg w upMsg.head.sequence.toUInt64
          (upMsg.body.data.getD []))))

/-- What is in the message of a backend names no session, or one that is ready and to which it is
neither `DATA` nor `FIN`, or it is `DATA` that is not let through or that the client does not
take. -/
def HarmlessDownSide (downMsg : SSMsg) (w : ConnectorWorld) : Prop :=
  ∀ p s, w.getFrontEndByAsyncIds downMsg.head.session.fd.toNat
      downMsg.head.session.nid.toNat = some p → w.getUserContext p = some s →
    if downMsg.head.bodyid ≠ SSBodyCmdId.data.value then
      downMsg.head.bodyid ≠ SSBodyCmdId.fin.value ∧ s.state = .stateOk
    else c.debug = false ∧ (s.state ≠ .stateOk ∨ s.sid ≠ downMsg.head.session.sid) ∨
      downMsg.body.data.getD [] = [] ∨
      ¬ w.Transmits p (c.pb.serializeCSMsg (downSideMsg downMsg.head.sequence.toUInt64
        (downMsg.body.data.getD [])))

/-- If this event is a message that `ParseFromArray` fails for, what is in it does no harm. -/
def HarmlessInvalid (parses : ParseResults) (w : ConnectorWorld) : Event → Prop
  | .frontEndMsg p msg size =>
    parses.parsesCSMsg msg size = false → HarmlessUpSide c p (c.pb.parseCSMsg msg size) w
  | .backEndMsg msg size =>
    parses.parsesSSMsg msg size = false → HarmlessDownSide c (c.pb.parseSSMsg msg size) w
  | _ => True

variable {c} {w w' : ConnectorWorld} {p : NetPtr} {s s' : ConnectorSession}

/-! ## The client's side -/

theorem afterClient_ne {state : SessionState} (h : state ≠ .stateOk) : state.afterClient ≠ state := by
  cases state <;> simp_all [SessionState.afterClient, SessionState.next]

/-- Data is sent on exactly when the backend whose turn it is takes it. -/
theorem silent_sendDataToBackEnd_iff (w : ConnectorWorld) (data : List UInt8) :
    w.heap.Silent (sendDataToBackEnd data w).2.heap ↔
      ∀ q, w.app.next.1 = some q → ¬ w.Transmits q data := by
  have hheap : (sendDataToBackEnd data w).2.heap =
      (({ w with app := w.app.next.2 } : ConnectorWorld).sendToBackEnd w.app.next.1 data).2.heap := by
    unfold sendDataToBackEnd
    dsimp only
    split_ifs <;> rfl
  rw [hheap]
  cases w.app.next.1 with
  | none => exact iff_of_true (Heap.silent_of_bevs fun _ _ he => he) nofun
  | some q =>
    have hsend := silent_sendToBackEnd_iff ({ w with app := w.app.next.2 } : ConnectorWorld) q data
    exact hsend.trans ⟨fun h _ hq => Option.some.inj hq ▸ h, fun h => h q rfl⟩

theorem sequence_eq_zero {sequence : Int64} (h : sequence.toUInt64 = 0) : sequence = 0 := by
  rw [← Int64.toInt64_toUInt64 sequence, h]
  rfl

/-- A session that is ready and has the number 0 is the same after it got the number 0 again. -/
theorem onRecvFrontEnd_again (hs : w.getUserContext p = some s) {msg : List UInt8} {size : Nat}
    (hcheck : (s.checkUpSideMessage (c.pb.parseCSMsg msg size)).1 = 0) (hok : s.state = .stateOk)
    (hlast : s.lastSeq = 0) (hzero : (c.pb.parseCSMsg msg size).head.sequence = 0) :
    c.onRecvFrontEnd p msg size w =
      if (c.pb.parseCSMsg msg size).head.bodyid ≠ CSBodyCmdId.dataTransparent.value then (-1, w)
      else forwardUpSideMessage c.pb s (c.pb.parseCSMsg msg size).head.sequence.toUInt64
        ((c.pb.parseCSMsg msg size).body.data.getD []) w := by
  have hsame : s.accept (c.pb.parseCSMsg msg size) = s := by
    rw [ConnectorSession.accept, hzero]
    exact congrArg (fun lastSeq => { s with lastSeq := lastSeq }) hlast.symm
  rw [onRecvFrontEnd_accepted c hs hcheck]
  simp only [hsame, setUserContext_self hs, hok, ne_eq, not_true, if_false]

/-- A message that is accepted leaves the session as it was only if the session is ready and got
the number 0 twice. -/
theorem FrontEndIgnored.again (h : Inv w) (hs : w.getUserContext p = some s) {msg : List UInt8}
    {size : Nat} (hcheck : (s.checkUpSideMessage (c.pb.parseCSMsg msg size)).1 = 0)
    (hignored : FrontEndIgnored c p msg size w) :
    s.state = .stateOk ∧ s.lastSeq = 0 ∧ (c.pb.parseCSMsg msg size).head.sequence = 0 := by
  obtain ⟨s', hs', hstate, hlast⟩ := hignored.session s hs
  obtain ⟨hrejected, _⟩ | ⟨_, rfl⟩ := (onRecvFrontEnd_spec c h hs msg size).2 s' hs'
  · exact absurd hcheck hrejected
  have hok : s.state = .stateOk := by
    by_contra hne
    exact afterClient_ne hne hstate
  have hnumber : (c.pb.parseCSMsg msg size).head.sequence.toUInt64 = s.lastSeq := hlast
  obtain ⟨_, hzero | hnext⟩ := ConnectorSession.checkUpSideMessage_ok hcheck
  · exact ⟨hok, hzero, sequence_eq_zero (hnumber.trans hzero)⟩
  · rw [hnumber] at hnext
    have hone : (1 : UInt64) = 0 := UInt64.left_eq_add.mp hnext
    exact absurd hone (by decide)

theorem frontEndIgnored_iff (h : Inv w) (p : NetPtr) (msg : List UInt8) (size : Nat) :
    FrontEndIgnored c p msg size w ↔ HarmlessUpSide c p (c.pb.parseCSMsg msg size) w := by
  have hstill : w.heap.Silent w.heap := Heap.silent_of_bevs fun _ _ he => he
  cases hs : w.getUserContext p with
  | none =>
    have hsame : c.onRecvFrontEnd p msg size w = (-1, w) := by rw [ConnectorApp.onRecvFrontEnd, hs]
    refine iff_of_true ⟨fun s hs' => ?_, by rwa [hsame]⟩ fun s hs' => ?_
    all_goals
      rw [hs] at hs'
      cases hs'
  | some s =>
    by_cases hcheck : (s.checkUpSideMessage (c.pb.parseCSMsg msg size)).1 = 0
    · constructor
      · intro hignored s₀ hs₀
        cases hs.symm.trans hs₀
        obtain ⟨hok, hlast, hzero⟩ := hignored.again h hs hcheck
        refine .inr ⟨hok, hlast, hzero, fun hid => ?_⟩
        have hsilent := hignored.silent
        rw [onRecvFrontEnd_again hs hcheck hok hlast hzero, if_neg (not_not.mpr hid)] at hsilent
        exact (silent_sendDataToBackEnd_iff w _).mp hsilent
      · intro hharm
        obtain hrejected | ⟨hok, hlast, hzero, hdata⟩ := hharm s hs
        · exact absurd hcheck hrejected
        have hagain := onRecvFrontEnd_again hs hcheck hok hlast hzero
        by_cases hid : (c.pb.parseCSMsg msg size).head.bodyid = CSBodyCmdId.dataTransparent.value
        · rw [if_neg (not_not.mpr hid)] at hagain
          refine ⟨fun s₀ hs₀ => ⟨s₀, ?_, rfl, rfl⟩, ?_⟩
          · rw [hagain, forwardUpSideMessage, (sendDataToBackEnd_spec h p _).2, hs₀]
          · rw [hagain]
            exact (silent_sendDataToBackEnd_iff w _).mpr (hdata hid)
        · rw [if_pos hid] at hagain
          refine ⟨fun s₀ hs₀ => ⟨s₀, ?_, rfl, rfl⟩, ?_⟩
          · rw [hagain]
            exact hs₀
          · rwa [hagain]
    · have hsame := onRecvFrontEnd_rejected c hs hcheck
      refine iff_of_true ⟨fun s₀ hs₀ => ⟨s₀, ?_, rfl, rfl⟩, ?_⟩ fun s₀ hs₀ => .inl ?_
      · rw [hsame]
        exact hs₀
      · rwa [hsame]
      · cases hs.symm.trans hs₀
        exact hcheck

/-! ## The backend's side -/

/-- Data is sent on exactly when there is some and the client takes it. -/
theorem silent_forwardDownSideMessage_iff (hstub : s.netStub = some p) (sequence : UInt64)
    (data : List UInt8) :
    w.heap.Silent (forwardDownSideMessage c.pb s sequence data w).2.heap ↔
      data = [] ∨ ¬ w.Transmits p (c.pb.serializeCSMsg (downSideMsg sequence data)) := by
  unfold forwardDownSideMessage
  by_cases hdata : data = []
  · rw [if_pos hdata]
    exact iff_of_true (Heap.silent_of_bevs fun _ _ he => he) (.inl hdata)
  · rw [if_neg hdata, hstub, or_iff_right hdata, ← silent_sendToFrontEnd_iff]
    dsimp only
    split_ifs <;> exact Iff.rfl

/-- What one message of a backend does to the session it is for. -/
theorem relayIgnored_iff (h : Inv w) (hs : w.getUserContext p = some s) (downMsg : SSMsg) :
    (SessionCall.driveStateMachine ∉ c.relayCalls p s downMsg w ∧
        w.heap.Silent (c.relayToFrontEnd p s downMsg w).2.heap) ↔
      if downMsg.head.bodyid ≠ SSBodyCmdId.data.value then
        downMsg.head.bodyid ≠ SSBodyCmdId.fin.value ∧ s.state = .stateOk
      else c.debug = false ∧ (s.state ≠ .stateOk ∨ s.sid ≠ downMsg.head.session.sid) ∨
        downMsg.body.data.getD [] = [] ∨
        ¬ w.Transmits p (c.pb.serializeCSMsg (downSideMsg downMsg.head.sequence.toUInt64
          (downMsg.body.data.getD []))) := by
  obtain ⟨hstub, _⟩ := h.session hs
  rw [relayToFrontEnd_calls]
  unfold ConnectorApp.relayCalls
  by_cases hdata : downMsg.head.bodyid = SSBodyCmdId.data.value
  · simp only [hdata, ne_eq, not_true, if_false]
    by_cases hclosed : c.debug = false ∧ (s.state ≠ .stateOk ∨ s.sid ≠ downMsg.head.session.sid)
    · rw [if_pos hclosed]
      refine iff_of_true ⟨by simp, ?_⟩ (.inl hclosed)
      exact silent_destroyFrontEnd h.ok (some p)
    · rw [if_neg hclosed]
      have hforward := silent_forwardDownSideMessage_iff (c := c) (w := w) hstub
        downMsg.head.sequence.toUInt64 (downMsg.body.data.getD [])
      simpa [SessionCall.run, hclosed] using hforward
  · simp only [hdata, ne_eq, not_false_eq_true, if_true]
    by_cases hready : downMsg.head.bodyid ≠ SSBodyCmdId.fin.value ∧ s.state = .stateOk
    · rw [if_pos hready]
      exact iff_of_true ⟨by simp, Heap.silent_of_bevs fun _ _ he => he⟩ hready
    · rw [if_neg hready]
      refine iff_of_false ?_ hready
      rintro ⟨hundriven, _⟩
      apply hundriven
      split_ifs <;> simp

/-- The id of a session stays unless the session is driven. -/
theorem sid_of_undriven (h : Inv w) (hs : w.getUserContext p = some s) {downMsg : SSMsg}
    (hundriven : SessionCall.driveStateMachine ∉ c.relayCalls p s downMsg w) {q : NetPtr}
    {t t' : ConnectorSession} (ht : w.getUserContext q = some t)
    (ht' : (c.relayToFrontEnd p s downMsg w).2.getUserContext q = some t') : t'.sid = t.sid := by
  obtain ⟨he, hsession⟩ := relayToFrontEnd_spec c h hs downMsg
  by_cases hq : q = p
  · subst hq
    cases hs.symm.trans ht
    obtain rfl | ⟨hne, hdata, _⟩ := hsession t' ht'
    · rfl
    · exfalso
      apply hundriven
      unfold ConnectorApp.relayCalls
      rw [if_pos hdata, if_neg fun hready => hne hready.2]
      split_ifs <;> simp
  · rw [Option.some.inj (ht.symm.trans (he.context hq ht'))]

theorem backEndIgnored_iff (h : Inv w) (msg : List UInt8) (size : Nat) :
    BackEndIgnored c msg size w ↔ HarmlessDownSide c (c.pb.parseSSMsg msg size) w := by
  have hnobody : c.onRecvBackEnd msg size w = (-1, w) → c.backEndCalls msg size w = [] →
      BackEndIgnored c msg size w := by
    intro hsame hcalls
    refine ⟨by simp [hcalls], fun p s s' hs hs' => ?_, ?_⟩
    · rw [hsame] at hs'
      rw [Option.some.inj (hs.symm.trans hs')]
    · rw [hsame]
      exact Heap.silent_of_bevs fun _ _ he => he
  unfold HarmlessDownSide
  generalize hparse : c.pb.parseSSMsg msg size = downMsg
  cases hp : w.getFrontEndByAsyncIds downMsg.head.session.fd.toNat
      downMsg.head.session.nid.toNat with
  | none =>
    refine iff_of_true (hnobody ?_ ?_) nofun
    · simp only [ConnectorApp.onRecvBackEnd, hparse, hp]
    · simp only [ConnectorApp.backEndCalls, hparse, hp]
  | some p =>
    cases hs : w.getUserContext p with
    | none =>
      refine iff_of_true (hnobody ?_ ?_) fun q s hq hs' => ?_
      · simp only [ConnectorApp.onRecvBackEnd, hparse, hp, hs]
      · simp only [ConnectorApp.backEndCalls, hparse, hp, hs]
      · cases hq
        rw [hs] at hs'
        cases hs'
    | some s =>
      have hrelay : c.onRecvBackEnd msg size w = c.relayToFrontEnd p s downMsg w := by
        simp only [ConnectorApp.onRecvBackEnd, hparse, hp, hs]
      have hcalls : c.backEndCalls msg size w = c.relayCalls p s downMsg w := by
        simp only [ConnectorApp.backEndCalls, hparse, hp, hs]
      have hiff := relayIgnored_iff (c := c) h hs downMsg
      constructor
      · rintro ⟨hundriven, _, hsilent⟩ q s₀ hq hs₀
        cases hq
        cases hs.symm.trans hs₀
        rw [hcalls] at hundriven
        rw [hrelay] at hsilent
        exact hiff.mp ⟨hundriven, hsilent⟩
      · intro hharm
        obtain ⟨hundriven, hsilent⟩ := hiff.mpr (hharm p s rfl hs)
        refine ⟨hcalls ▸ hundriven, fun q t t' ht ht' => ?_, hrelay ▸ hsilent⟩
        rw [hrelay] at ht'
        exact sid_of_undriven h hs hundriven ht ht'

/-! ## Runs -/

/-- In every run, bytes that are no message are ignored exactly when what is in them does no
harm. -/
theorem ignoresInvalid_run_iff (c : ConnectorApp) (parses : ParseResults) (fate : Nat → Bool)
    (frontRecv backRecv : RapBuffer) (now : Int) (es : List Event) :
    Run.Along c.step (IgnoresInvalid c parses)
        (ConnectorWorld.start fate frontRecv backRecv now) es ↔
      Run.Along c.step (HarmlessInvalid c parses)
        (ConnectorWorld.start fate frontRecv backRecv now) es := by
  refine Run.along_iff_of_inv (fun _ _ _ h hstep => (step_spec h hstep).1) ?_
    (Inv.start fate frontRecv backRecv now) es
  intro w e h
  cases e with
  | frontEndMsg p msg size => exact imp_congr_right fun _ => frontEndIgnored_iff h p msg size
  | backEndMsg msg size => exact imp_congr_right fun _ => backEndIgnored_iff h msg size
  | _ => exact Iff.rfl

/-! ## Two of them that are obeyed -/

def Wire.parseResults : ParseResults :=
  ⟨fun msg _ => parsesCSMsg msg, fun msg _ => parsesSSMsg msg⟩

/-- A client sends a frame without a payload. -/
def wordless : List Event := connected ++ [.frontEndMsg 1 [] 0]

/-- The `ACK` of a backend server without its last byte. -/
def cutAck : List UInt8 := (Wire.encodeSSMsg ackMsg).dropLast

/-- The first takes a new session to `STATE_AUTH`, the second makes the session ready. -/
theorem invalid_messages_obeyed :
    ¬ Run.Along ConnectorApp.greeting.step (IgnoresInvalid .greeting Wire.parseResults)
        (ConnectorWorld.start (fun _ => true) .small .small 0) wordless ∧
      ¬ Run.Along ConnectorApp.greeting.step (IgnoresInvalid .greeting Wire.parseResults)
        (ConnectorWorld.start (fun _ => true) .small .small 0)
        (refused ++ [.backEndMsg cutAck cutAck.length]) := by
  constructor
  · intro h
    have hstates : (Run.run ConnectorApp.greeting.step
        (ConnectorWorld.start (fun _ => true) .small .small 0) connected).map (fun w =>
          ((w.getUserContext 1).map (·.state),
            ((ConnectorApp.greeting.onRecvFrontEnd 1 [] 0 w).2.getUserContext 1).map (·.state))) =
        some (some .stateInit, some .stateAuth) := by decide +kernel
    obtain ⟨w, hw, hpair⟩ := Option.map_eq_some_iff.mp hstates
    obtain ⟨hbefore, hafter⟩ := Prod.mk.inj hpair
    have hignored := ((Run.along_append.mp h).2 w hw).1 (by decide)
    obtain ⟨s, hs, hinit⟩ := Option.map_eq_some_iff.mp hbefore
    obtain ⟨s', hs', hstate, _⟩ := hignored.session s hs
    rw [hs', Option.map_some, hstate, hinit] at hafter
    cases hafter
  · intro h
    have hcalls : (Run.run ConnectorApp.greeting.step
        (ConnectorWorld.start (fun _ => true) .small .small 0) refused).map (fun w =>
          ConnectorApp.greeting.backEndCalls cutAck cutAck.length w) =
        some [.driveStateMachine, .setSid 5] := by decide +kernel
    obtain ⟨w, hw, hdriven⟩ := Option.map_eq_some_iff.mp hcalls
    have hignored := ((Run.along_append.mp h).2 w hw).1 (by decide +kernel)
    have hundriven := hignored.undriven
    rw [hdriven] at hundriven
    exact hundriven List.mem_cons_self

end Rapidapp.Connector
