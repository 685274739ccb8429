import Rapidapp.Framework.NetStates
import Rapidapp.Connector.Callbacks
import Rapidapp.Connector.Lifetimes

/-!
# When a destroyed connection is used

For each handler: everything it uses is there exactly when the session does not destroy its own
connection on the way (`fine_…`), and if so it destroys nothing. From this the condition for a
whole run, `safelyUsed_iff`.
-/

namespace Rapidapp

namespace Heap

variable {γ : Type}

/-- `h'` has the connections of `h` with the state and descriptor they had; there may have been `k`
writes. -/
structure SameLinks (k : Nat) (h h' : Heap γ) : Prop where
  net : ∀ p, (h'.nets p).map (fun n => (n.hevent, n.state, n.nid)) =
    (h.nets p).map fun n => (n.hevent, n.state, n.nid)
  bev : ∀ b, (h'.bevs b).map (·.fd) = (h.bevs b).map (·.fd)
  fate : h'.fate = h.fate
  writes : h'.writes = h.writes + k

theorem SameLinks.trans {k k' : Nat} {h h' h'' : Heap γ} (hh : SameLinks k h h')
    (hh' : SameLinks k' h' h'') : SameLinks (k + k') h h'' where
  net p := (hh'.net p).trans (hh.net p)
  bev b := (hh'.bev b).trans (hh.bev b)
  fate := hh'.fate.trans hh.fate
  writes := by rw [hh'.writes, hh.writes, Nat.add_assoc]

theorem SameLinks.symm_zero {h h' : Heap γ} (hh : SameLinks 0 h h') : SameLinks 0 h' h where
  net p := (hh.net p).symm
  bev b := (hh.bev b).symm
  fate := hh.fate.symm
  writes := hh.writes.symm

theorem SameLinks.takes_mp {h h' : Heap γ} (hh : SameLinks 0 h h') {p : NetPtr} (ht : h.Takes p) :
    h'.Takes p := by
  obtain ⟨n, b, hn, hev, hst, hb, hf, hf'⟩ := ht
  have hnet := hh.net p
  have hbev := hh.bev b
  rw [hn, Option.map_some] at hnet
  obtain ⟨n', hn', heq⟩ := Option.map_eq_some_iff.mp hnet
  simp only [Prod.mk.injEq] at heq
  refine ⟨n', b, hn', heq.1.trans hev, heq.2.1.trans hst, ?_, ?_, ?_⟩
  · rw [← Option.isSome_map (f := (·.fd)), hbev, Option.isSome_map]
    exact hb
  · rw [hh.fate, hh.writes]
    exact hf
  · rw [hh.fate, hh.writes]
    exact hf'

theorem SameLinks.takes {h h' : Heap γ} (hh : SameLinks 0 h h') (p : NetPtr) :
    h'.Takes p ↔ h.Takes p :=
  ⟨hh.symm_zero.takes_mp, hh.takes_mp⟩

/-- `k` more writes. -/
def after (h : Heap γ) (k : Nat) : Heap γ := { h with writes := h.writes + k }

theorem SameLinks.after {h h' : Heap γ} (hh : SameLinks 0 h h') (k : Nat) :
    SameLinks 0 (h.after k) (h'.after k) :=
  ⟨hh.net, hh.bev, hh.fate, by rw [Heap.after, Heap.after, hh.writes]; rfl⟩

theorem SameLinks.of_after {k : Nat} {h h' : Heap γ} (hh : SameLinks k h h') :
    SameLinks 0 (h.after k) h' :=
  ⟨hh.net, hh.bev, hh.fate, hh.writes⟩

theorem sameLinks_setNet (h : Heap γ) {p : NetPtr} {n n' : EasyNet γ} (hn : h.nets p = some n)
    (hev : n'.hevent = n.hevent) (hst : n'.state = n.state) (hnid : n'.nid = n.nid) :
    SameLinks 0 h (h.setNet p n') where
  net q := by
    by_cases hq : q = p
    · subst hq
      simp [setNet, hn, hev, hst, hnid]
    · simp [setNet, hq]
  bev _ := rfl
  fate := rfl
  writes := rfl

/-- A `bufferevent_write` that succeeds. -/
theorem sameLinks_write {h h' : Heap γ} {b : BevPtr} {bytes : List UInt8}
    (hw : h.buffereventWrite b bytes = (true, h')) : SameLinks 1 h h' := by
  obtain ⟨_, _, hfail, _⟩ | ⟨e, h₁, -, -, hfate, hwrites, hok, hwrote⟩ :=
    buffereventWrite_cases h b bytes
  · rw [hw] at hfail
    cases hfail
  rw [hw] at hok
  obtain rfl := (Prod.mk.inj hok).2
  refine ⟨fun p => by rw [hwrote.nets], fun c => ?_, hfate, hwrites⟩
  rw [hwrote.bevs, Option.map_map]
  rfl

/-- A `Send` that succeeds makes two writes. -/
theorem sameLinks_send {h h' : Heap γ} {p : NetPtr} {msg : List UInt8} (hmsg : msg ≠ [])
    (hok : h.send p msg = (.easyNetOk, h')) : SameLinks 2 h h' := by
  obtain ⟨hnil, _⟩ | ⟨r, hr, hs⟩ | ⟨n, b, _, _, _, _, hs⟩ := send_cases h p msg
  · exact absurd hnil hmsg
  · rw [hok] at hs
    cases hs
    exact absurd rfl hr
  rw [hok, writeFrame] at hs
  rcases hw : h.buffereventWrite b (lengthHeader msg.length) with ⟨ok, h₁⟩
  rw [hw] at hs
  cases ok with
  | false => cases hs
  | true =>
    dsimp only at hs
    rcases hw' : h₁.buffereventWrite b msg with ⟨ok', h₂⟩
    rw [hw'] at hs
    cases ok' with
    | false => cases hs
    | true =>
      cases hs
      exact (sameLinks_write hw).trans (sameLinks_write hw')

end Heap

/-- The ids of a connection do not depend on what was written. -/
theorem World.getNetIds_of_sameLinks {σ γ : Type} {k : Nat} {w w' : World σ γ}
    (hl : w.heap.SameLinks k w'.heap) (p : NetPtr) : w'.getNetIds p = w.getNetIds p := by
  have hnet := hl.net p
  unfold getNetIds
  cases hn : w.heap.nets p with
  | none =>
    rw [hn, Option.map_none, Option.map_eq_none_iff] at hnet
    rw [hnet]
  | some n =>
    rw [hn, Option.map_some] at hnet
    obtain ⟨n', hn', heq⟩ := Option.map_eq_some_iff.mp hnet
    simp only [Prod.mk.injEq] at heq
    obtain ⟨hev, _, hnid⟩ := heq
    rw [hn']
    dsimp only
    rw [hev, hnid]
    cases n.hevent with
    | none => rfl
    | some b =>
      have hfd : w'.heap.getfd b = w.heap.getfd b := by
        have hbev := hl.bev b
        unfold Heap.getfd
        cases hb : w.heap.bevs b <;> cases hb' : w'.heap.bevs b <;> simp_all
      dsimp only
      rw [hfd]

end Rapidapp

namespace Rapidapp.Connector

open World ConnectorSession

variable (pb : Protobuf) {p : NetPtr}

/-- Two sessions are alike in what they send. -/
structure ConnectorSession.Alike (s s' : ConnectorSession) : Prop where
  state : s'.state = s.state
  netStub : s'.netStub = s.netStub
  sid : s'.sid = s.sid
  frameStub : s'.frameStub = s.frameStub

/-- Whether a session can go on depends on the connections and on how many writes there were. -/
theorem canGoOn_of_sameLinks {k : Nat} {w w' : ConnectorWorld} {s s' : ConnectorSession}
    (hl : w.heap.SameLinks k w'.heap) (happ : w'.app = w.app) (hs : s.Alike s') :
    s'.CanGoOn pb p w' ↔ s.CanGoOn pb p { w with heap := w.heap.after k } := by
  have haccepts : ∀ q buf, w'.Accepts q buf ↔
      ({ w with heap := w.heap.after k } : ConnectorWorld).Accepts q buf :=
    fun q _ => and_congr_right fun _ => hl.of_after.takes q
  have hids : ∀ q, w'.getNetIds q =
      ({ w with heap := w.heap.after k } : ConnectorWorld).getNetIds q :=
    getNetIds_of_sameLinks (w := { w with heap := w.heap.after k }) hl.of_after
  have hmsg : s'.startMsg w' = s.startMsg { w with heap := w.heap.after k } := by
    unfold ConnectorSession.startMsg ConnectorSession.tuple
    rw [hs.netStub, hs.sid]
    cases s.netStub <;> simp only [hids]
  unfold ConnectorSession.CanGoOn
  rw [hs.state, hs.frameStub, hmsg, happ]
  cases s.state <;> simp only [haccepts]

/-- A session that is driven by its client can do all that follows at once: a session in
`STATE_AUTH` answers the client and starts the backend after that. -/
def ConnectorSession.Proceeds (p : NetPtr) (w : ConnectorWorld) (s : ConnectorSession) : Prop :=
  s.CanGoOn pb p w ∧ (s.state = .stateAuth →
    { s with state := .stateSyning }.CanGoOn pb p { w with heap := w.heap.after 2 })

theorem proceeds_of_sameLinks {w w' : ConnectorWorld} {s s' : ConnectorSession}
    (hl : w.heap.SameLinks 0 w'.heap) (happ : w'.app = w.app) (hs : s.Alike s') :
    s'.Proceeds pb p w' ↔ s.Proceeds pb p w := by
  have hfirst := canGoOn_of_sameLinks pb (p := p) hl happ hs
  have hl₂ : ({ w with heap := w.heap.after 2 } : ConnectorWorld).heap.SameLinks 0
      ({ w' with heap := w'.heap.after 2 } : ConnectorWorld).heap := hl.after 2
  have hs₂ : ConnectorSession.Alike { s with state := .stateSyning }
      { s' with state := .stateSyning } := ⟨rfl, hs.netStub, hs.sid, hs.frameStub⟩
  have hsecond := canGoOn_of_sameLinks pb (p := p) hl₂ happ hs₂
  unfold ConnectorSession.Proceeds
  rw [hfirst, hsecond, hs.state]
  rfl

/-! ## The record -/

namespace Watch

/-- Everything that was used was there. -/
def Fine (m : Watch) : Prop := ∀ u ∈ m.uses, u.live = true

/-- The connections that were deleted. -/
def deletes (uses : List Use) : List NetPtr :=
  (uses.filter fun u => u.part = .delete).map (·.net)

theorem deletes_append (us us' : List Use) : deletes (us ++ us') = deletes us ++ deletes us' := by
  simp [deletes]

variable {m : Watch}

@[simp] theorem fine_use {part : Part} :
    (m.use part p).Fine ↔ m.Fine ∧ isLive part p m.world = true := by
  simp [Fine, use, or_imp, forall_and]

@[simp] theorem fine_goTo {w : ConnectorWorld} : (m.goTo w).Fine ↔ m.Fine := Iff.rfl

@[simp] theorem uses_goTo (w : ConnectorWorld) : (m.goTo w).uses = m.uses := rfl

@[simp] theorem deletes_use_net (p : NetPtr) (m : Watch) :
    deletes (m.use .net p).uses = deletes m.uses := by
  simp [use, deletes]

@[simp] theorem deletes_use_session (p : NetPtr) (m : Watch) :
    deletes (m.use .session p).uses = deletes m.uses := by
  simp [use, deletes]

@[simp] theorem deletes_getNetIds (net : Option NetPtr) (m : Watch) :
    deletes (m.getNetIds net).uses = deletes m.uses := by
  cases net with
  | none => rfl
  | some p => exact deletes_use_net p m

theorem deletes_destroyFrontEnd (p : NetPtr) (m : Watch) :
    deletes (m.destroyFrontEnd p).uses = deletes m.uses ++ [p] := by
  simp [destroyFrontEnd, use, deletes]

/-- What a piece of code from `m` to `m'` uses is there exactly in this case, and then it deletes
nothing. -/
structure FineIf (cond : Prop) (m m' : Watch) : Prop where
  fine : m'.Fine ↔ m.Fine ∧ cond
  deletes : cond → deletes m'.uses = Watch.deletes m.uses

theorem FineIf.refl (m : Watch) : FineIf True m m := ⟨by simp, fun _ => rfl⟩

theorem FineIf.trans {cond : Prop} {m m' m'' : Watch} (h : FineIf True m m')
    (h' : FineIf cond m' m'') : FineIf cond m m'' where
  fine := by rw [h'.fine, h.fine, and_true]
  deletes hc := (h'.deletes hc).trans (h.deletes trivial)

theorem FineIf.andThen {cond : Prop} {m m' m'' : Watch} (h : FineIf cond m m')
    (h' : FineIf True m' m'') : FineIf cond m m'' where
  fine := by rw [h'.fine, h.fine, and_true]
  deletes hc := (h'.deletes trivial).trans (h.deletes hc)

theorem FineIf.of_true {cond : Prop} {m m' : Watch} (h : FineIf True m m') (hc : cond) :
    FineIf cond m m' where
  fine := by rw [h.fine, iff_true_intro hc]
  deletes _ := h.deletes trivial

/-- The state is not part of the record. -/
theorem FineIf.goTo {cond : Prop} {m m' : Watch} (h : FineIf cond m m') (w : ConnectorWorld) :
    FineIf cond m (m'.goTo w) :=
  ⟨h.fine, h.deletes⟩

theorem FineIf.of_goTo {cond : Prop} {m m' : Watch} {w : ConnectorWorld}
    (h : FineIf cond (m.goTo w) m') : FineIf cond m m' :=
  ⟨h.fine, h.deletes⟩

theorem FineIf.congr {cond cond' : Prop} {m m' : Watch} (h : FineIf cond m m')
    (hc : cond ↔ cond') : FineIf cond' m m' :=
  propext hc ▸ h

theorem fineIf_useIf {cond : Prop} [Decidable cond] (hp : isLive .session p m.world = true) :
    FineIf True m (m.useIf cond .session p) := by
  unfold useIf
  split_ifs
  · exact ⟨by simp [hp], fun _ => deletes_use_session p m⟩
  · exact .refl m

theorem fineIf_net (hp : isLive .net p m.world = true) : FineIf True m (m.use .net p) :=
  ⟨by simp [hp], fun _ => deletes_use_net p m⟩

theorem fineIf_session (hp : isLive .session p m.world = true) :
    FineIf True m (m.use .session p) :=
  ⟨by simp [hp], fun _ => deletes_use_session p m⟩

theorem isLive_of_some {s : ConnectorSession} {w : ConnectorWorld}
    (hs : w.getUserContext p = some s) (part : Part) : isLive part p w = true := by
  obtain ⟨n, hn, _⟩ := exists_of_getUserContext hs
  cases part <;> simp [isLive, hn, hs]

/-! ## The session -/

variable {s : ConnectorSession}

theorem world_of_erase {r : Int × Watch} {ret : Int} {w : ConnectorWorld}
    (h : erase r = (ret, w)) : r.1 = ret ∧ r.2.world = w :=
  Prod.mk.inj h

theorem fineIf_sendToFrontEnd (hp : isLive .net p m.world = true) (buf : List UInt8) :
    FineIf True m (m.sendToFrontEnd (some p) buf).2 := by
  unfold sendToFrontEnd useIf
  dsimp only
  split_ifs
  · exact (fineIf_net hp).goTo _
  · exact (FineIf.refl m).goTo _

/-- A session that cannot send destroys its own connection, and sets a pointer in what is left of
itself. -/
theorem fineIf_serializeAndSendToFrontEnd (h : Inv m.world)
    (hs : m.world.getUserContext p = some s) (msg : CSMsg) :
    FineIf (m.world.Accepts p (pb.serializeCSMsg msg)) m
      (m.serializeAndSendToFrontEnd pb p s msg).2 := by
  obtain ⟨hstub, _⟩ := h.session hs
  have hsend : FineIf True m
      ((m.use .session p).sendToFrontEnd (some p) (pb.serializeCSMsg msg)).2 :=
    (fineIf_session (isLive_of_some hs .session)).trans (fineIf_sendToFrontEnd
      (m := m.use .session p) (isLive_of_some hs .net) _)
  have herase := erase_sendToFrontEnd (some p) (pb.serializeCSMsg msg) (m.use .session p)
  have hzero := sendToFrontEnd_eq_zero m.world p (pb.serializeCSMsg msg)
  have hinv := (Effect.sendToFrontEnd h p (pb.serializeCSMsg msg)).inv h
  rw [world_use] at herase
  rw [← herase] at hzero hinv
  unfold serializeAndSendToFrontEnd
  rw [hstub]
  generalize (m.use .session p).sendToFrontEnd (some p) (pb.serializeCSMsg msg) = r at *
  rcases r with ⟨ret, m₁⟩
  dsimp only [erase] at *
  rw [← hzero]
  by_cases hret : ret = 0
  · simpa only [hret, ne_eq, not_true, if_false] using hsend
  · have hgone := getUserContext_destroyFrontEnd hinv p
    simp only [hret, ne_eq, not_false_eq_true, if_true]
    refine ⟨?_, fun hfalse => hfalse.elim⟩
    simp [destroyNetStub, hstub, isLive, hgone]

theorem fineIf_answerFrontEnd (h : Inv m.world) (hs : m.world.getUserContext p = some s)
    (msg : CSMsg) (state : SessionState) :
    FineIf (m.world.Accepts p (pb.serializeCSMsg msg)) m
      (m.answerFrontEnd pb p s msg state).2 := by
  have hsend := fineIf_serializeAndSendToFrontEnd pb h hs msg
  have herase := erase_serializeAndSendToFrontEnd pb p s msg m
  obtain ⟨ret₀, w₀, hrun, _, hor⟩ := serializeAndSendToFrontEnd_spec pb h hs msg
  rw [hrun] at herase
  unfold answerFrontEnd
  generalize m.serializeAndSendToFrontEnd pb p s msg = r at *
  obtain ⟨rfl, rfl⟩ := world_of_erase herase
  rcases r with ⟨ret, m₁⟩
  dsimp only at *
  by_cases hret : ret = 0
  · have hs₁ : m₁.world.getUserContext p = some s := by
      obtain ⟨_, hs₁⟩ | ⟨hneg, _⟩ := hor
      · exact hs₁
      · rw [hret] at hneg
        cases hneg
    simp only [hret, ne_eq, not_true, if_false]
    exact (hsend.andThen (fineIf_session (isLive_of_some hs₁ .session))).goTo _
  · simpa only [hret, ne_eq, not_false_eq_true, if_true] using hsend

theorem fineIf_getNetIds (h : Inv m.world) (hs : m.world.getUserContext p = some s) :
    FineIf True m (m.getNetIds s.netStub) := by
  rw [(h.session hs).1]
  exact fineIf_net (isLive_of_some hs .net)

/-- `StartToBackEnd` leaves the frontend alone. -/
theorem fineIf_startToBackEnd (h : Inv m.world) (hs : m.world.getUserContext p = some s)
    (backNet : Option NetPtr) : FineIf True m (m.startToBackEnd pb p s backNet).2 := by
  have hsession : FineIf True m (m.use .session p) := fineIf_session (isLive_of_some hs .session)
  unfold startToBackEnd
  split_ifs
  · exact hsession
  cases backNet with
  | none => exact hsession
  | some q =>
    have hids : FineIf True m (((m.use .session p).use .session p).getNetIds s.netStub) :=
      (hsession.trans (fineIf_session (m := m.use .session p) (isLive_of_some hs .session))).trans
        (fineIf_getNetIds (m := (m.use .session p).use .session p) h hs)
    have hctx := getUserContext_sendToBackEnd m.world (some q)
      (pb.serializeSSMsg (s.startMsg m.world)) p
    simp only [world_getNetIds, world_use]
    generalize m.world.sendToBackEnd (some q) (pb.serializeSSMsg (s.startMsg m.world)) = r at *
    rcases r with ⟨ret, w⟩
    dsimp only at *
    have hs' : w.getUserContext p = some s := hctx.trans hs
    split_ifs
    · -- the log line
      have hstub := (h.session hs).1
      refine ((hids.goTo w).trans (fineIf_session (isLive_of_some hs' .session))).trans ?_
      rw [hstub]
      exact fineIf_net (isLive_of_some hs' .net)
    · exact hids.goTo w

theorem fineIf_handShakeStartSession (h : Inv m.world)
    (hs : m.world.getUserContext p = some s) :
    FineIf True m (m.handShakeStartSession pb p s).2 := by
  have hnext := (Effect.next h p).inv h
  have hmem : ∀ q, m.world.app.next.1 = some q →
      q ∈ ({ m.world with app := m.world.app.next.2 } : ConnectorWorld).app.backends :=
    fun q hq => List.mem_of_getElem? hq
  have hstart := (fineIf_startToBackEnd pb (m := m.goTo { m.world with app := m.world.app.next.2 })
    hnext hs m.world.app.next.1).of_goTo
  have herase := erase_startToBackEnd pb p s m.world.app.next.1
    (m.goTo { m.world with app := m.world.app.next.2 })
  obtain ⟨ret₀, w₀, hrun, _, hctx, _⟩ := startToBackEnd_spec pb hnext hs hmem
  rw [world_goTo, hrun] at herase
  simp only [handShakeStartSession]
  generalize (m.goTo { m.world with app := m.world.app.next.2 }).startToBackEnd pb p s
    m.world.app.next.1 = r at *
  obtain ⟨rfl, rfl⟩ := world_of_erase herase
  rcases r with ⟨ret, m₁⟩
  dsimp only at *
  by_cases hret : ret = 0
  · simp only [hret, ne_eq, not_true, if_false]
    exact (hstart.trans (fineIf_session (isLive_of_some hctx .session))).goTo _
  · simpa only [hret, ne_eq, not_false_eq_true, if_true] using hstart

/-- `DriveStateMachine` does not destroy the connection exactly when the session can go on, or only
a backend is concerned. -/
theorem fineIf_driveStateMachine (h : Inv m.world) (hs : m.world.getUserContext p = some s) :
    FineIf (s.state = .stateSyning ∨ s.CanGoOn pb p m.world) m (m.driveStateMachine pb p).2 := by
  have hsession : FineIf True m (m.use .session p) := fineIf_session (isLive_of_some hs .session)
  have hanswer : ∀ msg state, FineIf (m.world.Accepts p (pb.serializeCSMsg msg)) m
      ((m.use .session p).answerFrontEnd pb p s msg state).2 := fun msg state =>
    hsession.trans (fineIf_answerFrontEnd pb (m := m.use .session p) h hs msg state)
  unfold driveStateMachine ConnectorSession.CanGoOn
  simp only [world_use, hs]
  cases hst : s.state with
  | stateInit => exact (hanswer _ _).congr (by simp)
  | stateAuth => exact (hanswer _ _).congr (by simp)
  | stateSyning =>
    exact (hsession.trans (fineIf_handShakeStartSession pb (m := m.use .session p) h hs)).of_true
      (.inl rfl)
  | stateSynack => exact (hanswer _ _).congr (by simp)
  | stateOk =>
    obtain ⟨hstub, _⟩ := h.session hs
    have hgone := getUserContext_destroyFrontEnd h p
    refine ⟨?_, by simp⟩
    simp [handShakeOnStopNotify, getNetIds, destroyNetStub, hstub, isLive, hgone]

/-- Forwarding a message to a backend leaves the connection to the frame loop. -/
theorem fineIf_forwardUpSideMessage (h : Inv m.world) (hs : m.world.getUserContext p = some s)
    (sequence : UInt64) (data : List UInt8) :
    FineIf True m ((m.forwardUpSideMessage pb p s sequence data).2.use .net p) := by
  have hsession : ∀ m', m'.world = m.world → FineIf True m' (m'.use .session p) :=
    fun m' hw => fineIf_session (hw ▸ isLive_of_some hs .session)
  have hids := fineIf_getNetIds (m := m.use .session p) h hs
  have hforward : FineIf True m (m.forwardUpSideMessage pb p s sequence data).2 :=
    (((hsession m rfl).trans hids).trans
      (hsession _ (by rw [world_getNetIds, world_use]))).goTo _
  have herase := congrArg Prod.snd (erase_forwardUpSideMessage pb p s sequence data m)
  have hctx := (sendDataToBackEnd_spec h p
    (pb.serializeSSMsg (s.upSideMsg m.world sequence data))).2
  refine hforward.trans (fineIf_net ?_)
  dsimp only [erase] at herase
  rw [herase]
  exact isLive_of_some (hctx.trans hs) .net

theorem fineIf_forwardDownSideMessage (h : Inv m.world)
    (hs : m.world.getUserContext p = some s) (sequence : UInt64) (data : List UInt8) :
    FineIf True m (m.forwardDownSideMessage pb p s sequence data).2 := by
  unfold forwardDownSideMessage
  split_ifs
  · exact .refl m
  have hsend := (fineIf_session (isLive_of_some hs .session)).trans (fineIf_sendToFrontEnd
    (m := m.use .session p) (isLive_of_some hs .net)
      (pb.serializeCSMsg (downSideMsg sequence data)))
  rw [(h.session hs).1]
  generalize (m.use .session p).sendToFrontEnd (some p)
    (pb.serializeCSMsg (downSideMsg sequence data)) = r at *
  rcases r with ⟨ret, m₁⟩
  dsimp only
  split_ifs <;> exact hsend

/-! ## The callbacks -/

theorem sameLinks_setUserContext (w : ConnectorWorld) (p : NetPtr) (s : ConnectorSession) :
    w.heap.SameLinks 0 (w.setUserContext p s).heap ∧ (w.setUserContext p s).app = w.app := by
  have hrefl : w.heap.SameLinks 0 w.heap := ⟨fun _ => rfl, fun _ => rfl, rfl, rfl⟩
  unfold World.setUserContext
  cases hn : w.heap.nets p with
  | none => exact ⟨hrefl, rfl⟩
  | some n =>
    dsimp only
    cases n.userContext with
    | none => exact ⟨hrefl, rfl⟩
    | some _ => exact ⟨Heap.sameLinks_setNet _ hn rfl rfl rfl, rfl⟩

/-- A message of the handshake that was sent took two writes. -/
theorem sameLinks_answerFrontEnd {w w' : ConnectorWorld} (hstub : s.netStub = some p)
    {msg : CSMsg} {state : SessionState}
    (hok : Connector.answerFrontEnd pb p s msg state w = (0, w')) :
    w.heap.SameLinks 2 w'.heap ∧ w'.app = w.app := by
  unfold Connector.answerFrontEnd Connector.serializeAndSendToFrontEnd World.sendToFrontEnd at hok
  rw [hstub] at hok
  by_cases hbuf : pb.serializeCSMsg msg = []
  · simp [hbuf] at hok
  rcases hr : w.heap.send p (pb.serializeCSMsg msg) with ⟨r, h'⟩
  cases r with
  | easyNetOk =>
    have hsend := Heap.sameLinks_send hbuf hr
    simp only [hbuf, if_false, hr, ne_eq, not_true, Prod.mk.injEq, true_and] at hok
    subst hok
    unfold setState
    split
    · exact ⟨hsend, rfl⟩
    · obtain ⟨hset, happ⟩ := sameLinks_setUserContext { w with heap := h' } p _
      exact ⟨hsend.trans hset, happ⟩
  | easyNetErrNotYetEstablished => simp [hbuf, hr] at hok
  | easyNetErrEstablishFailed => simp [hbuf, hr] at hok
  | easyNetErrSendError => simp [hbuf, hr] at hok

variable (c : ConnectorApp)

theorem not_fine_of_gone {m' : Watch} {cond : Prop} (hgone : m'.world.heap.nets p = none)
    (hcond : ¬ cond) : FineIf cond m (m'.use .net p) :=
  ⟨by simp [isLive, hgone, hcond], fun h => absurd h hcond⟩

/-- `OnRecvFrontEnd` and the frame loop that called it use only what is there exactly when the
handshake goes on. -/
theorem fineIf_handshakeFrontEnd (h : Inv m.world) (hs : m.world.getUserContext p = some s)
    (hne : s.state ≠ .stateOk) :
    FineIf (s.Proceeds c.pb p m.world) m ((m.handshakeFrontEnd c p).2.use .net p) := by
  obtain ⟨hstub, hfront⟩ := h.session hs
  have hdrive := fineIf_driveStateMachine c.pb h hs
  have hzero := driveStateMachine_eq_zero c.pb hs hstub hne
  have herase := erase_driveStateMachine c.pb p m
  have hneg : (-1 : Int) < 0 := by decide
  obtain ⟨ret₀, w₀, hrun, he, hcases⟩ := driveStateMachine_spec c.pb h hs
  rw [hrun] at herase hzero
  unfold handshakeFrontEnd
  generalize m.driveStateMachine c.pb p = r at *
  obtain ⟨rfl, rfl⟩ := world_of_erase herase
  rcases r with ⟨ret, m₁⟩
  dsimp only at *
  obtain ⟨rfl, _, hctx⟩ | ⟨rfl, _⟩ | ⟨_, hok, _⟩ := hcases
  · have hgo := hzero.mp rfl
    have hfine : FineIf True m (m₁.use .session p) :=
      (hdrive.congr (iff_true_intro (.inr hgo))).trans
        (fineIf_session (isLive_of_some hctx .session))
    simp only [lt_irrefl, if_false, world_use, sessionState_of_some hctx]
    by_cases hauth : s.state = .stateAuth
    · -- the client message was the one of `STATE_AUTH`; the backend is started at once
      have hanswer : Connector.answerFrontEnd c.pb p s authMsg .stateSyning m.world =
          (0, m₁.world) := by
        simpa [Connector.driveStateMachine, hs, hauth, handleAuthRequest] using hrun
      obtain ⟨hlinks, happ⟩ := sameLinks_answerFrontEnd c.pb hstub hanswer
      have hinv₁ := he.inv h
      simp only [hauth, SessionState.next] at hctx ⊢
      have hsame : ConnectorSession.Alike { s with state := .stateSyning }
          { s with state := .stateSyning } := ⟨rfl, rfl, rfl, rfl⟩
      have hcond := canGoOn_of_sameLinks c.pb (p := p) hlinks happ hsame
      have hagain := fineIf_driveStateMachine c.pb (m := m₁.use .session p) hinv₁ hctx
      have hzero' := driveStateMachine_eq_zero c.pb hctx hstub (by simp)
      have herase' := erase_driveStateMachine c.pb p (m₁.use .session p)
      obtain ⟨ret', w₂, hrun', he', hcases'⟩ := driveStateMachine_spec c.pb hinv₁ hctx
      rw [world_use, hrun'] at herase'
      rw [hrun', hcond] at hzero'
      generalize (m₁.use .session p).driveStateMachine c.pb p = r at *
      obtain ⟨rfl, rfl⟩ := world_of_erase herase'
      rcases r with ⟨ret', m₂⟩
      dsimp only at *
      simp only [if_true]
      obtain ⟨rfl, _, hctx'⟩ | ⟨rfl, _⟩ | ⟨_, hok, _⟩ := hcases'
      · simp only [lt_irrefl, if_false]
        exact ((hfine.trans (hagain.congr (iff_true_intro (.inl rfl)))).trans
          (fineIf_net (isLive_of_some hctx' .net))).of_true ⟨hgo, fun _ => hzero'.mp rfl⟩
      · simp only [hneg, if_true]
        refine not_fine_of_gone (Effect.nets_destroyFrontEnd h (he.trans h he') hfront) ?_
        exact fun hcond => absurd (hzero'.mpr (hcond.2 hauth)) (by decide)
      · cases hok
    · have hnext : s.state.next ≠ .stateSyning := by
        cases hst : s.state <;> simp_all [SessionState.next]
      simp only [hnext, if_false]
      exact (hfine.trans (fineIf_net (isLive_of_some hctx .net))).of_true
        ⟨hgo, fun hst => absurd hst hauth⟩
  · simp only [hneg, if_true]
    exact not_fine_of_gone (Effect.nets_destroyFrontEnd h he hfront)
      fun hcond => absurd (hzero.mpr hcond.1) (by decide)
  · exact absurd hok hne

theorem alike_checkUpSideMessage (s : ConnectorSession) (upMsg : CSMsg) :
    s.Alike (s.checkUpSideMessage upMsg).2 := by
  unfold ConnectorSession.checkUpSideMessage
  split_ifs <;> exact ⟨rfl, rfl, rfl, rfl⟩

/-- A message of a client: the connection is there, and a session that it drives proceeds. -/
theorem fineIf_onRecvFrontEnd (h : Inv m.world) (p : NetPtr) (msg : List UInt8) (size : Nat) :
    FineIf ((m.world.heap.nets p).isSome = true ∧ ∀ s, m.world.getUserContext p = some s →
        (s.checkUpSideMessage (c.pb.parseCSMsg msg size)).1 = 0 → s.state ≠ .stateOk →
        s.Proceeds c.pb p m.world)
      m ((m.onRecvFrontEnd c p msg size).2.use .net p) := by
  unfold onRecvFrontEnd
  cases hn : m.world.heap.nets p with
  | none =>
    have hctx : m.world.getUserContext p = none := by rw [World.getUserContext, hn]; rfl
    simp only [world_use, hctx]
    exact not_fine_of_gone hn (by simp)
  | some n =>
    have hlive : isLive .net p m.world = true := by simp [isLive, hn]
    have hnet : FineIf True m (m.use .net p) := fineIf_net hlive
    simp only [world_use, Option.isSome_some, true_and]
    cases hs : m.world.getUserContext p with
    | none => exact (hnet.trans (fineIf_net (m := m.use .net p) hlive)).of_true (by simp)
    | some s =>
      have hsession : FineIf True m ((m.use .net p).use .session p) :=
        hnet.trans (fineIf_session (m := m.use .net p) (isLive_of_some hs .session))
      have halike := alike_checkUpSideMessage s (c.pb.parseCSMsg msg size)
      dsimp only
      simp only [Option.some.injEq, forall_eq']
      generalize s.checkUpSideMessage (c.pb.parseCSMsg msg size) = r at *
      rcases r with ⟨ret, s₁⟩
      dsimp only at *
      by_cases hret : ret = 0
      · obtain ⟨he, hs₁⟩ := Effect.setUserContext h s₁ hs halike.netStub
        obtain ⟨hlinks, happ⟩ := sameLinks_setUserContext m.world p s₁
        have hinv₁ := he.inv h
        have hready : s₁.beenReady = true ↔ s.state = .stateOk := by
          simp [ConnectorSession.beenReady, halike.state]
        simp only [hret, ne_eq, not_true, if_false, forall_const, hready]
        have hset : FineIf True m ((((m.use .net p).use .session p).goTo
            (m.world.setUserContext p s₁)).use .session p) :=
          (hsession.goTo _).trans (fineIf_session
            (m := ((m.use .net p).use .session p).goTo (m.world.setUserContext p s₁))
            (isLive_of_some hs₁ .session))
        by_cases hok : s.state = .stateOk
        · simp only [hok, not_true, if_false, false_imp_iff]
          split_ifs
          · exact hset.trans (fineIf_forwardUpSideMessage c.pb
              (m := (((m.use .net p).use .session p).goTo (m.world.setUserContext p s₁)).use
                .session p) hinv₁ hs₁ _ _)
          · exact hset.trans (fineIf_net (m := (((m.use .net p).use .session p).goTo
              (m.world.setUserContext p s₁)).use .session p) (isLive_of_some hs₁ .net))
        · simp only [hok, not_false_eq_true, if_true, forall_const]
          have hne : s₁.state ≠ .stateOk := by rw [halike.state]; exact hok
          exact (hset.trans (fineIf_handshakeFrontEnd c
            (m := (((m.use .net p).use .session p).goTo (m.world.setUserContext p s₁)).use
              .session p) hinv₁ hs₁ hne)).congr
            (proceeds_of_sameLinks c.pb hlinks happ halike)
      · simp only [hret, ne_eq, not_false_eq_true, if_true, false_imp_iff]
        exact (hsession.trans (fineIf_net (m := (m.use .net p).use .session p) hlive)).of_true
          trivial

/-- As `FineIf`, but the connection `p` may be destroyed at the end. -/
structure FineOnce (cond : Prop) (p : NetPtr) (m m' : Watch) : Prop where
  fine : m'.Fine ↔ m.Fine ∧ cond
  deletes : cond → Watch.deletes m'.uses = Watch.deletes m.uses ∨
    Watch.deletes m'.uses = Watch.deletes m.uses ++ [p] ∧ m'.world.heap.nets p = none

theorem FineIf.once {cond : Prop} {m m' : Watch} (h : FineIf cond m m') (p : NetPtr) :
    FineOnce cond p m m' :=
  ⟨h.fine, fun hc => .inl (h.deletes hc)⟩

/-- The callback destroys the connection through a variable of its own, once. -/
theorem FineIf.destroyFrontEnd {m m' : Watch} (h : FineIf True m m')
    (hlive : isLive .net p m'.world = true)
    (hgone : (m'.world.destroyFrontEnd (some p)).heap.nets p = none) :
    FineOnce True p m (m'.destroyFrontEnd p) := by
  have hdelete : isLive .delete p m'.world = true := hlive
  refine ⟨by simp [Watch.destroyFrontEnd, hlive, hdelete, h.fine], fun _ => .inr ⟨?_, hgone⟩⟩
  rw [deletes_destroyFrontEnd, h.deletes trivial]

theorem FineOnce.of_true {cond : Prop} {m m' : Watch} (h : FineOnce True p m m') (hc : cond) :
    FineOnce cond p m m' where
  fine := by rw [h.fine, iff_true_intro hc]
  deletes _ := h.deletes trivial

/-- What comes after a use of something that is gone does not matter. -/
theorem FineOnce.of_false {cond : Prop} {m m' m'' : Watch} (h : FineIf False m m')
    (hlater : m''.Fine → m'.Fine) (hc : ¬ cond) : FineOnce cond p m m'' where
  fine := iff_of_false (fun hf => (h.fine.mp (hlater hf)).2) fun hf => hc hf.2
  deletes hc' := absurd hc' hc

/-- A message of a backend that drives the state machine: the session can go on, or it is only
the backend that it cannot be started on. -/
theorem fineOnce_relayToFrontEnd (h : Inv m.world) (hs : m.world.getUserContext p = some s)
    (downMsg : SSMsg) :
    FineOnce (downMsg.head.bodyid ≠ SSBodyCmdId.data.value →
        (downMsg.head.bodyid = SSBodyCmdId.fin.value ∨ s.state ≠ .stateOk) →
        s.state = .stateSyning ∨ s.CanGoOn c.pb p m.world)
      p m (m.relayToFrontEnd c p s downMsg).2 := by
  obtain ⟨hstub, hfront⟩ := h.session hs
  have hneg : (-1 : Int) < 0 := by decide
  have hlive : ∀ m' : Watch, m'.world = m.world → isLive .net p m'.world = true :=
    fun m' hw => hw ▸ isLive_of_some hs .net
  unfold relayToFrontEnd
  by_cases hdata : downMsg.head.bodyid = SSBodyCmdId.data.value
  · have hlook : FineIf True m (m.useIf (c.debug = false) .session p) :=
      fineIf_useIf (isLive_of_some hs .session)
    have hdestroy := (hlook.destroyFrontEnd (hlive _ (world_useIf ..)) (by
      rw [world_useIf]; exact nets_destroyFrontEnd h.ok hfront))
    simp only [hdata, ne_eq, not_true, if_false, false_imp_iff]
    split_ifs
    · exact hdestroy
    · exact hdestroy
    · have hforward := fineIf_forwardDownSideMessage c.pb
        (m := m.useIf (c.debug = false) .session p) (by rw [world_useIf]; exact h)
        (by rw [world_useIf]; exact hs) downMsg.head.sequence.toUInt64 (downMsg.body.data.getD [])
      exact (hlook.trans hforward).once p
  simp only [hdata, ne_eq, not_false_eq_true, if_true, forall_const]
  set m₀ := m.useIf (¬ downMsg.head.bodyid = SSBodyCmdId.fin.value) .session p with hm₀
  have hlook : FineIf True m m₀ := fineIf_useIf (isLive_of_some hs .session)
  have hw₀ : m₀.world = m.world := world_useIf ..
  by_cases hready : ¬ downMsg.head.bodyid = SSBodyCmdId.fin.value ∧ s.state = .stateOk
  · rw [if_pos hready]
    exact (hlook.once p).of_true fun hor => absurd hready.2 (hor.resolve_left hready.1)
  rw [if_neg hready]
  have hdriven : downMsg.head.bodyid = SSBodyCmdId.fin.value ∨ ¬ s.state = .stateOk := by
    by_cases hfin : downMsg.head.bodyid = SSBodyCmdId.fin.value
    · exact .inl hfin
    · exact .inr fun hok => hready ⟨hfin, hok⟩
  have hdrive := hlook.trans (fineIf_driveStateMachine c.pb (m := m₀) (hw₀ ▸ h) (hw₀ ▸ hs))
  have herase := erase_driveStateMachine c.pb p m₀
  obtain ⟨ret₀, w₀, hrun, he, hcases⟩ := driveStateMachine_spec c.pb h hs
  have hzero := driveStateMachine_eq_zero c.pb hs hstub
  rw [hw₀, hrun] at herase
  rw [hw₀] at hdrive
  rw [hrun] at hzero
  generalize m₀.driveStateMachine c.pb p = r at *
  obtain ⟨rfl, rfl⟩ := world_of_erase herase
  rcases r with ⟨ret, m₁⟩
  dsimp only at *
  obtain ⟨rfl, hne, hctx⟩ | ⟨rfl, hne⟩ | ⟨rfl, hok, hctx⟩ := hcases
  · have hgo := (hzero hne).mp rfl
    simp only [lt_irrefl, if_false]
    exact ((((hdrive.congr (iff_true_intro (.inr hgo))).trans
      (fineIf_session (isLive_of_some hctx .session))).goTo _).once p).of_true fun _ => .inr hgo
  · have hstuck : ¬ s.CanGoOn c.pb p m.world :=
      fun hgo => absurd ((hzero hne).mpr hgo) (by decide)
    simp only [hneg, if_true]
    by_cases hsyn : s.state = .stateSyning
    · -- `StartToBackEnd` has left the connection alone
      have hctx : m₁.world.getUserContext p = some s := by
        obtain ⟨ret', w', hstart, _, ⟨_, _⟩ | ⟨_, hctx⟩⟩ := handShakeStartSession_spec c.pb h hs
        all_goals
          have hsame : Connector.driveStateMachine c.pb p m.world = (ret', w') := by
            simp only [Connector.driveStateMachine, hs, hsyn, hstart]
          rw [hrun] at hsame
          obtain ⟨rfl, rfl⟩ := Prod.mk.inj hsame
        · simp_all
        · exact hctx
      exact ((hdrive.congr (iff_true_intro (.inl hsyn))).destroyFrontEnd
        (isLive_of_some hctx .net) (Effect.nets_destroyFrontEnd h he hfront)).of_true
        fun _ => .inl hsyn
    · refine .of_false (hdrive.congr (iff_false_intro (not_or.mpr ⟨hsyn, hstuck⟩))) ?_ ?_
      · intro hfine
        simp only [Watch.destroyFrontEnd, fine_goTo, fine_use] at hfine
        exact hfine.1.1
      · exact fun hcond => (hcond hdriven).elim hsyn hstuck
  · have hsyn : ¬ s.state = .stateSyning := by simp [hok]
    have hstuck : ¬ s.CanGoOn c.pb p m.world := by simp [ConnectorSession.CanGoOn, hok]
    simp only [lt_irrefl, if_false]
    refine .of_false (hdrive.congr (iff_false_intro (not_or.mpr ⟨hsyn, hstuck⟩))) ?_ ?_
    · intro hfine
      rw [fine_goTo, fine_use] at hfine
      exact hfine.1
    · exact fun hcond => (hcond hdriven).elim hsyn hstuck

/-- A message of a backend. -/
theorem fineOnce_onRecvBackEnd (h : Inv m.world) (msg : List UInt8) (size : Nat) :
    ∃ p, FineOnce (∀ p s, m.world.getFrontEndByAsyncIds
          (c.pb.parseSSMsg msg size).head.session.fd.toNat
          (c.pb.parseSSMsg msg size).head.session.nid.toNat = some p →
        m.world.getUserContext p = some s →
        (c.pb.parseSSMsg msg size).head.bodyid ≠ SSBodyCmdId.data.value →
        ((c.pb.parseSSMsg msg size).head.bodyid = SSBodyCmdId.fin.value ∨ s.state ≠ .stateOk) →
        s.state = .stateSyning ∨ s.CanGoOn c.pb p m.world)
      p m (m.onRecvBackEnd c msg size).2 ∧
      (deletes (m.onRecvBackEnd c msg size).2.uses = deletes m.uses ∨
        ∃ n, m.world.heap.nets p = some n) := by
  unfold onRecvBackEnd
  dsimp only
  cases hp : m.world.getFrontEndByAsyncIds (c.pb.parseSSMsg msg size).head.session.fd.toNat
      (c.pb.parseSSMsg msg size).head.session.nid.toNat with
  | none => exact ⟨0, ((FineIf.refl m).once 0).of_true (by simp), .inl rfl⟩
  | some p =>
    obtain ⟨⟨fd, hfd⟩, _⟩ := getFrontEndByAsyncIds_eq_some h.ok (UInt32.toNat_lt _) hp
    obtain ⟨n, _, _, hl, _⟩ := h.ok.frontEntry hfd
    have hlive : isLive .net p m.world = true := by simp [isLive, hl.net]
    have hnet : FineIf True m ((m.use .net p).use .net p) :=
      (fineIf_net hlive).trans (fineIf_net (m := m.use .net p) hlive)
    refine ⟨p, ?_, .inr ⟨n, hl.net⟩⟩
    simp only [world_use, Option.some.injEq]
    cases hs : m.world.getUserContext p with
    | none => exact (hnet.once p).of_true (by rintro _ s rfl hs'; rw [hs] at hs'; cases hs')
    | some s =>
      have hrelay := fineOnce_relayToFrontEnd c (m := (m.use .net p).use .net p) h hs
        (c.pb.parseSSMsg msg size)
      refine ⟨?_, fun hcond => ?_⟩
      · rw [hrelay.fine, hnet.fine, and_true]
        refine and_congr_right fun _ => ⟨fun hcond => ?_, fun hcond => hcond p s rfl hs⟩
        rintro _ s' rfl hs'
        obtain rfl := Option.some.inj (hs.symm.trans hs')
        exact hcond
      · have hdeletes := hrelay.deletes (hcond p s rfl hs)
        rwa [hnet.deletes trivial] at hdeletes

end Watch

/-! ## Events -/

/-- What an event uses of the frontend connections. After `OnRecvFrontEnd` the frame loop goes on
with `++(easy_net->curr_pkg_count_)`. -/
def ConnectorApp.uses (c : ConnectorApp) (w : ConnectorWorld) : Event → List Use
  | .frontEndMsg net msg size => ((Watch.onRecvFrontEnd c net msg size ⟨w, []⟩).2.use .net net).uses
  | .backEndMsg msg size => (Watch.onRecvBackEnd c msg size ⟨w, []⟩).2.uses
  | _ => []

/-- No session destroys its own connection in this event: a message of a client is for a connection
that is there, and a session that it drives proceeds; a session that a message of a backend drives
can go on, or it is `STATE_SYNING` (then the callback destroys the connection). -/
def SessionsStand (c : ConnectorApp) (w : ConnectorWorld) : Event → Prop
  | .frontEndMsg net msg size => (w.heap.nets net).isSome = true ∧
    ∀ s, w.getUserContext net = some s →
      (s.checkUpSideMessage (c.pb.parseCSMsg msg size)).1 = 0 → s.state ≠ .stateOk →
      s.Proceeds c.pb net w
  | .backEndMsg msg size => ∀ p s,
    w.getFrontEndByAsyncIds (c.pb.parseSSMsg msg size).head.session.fd.toNat
      (c.pb.parseSSMsg msg size).head.session.nid.toNat = some p →
    w.getUserContext p = some s →
    (c.pb.parseSSMsg msg size).head.bodyid ≠ SSBodyCmdId.data.value →
    ((c.pb.parseSSMsg msg size).head.bodyid = SSBodyCmdId.fin.value ∨ s.state ≠ .stateOk) →
    s.state = .stateSyning ∨ s.CanGoOn c.pb p w
  | _ => True

/-- Every object that was used was there, and no connection was destroyed twice. -/
structure SafelyUsed (uses : List Use) : Prop where
  live : ∀ u ∈ uses, u.live = true
  once : (Watch.deletes uses).Nodup

variable {c : ConnectorApp} {w w' : ConnectorWorld}

theorem uses_live_iff (h : Inv w) (e : Event) :
    (∀ u ∈ c.uses w e, u.live = true) ↔ SessionsStand c w e := by
  have hstart : (⟨w, []⟩ : Watch).Fine := fun _ hu => nomatch hu
  cases e with
  | frontEndMsg net msg size =>
    exact (Watch.fineIf_onRecvFrontEnd c (m := ⟨w, []⟩) h net msg size).fine.trans
      (and_iff_right hstart)
  | backEndMsg msg size =>
    obtain ⟨p, honce, _⟩ := Watch.fineOnce_onRecvBackEnd c (m := ⟨w, []⟩) h msg size
    exact honce.fine.trans (and_iff_right hstart)
  | _ => exact iff_of_true (fun _ hu => nomatch hu) trivial

/-- If so, a step destroys at most one connection, which was there before and is gone after. -/
theorem deletes_uses (h : Inv w) {e : Event} (hstand : SessionsStand c w e)
    (hstep : c.step w e = some w') :
    Watch.deletes (c.uses w e) = [] ∨
      ∃ p n, Watch.deletes (c.uses w e) = [p] ∧ w.heap.nets p = some n ∧
        w'.heap.nets p = none := by
  cases e with
  | frontEndMsg net msg size =>
    exact .inl ((Watch.fineIf_onRecvFrontEnd c (m := ⟨w, []⟩) h net msg size).deletes hstand)
  | backEndMsg msg size =>
    cases hstep
    obtain ⟨p, honce, hlive⟩ := Watch.fineOnce_onRecvBackEnd c (m := ⟨w, []⟩) h msg size
    have herase := congrArg Prod.snd (Watch.erase_onRecvBackEnd c msg size ⟨w, []⟩)
    dsimp only [Watch.erase] at herase
    obtain hnone | ⟨hone, hgone⟩ := honce.deletes hstand
    · exact .inl hnone
    obtain hnone | ⟨n, hn⟩ := hlive
    · exact .inl hnone
    · exact .inr ⟨p, n, hone, hn, herase ▸ hgone⟩
  | _ => exact .inl rfl

/-! ## Runs -/

theorem gone_changeBackEndState (w : ConnectorWorld) (b : BevPtr) (state : NetState) :
    w.heap.nextNet ≤ (w.changeBackEndState b state).heap.nextNet ∧
      ∀ p, p < w.heap.nextNet → w.heap.nets p = none →
        (w.changeBackEndState b state).heap.nets p = none := by
  unfold changeBackEndState NetHandlerMgr.changeNetStateByEvent
  cases w.backendHandlerMgr.getHandlerByEvent w.heap b with
  | none => exact ⟨le_rfl, fun _ _ => id⟩
  | some q =>
    dsimp only
    cases hq : w.heap.nets q with
    | none => exact ⟨le_rfl, fun _ _ => id⟩
    | some n =>
      dsimp only
      refine ⟨le_rfl, fun p _ hp => ?_⟩
      have hne : p ≠ q := by
        rintro rfl
        rw [hp] at hq
        cases hq
      exact (Function.update_of_ne hne _ _).trans hp

/-- An object that is gone does not come back: addresses are not used again. -/
theorem gone_step {e : Event} (hstep : c.step w e = some w') :
    w.heap.nextNet ≤ w'.heap.nextNet ∧
      ∀ p, p < w.heap.nextNet → w.heap.nets p = none → w'.heap.nets p = none := by
  have rule := Heap.handlerRule_statesKept (γ := ConnectorSession)
  have kept : ∀ {w₁ : ConnectorWorld}, World.StatesKept w w₁ → w.heap.nextNet ≤ w₁.heap.nextNet ∧
      ∀ p, p < w.heap.nextNet → w.heap.nets p = none → w₁.heap.nets p = none := by
    intro w₁ hk
    refine ⟨hk.nextNet, fun p hlt hp => ?_⟩
    cases hp' : w₁.heap.nets p with
    | none => rfl
    | some n =>
      obtain ⟨_, hn, _⟩ := hk.state hlt hp'
      rw [hp] at hn
      cases hn
  have api : ∀ p (w : ConnectorWorld), ApiReach w (ConnectorApp.onFrontEndConnect p w) ∧
      ApiReach w (ConnectorApp.onFrontEndClose p w) := by
    intro p w
    unfold ConnectorApp.onFrontEndConnect ConnectorApp.onFrontEndClose
    cases w.getUserContext p with
    | none => exact ⟨.refl, .refl⟩
    | some s => exact ⟨.single (.setUserContext w p _), .single (.setUserContext w p _)⟩
  cases e with
  | backEnd connect =>
    rw [ConnectorApp.step] at hstep
    split_ifs at hstep with hfresh
    cases hstep
    have hcreate := rule.createBackEnd w 0 fun fd hfd => (hfresh fd hfd).1
    unfold ConnectorApp.onInitBackEnd
    generalize w.createBackEnd 0 connect = r at hcreate ⊢
    rcases r with ⟨_ | q, w₁⟩ <;> exact kept hcreate
  | connect fd bevOk callocOk =>
    rw [ConnectorApp.step] at hstep
    split_ifs at hstep
    cases hstep
    exact kept (rule.onFrontEndConnect (fun p w => (api p w).1) w fd bevOk callocOk)
  | frontEndSocket b events =>
    cases hstep
    exact kept (rule.onFrontEndSocketEvent (fun p w => (api p w).2) w b events)
  | backEndSocket b events =>
    cases hstep
    have hstate := fun state => gone_changeBackEndState w b state
    unfold onBackEndSocketEvent
    split_ifs <;> first | exact hstate _ | exact ⟨le_rfl, fun _ _ => id⟩
  | frontEndMsg net msg size =>
    cases hstep
    exact kept (rule.apiReach (c.api_onRecvFrontEnd net msg size w))
  | backEndMsg msg size =>
    cases hstep
    exact kept (rule.apiReach (c.api_onRecvBackEnd msg size w))
  | tick now setting =>
    cases hstep
    exact kept (rule.tick w now setting)
  | input b chunk =>
    cases hstep
    unfold evbufferAdd
    cases w.heap.bevs b with
    | none => exact kept (rule.refl w.heap)
    | some e => exact kept (.of_nets le_rfl fun _ _ => rfl)
  | countPkg net =>
    cases hstep
    exact kept (rule.modifyNet w net fun _ => rfl)
  | drain b len =>
    cases hstep
    exact kept (rule.evbufferDrain w b len)
  | countTraffic net elapsed =>
    cases hstep
    exact kept (rule.modifyNet w net fun _ => rfl)

/-- The connections that were deleted so far are gone, and none of them was deleted twice. -/
structure DeletedOnce (w : ConnectorWorld) (deleted : List NetPtr) : Prop where
  inv : Inv w
  gone : ∀ p ∈ deleted, p < w.heap.nextNet ∧ w.heap.nets p = none
  once : deleted.Nodup

theorem DeletedOnce.step {deleted : List NetPtr} {e : Event} (h : DeletedOnce w deleted)
    (hstand : SessionsStand c w e) (hstep : c.step w e = some w') :
    DeletedOnce w' (deleted ++ Watch.deletes (c.uses w e)) := by
  obtain ⟨hnext, hgone⟩ := gone_step hstep
  have hinv := (step_spec h.inv hstep).1
  have hold : ∀ p ∈ deleted, p < w'.heap.nextNet ∧ w'.heap.nets p = none := fun p hp =>
    ⟨lt_of_lt_of_le (h.gone p hp).1 hnext, hgone p (h.gone p hp).1 (h.gone p hp).2⟩
  obtain hnone | ⟨p, n, hone, hn, hafter⟩ := deletes_uses h.inv hstand hstep
  · rw [hnone, List.append_nil]
    exact ⟨hinv, hold, h.once⟩
  · rw [hone]
    refine ⟨hinv, fun q hq => ?_, ?_⟩
    · rcases List.mem_append.mp hq with hq | hq
      · exact hold q hq
      · rw [List.mem_singleton] at hq
        subst hq
        exact ⟨lt_of_lt_of_le (h.inv.ok.heap.netLt hn) hnext, hafter⟩
    · -- what was deleted before was not there any more
      have hnew : p ∉ deleted := by
        intro hp
        rw [(h.gone p hp).2] at hn
        cases hn
      exact List.nodup_append.mpr ⟨h.once, List.nodup_singleton p, by
        rintro q hq r hr rfl
        rw [List.mem_singleton] at hr
        exact hnew (hr ▸ hq)⟩

theorem DeletedOnce.run {deleted : List NetPtr} {es : List Event} (h : DeletedOnce w deleted)
    (hstand : Run.Along c.step (SessionsStand c) w es) :
    (deleted ++ Watch.deletes (Run.trace c.step c.uses w es)).Nodup := by
  induction es generalizing w deleted with
  | nil => simpa [Run.trace, Watch.deletes] using h.once
  | cons e es ih =>
    cases hstep : c.step w e with
    | none =>
      -- the events that can be refused use nothing
      have huses : c.uses w e = [] := by
        cases e <;> first | rfl | cases hstep
      rw [Run.trace_cons_none hstep, huses]
      simpa [Watch.deletes] using h.once
    | some w' =>
      rw [Run.trace_cons hstep, Watch.deletes_append, ← List.append_assoc]
      exact ih (h.step hstand.1 hstep) (hstand.2 w' hstep)

/-- In every run, everything that the handlers of messages use of a frontend connection is there and
no connection is destroyed twice, exactly when no session destroys its own connection. -/
theorem safelyUsed_iff (c : ConnectorApp) (fate : Nat → Bool) (frontRecv backRecv : RapBuffer)
    (now : Int) (es : List Event) :
    SafelyUsed (Run.trace c.step c.uses (ConnectorWorld.start fate frontRecv backRecv now) es) ↔
      Run.Along c.step (SessionsStand c) (ConnectorWorld.start fate frontRecv backRecv now) es := by
  have hinv := Inv.start fate frontRecv backRecv now
  have hkept : ∀ w e w', Inv w → c.step w e = some w' → Inv w' :=
    fun _ _ _ h hs => (step_spec h hs).1
  have hlive := Run.along_iff_of_inv hkept (fun w e h => uses_live_iff (c := c) h e) hinv es
  constructor
  · intro h
    exact hlive.mp (Run.forall_mem_trace.mp h.live)
  · intro h
    have hstart : DeletedOnce (ConnectorWorld.start fate frontRecv backRecv now) [] :=
      ⟨hinv, nofun, List.nodup_nil⟩
    exact ⟨Run.forall_mem_trace.mpr (hlive.mpr h), by simpa using hstart.run h⟩

/-- A client connects and sends `SYN`, and the answer cannot be written: the session destroys its
connection and is then written to. -/
theorem session_used_after_free :
    ¬ SafelyUsed (Run.trace ConnectorApp.greeting.step ConnectorApp.greeting.uses
      (ConnectorWorld.start (fun _ => false) .small .small 0)
      [.connect 7 true true,
        .frontEndMsg 0 (Wire.encodeCSMsg synMsg) (Wire.encodeCSMsg synMsg).length]) := by
  intro h
  have hmem : ⟨.session, 0, false⟩ ∈ Run.trace ConnectorApp.greeting.step
      ConnectorApp.greeting.uses (ConnectorWorld.start (fun _ => false) .small .small 0)
      [.connect 7 true true,
        .frontEndMsg 0 (Wire.encodeCSMsg synMsg) (Wire.encodeCSMsg synMsg).length] := by
    decide +kernel
  exact absurd (h.live _ hmem) (by decide)

end Rapidapp.Connector
