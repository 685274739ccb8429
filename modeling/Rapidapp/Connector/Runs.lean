import Rapidapp.Misc.Run
import Rapidapp.Connector.SessionOk

/-!
# Runs of the connector

Every step keeps `Inv`, so it holds after every run from the start of the process. The
steps without a message are `World.Calm`; those with one are an `Effect` on the connection
the message is for.
-/

namespace Rapidapp.Connector

open World

variable {c : ConnectorApp} {w w' : ConnectorWorld}

/-- The process after `AppFrameWork::Init`, before `OnInit` creates the backends. -/
def ConnectorWorld.start (fate : Nat → Bool) (frontRecv backRecv : RapBuffer) (now : Int) :
    ConnectorWorld :=
  World.start BackEndSet.empty fate frontRecv backRecv .normal now

theorem Inv.start (fate : Nat → Bool) (frontRecv backRecv : RapBuffer) (now : Int) :
    Inv (ConnectorWorld.start fate frontRecv backRecv now) where
  ok := World.ok_start _ fate frontRecv backRecv .normal now
  nid := NidOk.start _ fate frontRecv backRecv .normal now
  session hs := nomatch hs
  backEnds := nofun

theorem Inv.of_calm (h : Inv w) (hc : Calm w w') : Inv w' where
  ok := hc.ok
  nid := hc.nid
  session hs := by
    obtain ⟨hstub, hf⟩ := h.session (hc.context hs)
    exact ⟨hstub, hc.pooled hs hf⟩
  backEnds q hq := by
    rw [hc.app] at hq
    obtain ⟨hlt, hnf⟩ := h.backEnds q hq
    refine ⟨lt_of_lt_of_le hlt hc.nextNet, fun hf => ?_⟩
    obtain hf | hle := hc.front hf
    · exact hnf hf
    · exact absurd hlt (not_lt.mpr hle)

/-! ## Connections that are made -/

theorem mem_addBackEnd {b : BackEndSet} {q q' : NetPtr} (h : q ∈ (b.addBackEnd q').backends) :
    q ∈ b.backends ∨ q = q' := by
  unfold BackEndSet.addBackEnd at h
  split_ifs at h
  · exact .inl h
  · simpa using h

/-- A new backend is no frontend and has no session. -/
theorem onInitBackEnd_spec (h : Inv w) {connect : Option Int}
    (hfd : ∀ fd, connect = some fd → w.FreshFd fd) :
    Inv (ConnectorApp.onInitBackEnd connect w) ∧
      ∀ {p s}, (ConnectorApp.onInitBackEnd connect w).getUserContext p = some s →
        w.getUserContext p = some s := by
  unfold ConnectorApp.onInitBackEnd
  obtain ⟨_, heq⟩ | ⟨fd, n, hconn, hn, heq⟩ := createBackEnd_cases w 0 connect
  · have hcalm : Calm w { w with heap := w.heap.newEasyNet.2.deleteNet w.heap.newEasyNet.1 } :=
      calm_of_similar h.ok (similar_newDelete h.ok) (h.nid.newDelete h.ok) rfl fun hs => by
        rw [World.getUserContext] at hs ⊢
        rwa [← nets_newDelete h.ok]
    rw [heq]
    exact ⟨h.of_calm hcalm, hcalm.context⟩
  · have hopen := calm_openAt h.ok h.nid .backEnd (hfd fd hconn) 0 .netConnecting
    have hset : Calm w { w.openAt .backEnd fd 0 .netConnecting with
        heap := (w.openAt .backEnd fd 0 .netConnecting).heap.setNet w.heap.nextNet
          { n with lastActiveTimestamp := w.now } } :=
      hopen.trans (calm_setNet hopen.ok hopen.nid hn rfl rfl rfl)
    have hinv := h.of_calm hset
    rw [heq]
    dsimp only
    refine ⟨⟨hinv.ok.similar (.of_eq rfl fun side => by cases side <;> rfl),
      hinv.nid.of_eq rfl rfl rfl, hinv.session, fun q hq => ?_⟩, hset.context⟩
    obtain hq | rfl := mem_addBackEnd hq
    · exact hinv.backEnds q (hset.app ▸ hq)
    refine ⟨hopen.ok.heap.netLt hn, ?_⟩
    · -- the pool of the frontends is the old one, and all its objects are older
      rintro ⟨fd', hfd'⟩
      have hlookup := w.lookup_openAt .backEnd .frontEnd fd fd' 0 .netConnecting
      simp only [mgr, reduceCtorEq, false_and, if_false] at hlookup
      obtain ⟨_, _, _, hl, _⟩ := h.ok.frontEntry (hlookup.symm.trans hfd')
      exact absurd (h.ok.heap.netLt hl.net) (lt_irrefl _)

theorem onFrontEndConnect_spec (h : Inv w) {fd : Int} (hfd : w.FreshFd fd)
    (bevOk callocOk : Bool) :
    Inv (w.onFrontEndConnect ConnectorApp.onFrontEndConnect fd bevOk callocOk) ∧
      ∀ {p s}, (w.onFrontEndConnect ConnectorApp.onFrontEndConnect fd bevOk callocOk).getUserContext
        p = some s → w.getUserContext p = some s ∨
          p = w.heap.nextNet ∧ s = ConnectorSession.new.init p := by
  obtain hcalm | ⟨w₁, hacc, heq⟩ :=
    onFrontEndConnect_cases h.ok h.nid ConnectorApp.onFrontEndConnect hfd bevOk callocOk
  · exact ⟨h.of_calm hcalm, fun hs => .inl (hcalm.context hs)⟩
  rw [heq]
  set s₀ := ConnectorSession.new.init w.heap.nextNet with hs₀
  have hold : ∀ {p s}, p ≠ w.heap.nextNet → w₁.getUserContext p = some s →
      w.getUserContext p = some s := by
    intro p s hp hs
    rwa [hacc.context, if_neg hp] at hs
  have hctx : w₁.getUserContext w.heap.nextNet = some default := by
    rw [hacc.context, if_pos rfl]
  have hrun : ConnectorApp.onFrontEndConnect w.heap.nextNet w₁ =
      w₁.setUserContext w.heap.nextNet s₀ := by
    simp only [ConnectorApp.onFrontEndConnect, hctx, hs₀]
  have hkept := (ApiStep.setUserContext w₁ w.heap.nextNet s₀).kept hacc.ok
  obtain ⟨n, hn, hnctx⟩ := exists_of_getUserContext hctx
  have hset : w₁.setUserContext w.heap.nextNet s₀ =
      { w₁ with heap := w₁.heap.setNet w.heap.nextNet { n with userContext := some s₀ } } := by
    simp only [World.setUserContext, hn, hnctx]
  rw [hrun]
  have hsession : ∀ {p s}, (w₁.setUserContext w.heap.nextNet s₀).getUserContext p = some s →
      p ≠ w.heap.nextNet ∧ w.getUserContext p = some s ∨
        p = w.heap.nextNet ∧ s = s₀ := by
    intro p s hs
    by_cases hp : p = w.heap.nextNet
    · refine .inr ⟨hp, ?_⟩
      rw [hset, World.getUserContext] at hs
      simp only [hp, Heap.setNet, Function.update_self, Option.bind_some] at hs
      exact (Option.some.inj hs).symm
    · exact .inl ⟨hp, hold hp ((leftAlone_setUserContext w₁ hp _).getUserContext.symm.trans hs)⟩
  have hfront : ∀ q, (w₁.setUserContext w.heap.nextNet s₀).InFront q ↔
        w.InFront q ∨ q = w.heap.nextNet := by
    intro q
    rw [hset]
    exact hacc.front q
  refine ⟨⟨hkept.ok, ?_, fun hs => ?_, fun q hq => ?_⟩, fun hs => ?_⟩
  · rw [hset]
    exact hacc.nid.setNet hn rfl
  · obtain ⟨_, hs⟩ | ⟨rfl, rfl⟩ := hsession hs
    · obtain ⟨hstub, hf⟩ := h.session hs
      exact ⟨hstub, (hfront _).mpr (.inl hf)⟩
    · exact ⟨rfl, (hfront _).mpr (.inr rfl)⟩
  · rw [hset] at hq
    obtain ⟨hlt, hnf⟩ := h.backEnds q (hacc.app ▸ hq)
    have hnext : w₁.heap.nextNet = w.heap.nextNet + 1 := hacc.nextNet
    refine ⟨?_, fun hf => ?_⟩
    · rw [hset]
      exact lt_of_lt_of_le hlt (hnext ▸ Nat.le_succ _)
    · obtain hf | rfl := (hfront q).mp hf
      · exact hnf hf
      · exact lt_irrefl _ hlt
  · obtain ⟨_, hs⟩ | ⟨rfl, rfl⟩ := hsession hs
    · exact .inl hs
    · exact .inr ⟨rfl, rfl⟩

/-! ## Connections that are closed -/

theorem calm_removeHandlerByEvent (h : Inv w) (b : BevPtr) :
    Calm w (w.setMgr .frontEnd (w.frontendHandlerMgr.removeHandlerByEvent w.heap b)) := by
  unfold NetHandlerMgr.removeHandlerByEvent NetHandlerMgr.getHandlerByEvent
  cases hp : w.frontendHandlerMgr.handlerPool.lookup (w.heap.getfd b) with
  | none => exact Calm.refl h.ok h.nid
  | some p => exact calm_eraseAt h.ok h.nid .frontEnd hp

theorem onFrontEndClose_spec (h : Inv w) (p : NetPtr) :
    Effect p w (ConnectorApp.onFrontEndClose p w) ∧
      ∀ s', (ConnectorApp.onFrontEndClose p w).getUserContext p = some s' →
        ∃ s, w.getUserContext p = some s ∧ s' = s.cleanUp := by
  unfold ConnectorApp.onFrontEndClose
  cases hs : w.getUserContext p with
  | none => exact ⟨Effect.refl h p, fun s' hs' => by rw [hs] at hs'; cases hs'⟩
  | some s =>
    obtain ⟨hset, hnew⟩ := Effect.setUserContext h s.cleanUp hs rfl
    exact ⟨hset, fun s' hs' => ⟨s, rfl, Option.some.inj (hs'.symm.trans hnew)⟩⟩

theorem onFrontEndSocketEvent_spec (h : Inv w) (b : BevPtr) (events : BevEvents) :
    Inv (w.onFrontEndSocketEvent ConnectorApp.onFrontEndClose b events) ∧
      ∀ {p s}, (w.onFrontEndSocketEvent ConnectorApp.onFrontEndClose b events).getUserContext p =
        some s → w.getUserContext p = some s ∨
          ∃ s₀, w.getUserContext p = some s₀ ∧ s = s₀.cleanUp := by
  have hclose : Inv (w.closeFrontEnd ConnectorApp.onFrontEndClose b) ∧
      ∀ {p s}, (w.closeFrontEnd ConnectorApp.onFrontEndClose b).getUserContext p = some s →
        w.getUserContext p = some s ∨ ∃ s₀, w.getUserContext p = some s₀ ∧ s = s₀.cleanUp := by
    unfold closeFrontEnd
    cases w.frontendHandlerMgr.getHandlerByEvent w.heap b with
    | none =>
      have hcalm := calm_removeHandlerByEvent h b
      exact ⟨h.of_calm hcalm, fun hs => .inl (hcalm.context hs)⟩
    | some p =>
      obtain ⟨he, hinit⟩ := onFrontEndClose_spec h p
      have hcalm := calm_removeHandlerByEvent (he.inv h) b
      refine ⟨(he.inv h).of_calm hcalm, fun {q s} hs => ?_⟩
      by_cases hq : q = p
      · subst hq; exact .inr (hinit s (hcalm.context hs))
      · exact .inl (he.context hq (hcalm.context hs))
  unfold onFrontEndSocketEvent
  split_ifs <;> first | exact hclose | exact ⟨h, .inl⟩

/-! ## Steps and runs -/

/-- A message as the connector sees it. -/
inductive Message where
  | client (msg : CSMsg)
  | backEnd (msg : SSMsg)
  deriving DecidableEq

/-- The message the session of `p` receives in this event: one that came from its client, or one
of a backend that carries the ids of `p`. -/
def ConnectorApp.heard (c : ConnectorApp) (p : NetPtr) (w : ConnectorWorld) :
    Event → Option Message
  | .frontEndMsg net msg size =>
    if net = p ∧ (w.getUserContext p).isSome then some (.client (c.pb.parseCSMsg msg size))
    else none
  | .backEndMsg msg size =>
    let downMsg := c.pb.parseSSMsg msg size
    if (downMsg.head.session.fd.toNat, downMsg.head.session.nid.toNat) = w.getNetIds p ∧
      (w.getUserContext p).isSome then some (.backEnd downMsg) else none
  | _ => none

/-- Whether `OnRecvFrontEnd` or `OnRecvBackEnd` has a session that is not ready go on with the
handshake when it receives the message. -/
def ConnectorSession.isDrivenBy (s : ConnectorSession) : Message → Prop
  | .client msg => s.state ≠ .stateOk ∧ (s.checkUpSideMessage msg).1 = 0
  | .backEnd msg => s.state ≠ .stateOk ∧ msg.head.bodyid ≠ SSBodyCmdId.data.value

/-- The state a session is in when it went on because of the message. -/
def SessionState.after (state : SessionState) : Message → SessionState
  | .client _ => state.afterClient
  | .backEnd _ => state.next

/-- Everything a step can do to a session: `s'` is the session of `p` after the step. -/
inductive SessionStep (c : ConnectorApp) (w : ConnectorWorld) (e : Event) (p : NetPtr)
    (s' : ConnectorSession) : Prop
  /-- Nothing was for it, or the message for it changed nothing. -/
  | kept (hs : w.getUserContext p = some s')
      (hrejected : ∀ msg, c.heard p w e = some (.client msg) → (s'.checkUpSideMessage msg).1 ≠ 0)
  /-- It was made for a new connection. -/
  | made (hp : p = w.heap.nextNet) (hnew : s' = ConnectorSession.new.init p)
      (hheard : c.heard p w e = none)
  /-- Its client is gone. -/
  | closed {s : ConnectorSession} (hs : w.getUserContext p = some s)
      (hclean : s' = s.cleanUp) (hheard : c.heard p w e = none)
  /-- It accepted a message of its client. -/
  | accepted {s : ConnectorSession} {msg : CSMsg} (hs : w.getUserContext p = some s)
      (hheard : c.heard p w e = some (.client msg)) (hcheck : (s.checkUpSideMessage msg).1 = 0)
      (hafter : s' = { s.accept msg with state := s.state.afterClient })
  /-- A message of a backend drove it on. -/
  | driven {s : ConnectorSession} {msg : SSMsg} (hs : w.getUserContext p = some s)
      (hheard : c.heard p w e = some (.backEnd msg)) (hne : s.state ≠ .stateOk)
      (hdata : msg.head.bodyid ≠ SSBodyCmdId.data.value)
      (hafter : s' = { s with state := s.state.next, sid := msg.head.session.sid })

theorem heard_frontEndMsg {p : NetPtr} {s : ConnectorSession} (hs : w.getUserContext p = some s)
    (msg : List UInt8) (size : Nat) :
    c.heard p w (.frontEndMsg p msg size) = some (.client (c.pb.parseCSMsg msg size)) :=
  if_pos ⟨rfl, by rw [hs]; rfl⟩

theorem heard_backEndMsg_ne (p : NetPtr) (w : ConnectorWorld) (msg : List UInt8) (size : Nat)
    (upMsg : CSMsg) : c.heard p w (.backEndMsg msg size) ≠ some (.client upMsg) := by
  rw [ConnectorApp.heard]
  split_ifs <;> nofun

/-- Every step keeps the invariant, and does to a session one of the things above. -/
theorem step_session (h : Inv w) {e : Event} (hstep : c.step w e = some w') :
    Inv w' ∧ ∀ {p s'}, w'.getUserContext p = some s' → SessionStep c w e p s' := by
  have unheard : ∀ {p s'}, w.getUserContext p = some s' → c.heard p w e = none →
      SessionStep c w e p s' := by
    intro p s' hs hnone
    refine .kept hs fun msg hmsg => ?_
    rw [hnone] at hmsg
    cases hmsg
  cases e with
  | backEnd connect =>
    rw [ConnectorApp.step] at hstep
    split_ifs at hstep with hfd
    cases hstep
    obtain ⟨hinv, hctx⟩ := onInitBackEnd_spec h fun fd hconn =>
      FdUnused.freshFd h.ok (hfd fd (Option.mem_def.mpr hconn))
    exact ⟨hinv, fun hs => unheard (hctx hs) rfl⟩
  | connect fd bevOk callocOk =>
    rw [ConnectorApp.step] at hstep
    split_ifs at hstep with hfd
    cases hstep
    obtain ⟨hinv, hctx⟩ := onFrontEndConnect_spec h (hfd.freshFd h.ok) bevOk callocOk
    refine ⟨hinv, fun hs => ?_⟩
    obtain hs | ⟨hp, hnew⟩ := hctx hs
    · exact unheard hs rfl
    · exact .made hp hnew rfl
  | frontEndSocket b events =>
    cases hstep
    obtain ⟨hinv, hctx⟩ := onFrontEndSocketEvent_spec h b events
    refine ⟨hinv, fun hs => ?_⟩
    obtain hs | ⟨s₀, hs, hclean⟩ := hctx hs
    · exact unheard hs rfl
    · exact .closed hs hclean rfl
  | frontEndMsg net msg size =>
    cases hstep
    cases hs : w.getUserContext net with
    | none =>
      rw [ConnectorApp.onRecvFrontEnd, hs]
      refine ⟨h, fun {p s'} hs' => unheard hs' (if_neg ?_)⟩
      rintro ⟨rfl, _⟩
      rw [hs] at hs'
      cases hs'
    | some s =>
      obtain ⟨he, hsession⟩ := onRecvFrontEnd_spec c h hs msg size
      refine ⟨he.inv h, fun {p s'} hs' => ?_⟩
      by_cases hp : p = net
      · subst hp
        have hheard := heard_frontEndMsg (c := c) hs msg size
        obtain ⟨hcheck, rfl⟩ | ⟨hcheck, hafter⟩ := hsession s' hs'
        · refine .kept hs fun m hm => ?_
          cases hheard.symm.trans hm
          exact hcheck
        · exact .accepted hs hheard hcheck hafter
      · exact unheard (he.context hp hs') (if_neg fun hnet => hp hnet.1.symm)
  | backEndMsg msg size =>
    cases hstep
    have same : ∀ {p s'}, w.getUserContext p = some s' →
        SessionStep c w (.backEndMsg msg size) p s' := fun hs' =>
      .kept hs' fun m hm => absurd hm (heard_backEndMsg_ne _ w msg size m)
    obtain heq | ⟨net, s, _, hs, hids, heq⟩ := onRecvBackEnd_spec c h msg size
    · rw [heq]
      exact ⟨h, same⟩
    · obtain ⟨he, hsession⟩ := relayToFrontEnd_spec c h hs (c.pb.parseSSMsg msg size)
      rw [heq]
      refine ⟨he.inv h, fun {p s'} hs' => ?_⟩
      by_cases hp : p = net
      · subst hp
        obtain rfl | ⟨hne, hdata, hafter⟩ := hsession s' hs'
        · exact same hs
        · exact .driven hs (if_pos ⟨hids.symm, by rw [hs]; rfl⟩) hne hdata hafter
      · exact same (he.context hp hs')
  | backEndSocket b events =>
    cases hstep
    have hcalm := calm_onBackEndSocketEvent h.ok h.nid b events
    exact ⟨h.of_calm hcalm, fun hs => unheard (hcalm.context hs) rfl⟩
  | tick now setting =>
    cases hstep
    have hcalm := calm_tick h.ok h.nid now setting
    exact ⟨h.of_calm hcalm, fun hs => unheard (hcalm.context hs) rfl⟩
  | input b chunk =>
    cases hstep
    have hcalm := calm_evbufferAdd h.ok h.nid b chunk
    exact ⟨h.of_calm hcalm, fun hs => unheard (hcalm.context hs) rfl⟩
  | countPkg p =>
    cases hstep
    have hcalm : Calm w (w.modifyNet p countPkg) :=
      calm_modifyNet h.ok h.nid p (fun _ => rfl) (fun _ => rfl) fun _ => rfl
    exact ⟨h.of_calm hcalm, fun hs => unheard (hcalm.context hs) rfl⟩
  | drain b len =>
    cases hstep
    have hcalm := calm_evbufferDrain h.ok h.nid b len
    exact ⟨h.of_calm hcalm, fun hs => unheard (hcalm.context hs) rfl⟩
  | countTraffic p elapsed =>
    cases hstep
    have hcalm : Calm w (w.modifyNet p (countTraffic elapsed w.now)) :=
      calm_modifyNet h.ok h.nid p (fun _ => rfl) (fun _ => rfl) fun _ => rfl
    exact ⟨h.of_calm hcalm, fun hs => unheard (hcalm.context hs) rfl⟩

/-- Everything a step can do to the state of a session: nothing, a new session, or the one move
that the message for it allows. -/
theorem step_spec (h : Inv w) {e : Event} (hstep : c.step w e = some w') :
    Inv w' ∧ ∀ {p s'}, w'.getUserContext p = some s' →
      (∃ s, w.getUserContext p = some s ∧ s'.state = s.state) ∨ s'.state = .stateInit ∨
        ∃ s msg, w.getUserContext p = some s ∧ c.heard p w e = some msg ∧ s.isDrivenBy msg ∧
          s'.state = s.state.after msg := by
  obtain ⟨hinv, hsession⟩ := step_session h hstep
  refine ⟨hinv, fun {p s'} hs' => ?_⟩
  cases hsession hs' with
  | kept hs _ => exact .inl ⟨s', hs, rfl⟩
  | made _ hnew => exact .inr (.inl (congrArg ConnectorSession.state hnew))
  | closed _ hclean => exact .inr (.inl (congrArg ConnectorSession.state hclean))
  | @accepted s msg hs hheard hcheck hafter =>
    subst hafter
    by_cases hok : s.state = .stateOk
    · refine .inl ⟨s, hs, ?_⟩
      rw [hok]
      rfl
    · exact .inr (.inr ⟨s, .client msg, hs, hheard, ⟨hok, hcheck⟩, rfl⟩)
  | @driven s msg hs hheard hne hdata hafter =>
    subst hafter
    exact .inr (.inr ⟨s, .backEnd msg, hs, hheard, ⟨hne, hdata⟩, rfl⟩)

theorem run_inv {es : List Event} (h : Inv w) (hrun : Run.run c.step w es = some w') : Inv w' :=
  Run.run_preserves (fun _ _ _ h hstep => (step_spec h hstep).1) h hrun

end Rapidapp.Connector
