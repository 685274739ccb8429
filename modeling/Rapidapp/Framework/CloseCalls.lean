import Rapidapp.Framework.HandlerRule
import Rapidapp.Framework.SpeedLimits

/-!
# Which frontends are closed with OnFrontEndClose

`AppFrameWork::OnFrontEndSocketEvent` (`framework/rapidapp_framework_imp.cpp:1149-1194`) calls
`RapidApp::OnFrontEndClose` before it removes a frontend. `NetHandlerMgr::WalkThrough`
(`framework/rapidapp_net_mgr.cpp:269-284`), which removes a frontend over a limit, knows no
application, and `OnFrontEndMsg` (`rapidapp_framework_imp.cpp:1114-1126`) removes one whose request
cannot be decoded without the call. Over the records of a run, `closesAnnounced_iff` says that
the removed frontends had their call exactly when no removal was of the last two kinds.
-/

namespace Rapidapp

variable {σ γ : Type}

/-! ## Connections that are gone -/

/-- Every open socket has a descriptor. -/
def Heap.FdsOk (h : Heap γ) : Prop := ∀ b e, h.bevs b = some e → 0 ≤ e.fd

theorem Heap.handlerRule_fdsOk : HandlerRule (γ := γ) fun h h' => h.FdsOk → h'.FdsOk where
  refl _ := id
  trans h h' := h' ∘ h
  setNet _ _ _ _ _ _ := id
  deleteNet _ _ := id
  newEasyNet _ := id
  openNet h fd type state hfd hok c f hc := by
    rw [World.openNet_eq] at hc
    dsimp only at hc
    by_cases hcb : c = h.nextBev
    · rw [hcb, Function.update_self] at hc
      obtain rfl := Option.some.inj hc
      exact hfd
    · rw [Function.update_of_ne hcb] at hc
      exact hok c f hc
  bevs _ _ hbevs hok b e' hb := by
    obtain ⟨e, he, hfd⟩ := hbevs hb
    rw [hfd]
    exact hok b e he

namespace World

/-- There was an `EasyNet` at the address, and it was deleted. -/
def Gone (w : World σ γ) (p : NetPtr) : Prop := p < w.heap.nextNet ∧ w.heap.nets p = none

theorem Gone.onward {w w' : World σ γ} {p : NetPtr} (hp : w.Gone p) (hw : Onward w w') :
    w'.Gone p :=
  ⟨lt_of_lt_of_le hp.1 hw.nextNet, hw.gone hp.1 hp.2⟩

theorem not_gone_of_lookup {w : World σ γ} (h : Ok w) {fd : Int} {p : NetPtr}
    (hp : w.frontendHandlerMgr.handlerPool.lookup fd = some p) : ¬ w.Gone p := by
  obtain ⟨n, b, e, hl, _⟩ := h.frontEntry hp
  rintro ⟨_, hnone⟩
  cases hl.net.symm.trans hnone

/-- What a handler deletes of what stands in the pool. -/
theorem gone_of_lookup {w w' : World σ γ} (h : Ok w) (hw : Onward w w') {fd : Int} {p : NetPtr}
    (hp : w.frontendHandlerMgr.handlerPool.lookup fd = some p) (hp' : w'.heap.nets p = none) :
    w'.Gone p := by
  obtain ⟨n, b, e, hl, _⟩ := h.frontEntry hp
  exact ⟨lt_of_lt_of_le (h.heap.netLt hl.net) hw.nextNet, hp'⟩

/-- The `bufferevent` of an event that leads to a connection is that of the connection. -/
theorem live_of_getHandlerByEvent {w : World σ γ} (h : Ok w) (hfds : w.heap.FdsOk) {b : BevPtr}
    {p : NetPtr} (hp : w.frontendHandlerMgr.getHandlerByEvent w.heap b = some p) :
    ∃ n e, w.heap.Live p n b e ∧ w.frontendHandlerMgr.handlerPool.lookup e.fd = some p := by
  rw [NetHandlerMgr.getHandlerByEvent] at hp
  obtain ⟨n, c, e, hl, hfd⟩ := h.frontEntry hp
  cases hb : w.heap.bevs b with
  | none =>
    have hneg := hfds c e hl.bev
    rw [hfd, Heap.getfd, hb] at hneg
    cases hneg
  | some f =>
    rw [getfd_of_bev hb] at hp hfd
    obtain rfl := h.heap.fdInj hl.bev hb hfd
    exact ⟨n, e, hl, hfd ▸ hp⟩

/-- A frontend that `OnFrontEndClose` is called for does not outlive the event. -/
theorem nets_closeFrontEnd {onClose : NetPtr → World σ γ → World σ γ}
    (hclose : ∀ p w, ApiReach w (onClose p w)) {w : World σ γ} (h : Ok w)
    (hin : w.frontendHandlerMgr.PointsInside) (hfds : w.heap.FdsOk) {b : BevPtr} {p : NetPtr}
    (hp : w.frontendHandlerMgr.getHandlerByEvent w.heap b = some p) :
    (w.closeFrontEnd onClose b).heap.nets p = none := by
  obtain ⟨n, e, hl, hlookup⟩ := live_of_getHandlerByEvent h hfds hp
  have hkept := (hclose p w).kept h
  have honward := (hclose p w).onward h hin
  rw [closeFrontEnd, hp]
  dsimp only
  cases hn' : (onClose p w).heap.nets p with
  | none =>
    -- the application destroyed it itself
    have hlt := lt_of_lt_of_le (h.heap.netLt hl.net) honward.nextNet
    exact (quiet_removeHandlerByEvent honward.ok honward.inside b).1.gone hlt hn'
  | some n' =>
    obtain ⟨e', he', hfd, _, _⟩ := hkept.2.bev hl hn'
    have hlookup' := hkept.2.frontPool hlookup hn'
    have hget :
        (onClose p w).frontendHandlerMgr.getHandlerByEvent (onClose p w).heap b = some p := by
      rw [NetHandlerMgr.getHandlerByEvent, getfd_of_bev he', hfd]
      exact hlookup'
    obtain ⟨n'', b'', e'', hl'', _⟩ := honward.ok.frontEntry hlookup'
    rw [NetHandlerMgr.removeHandlerByEvent, hget]
    refine (congrArg (fun heap : Heap γ => heap.nets p)
      ((onClose p w).heap_eraseAt .frontEnd _ hl'')).trans ?_
    exact Function.update_self _ _ _

/-- A frontend the walk finds over a limit is gone after the `Tick`. -/
theorem gone_kicked {w : World σ γ} (h : w.Ok) (hin : w.frontendHandlerMgr.PointsInside)
    (now : Int)
    {setting : Setting} {p : NetPtr} (hp : p ∈ w.kicked setting now) :
    ¬ w.Gone p ∧ (w.tick now setting).Gone p := by
  obtain ⟨fd, hfd, hp⟩ := List.mem_filterMap.mp hp
  obtain ⟨q, hq, hp⟩ := Option.bind_eq_some_iff.mp hp
  obtain ⟨n, hn, hp⟩ := Option.bind_eq_some_iff.mp hp
  split_ifs at hp with hkick
  obtain rfl := Option.some.inj hp
  rw [doSomething_fst] at hkick
  have hgone := (nets_tick_eq_none h hin now setting hn).mpr ⟨⟨fd, hfd, hq⟩, hkick⟩
  exact ⟨not_gone_of_lookup h hq,
    gone_of_lookup h (FrameRun.onward_tick h hin now setting) hq hgone⟩

/-- What a socket event of a frontend adds: nothing, or a call, and a removal unless the application
removed the frontend itself. -/
theorem closed_cases {w : World σ γ} (h : w.Ok) (hin : w.frontendHandlerMgr.PointsInside)
    (hfds : w.heap.FdsOk) (app : FrontEndApp σ γ) (b : BevPtr) (events : BevEvents) :
    w.closed app b events = [] ∨ ∃ p, ¬ w.Gone p ∧
      (w.onFrontEndSocketEvent app.onFrontEndClose b events).Gone p ∧
      (w.closed app b events = [.closeCalled p true] ∨
        w.closed app b events = [.closeCalled p true, .removed p .socketEvent]) := by
  have honward := (quiet_onFrontEndSocketEvent app.onFrontEndClose_api h hin b events).1
  by_cases hends : events.error || !events.timeout && events.eof
  · have hclose : w.onFrontEndSocketEvent app.onFrontEndClose b events =
        w.closeFrontEnd app.onFrontEndClose b := by
      obtain ⟨error, connected, timeout, eof⟩ := events
      rw [onFrontEndSocketEvent]
      cases error <;> cases timeout <;> cases eof <;> first | rfl | cases hends
    rw [closed, if_pos hends]
    cases hp : w.frontendHandlerMgr.getHandlerByEvent w.heap b with
    | none => exact .inl rfl
    | some p =>
      obtain ⟨n, e, hl, hlookup⟩ := live_of_getHandlerByEvent h hfds hp
      have hgone := nets_closeFrontEnd app.onFrontEndClose_api h hin hfds hp
      rw [← hclose] at hgone
      refine .inr ⟨p, not_gone_of_lookup h hlookup,
        gone_of_lookup h honward hlookup hgone, ?_⟩
      dsimp only
      rw [hl.net, Option.isSome_some]
      split_ifs
      · exact .inr rfl
      · exact .inl rfl
  · rw [closed, if_neg hends]
    exact .inl rfl

theorem bevs_onBackEndSocketEvent (w : World σ γ) (b : BevPtr) (events : BevEvents) :
    (w.onBackEndSocketEvent b events).heap.bevs = w.heap.bevs := by
  have hstate : ∀ state, (w.changeBackEndState b state).heap.bevs = w.heap.bevs := by
    intro state
    rw [changeBackEndState, NetHandlerMgr.changeNetStateByEvent]
    split
    · rfl
    · split <;> rfl
  rw [onBackEndSocketEvent]
  split_ifs
  · exact hstate _
  · exact hstate _
  · rfl
  · exact hstate _
  · rfl

end World

namespace Monitor

/-- The loop of `OnFrontEndMsg` deletes the frontend at a request it cannot decode. -/
theorem gone_foldFrames {m : Monitor σ γ} (h : m.world.Ok)
    (hin : m.world.frontendHandlerMgr.PointsInside) (app : App σ γ) {fd : Int} {p : NetPtr}
    (hlt : p < m.world.heap.nextNet)
    (hpool : ∀ n, m.world.heap.nets p = some n →
      m.world.frontendHandlerMgr.handlerPool.lookup fd = some p)
    (buf : List UInt8) {elapsed : Nat} {lens : List Nat}
    (hrefused : World.refusesAt app m.world.svcMode buf elapsed lens = true) :
    ∃ m' elapsed', foldFrames (frontEndBody app p buf) elapsed lens m = (m', elapsed', false) ∧
      m'.world.heap.nets p = none := by
  induction lens generalizing m elapsed with
  | nil => cases hrefused
  | cons msglen rest ih =>
    obtain ⟨-, hgo, hmode⟩ := handed_frameBody app .frontEnd p buf elapsed msglen m
    obtain ⟨d, hd, -, -⟩ := handled_frontEndBody h hin app p buf elapsed msglen
    have hdestroyed : (frontEndBody app p buf elapsed msglen m).2 = false →
        (frontEndBody app p buf elapsed msglen m).1.world.heap.nets p = none := by
      intro hstop
      obtain ⟨_, _, _, hcont⟩ | ⟨hworld, _⟩ := world_frontEndBody app p buf elapsed msglen m
      · cases hstop.symm.trans hcont
      · rw [hworld]
        cases hn : m.world.heap.nets p with
        | none => exact (World.onward_destroyNet h hin .frontEnd (some p)).gone hlt hn
        | some n => exact World.nets_destroyFrontEnd h ⟨fd, hpool n hn⟩
    rw [World.refusesAt, ← hgo] at hrefused
    simp only [frameBody] at hgo hmode hrefused
    rw [foldFrames]
    generalize frontEndBody app p buf elapsed msglen m = r at hd hmode hrefused hdestroyed ⊢
    obtain ⟨m₁, cont⟩ := r
    cases cont with
    | false => exact ⟨m₁, elapsed, rfl, hdestroyed rfl⟩
    | true =>
      refine ih hd.onward.ok hd.onward.inside (lt_of_lt_of_le hlt hd.onward.nextNet) ?_ ?_
      · intro n' hn'
        cases hn : m.world.heap.nets p with
        | none => cases (hd.onward.gone hlt hn).symm.trans hn'
        | some n =>
          have hp : (m.world.mgr .frontEnd).handlerPool.lookup fd = some p := hpool n hn
          exact hd.onward.pool hp hn'
      · rw [hmode rfl]
        exact hrefused

theorem nets_onFrontEndMsg_refused {m m' : Monitor σ γ} (h : m.world.Ok)
    (hin : m.world.frontendHandlerMgr.PointsInside) (app : App σ γ) {b : BevPtr} {e : BufferEvent}
    {p : NetPtr} (he : m.world.heap.bevs b = some e)
    (hp : m.world.frontendHandlerMgr.handlerPool.lookup e.fd = some p)
    (hrefused : World.refusesAt app m.world.svcMode
      (e.input.take m.world.frontendHandlerMgr.recvBuffer.size) 0
      (msgDecoder.cuts (e.input.take m.world.frontendHandlerMgr.recvBuffer.size)) = true)
    (hm : onFrontEndMsg app m b = some m') : m'.world.heap.nets p = none := by
  obtain ⟨n, _, _, hl, _⟩ := h.frontEntry hp
  have hget : m.world.frontendHandlerMgr.getHandlerByEvent m.world.heap b = some p := by
    rw [NetHandlerMgr.getHandlerByEvent, World.getfd_of_bev he, hp]
  rw [onFrontEndMsg, he] at hm
  dsimp only at hm
  rw [hget] at hm
  dsimp only at hm
  generalize e.input.take m.world.frontendHandlerMgr.recvBuffer.size = buf at hrefused hm
  have hloop := frameLoop_eq (frontEndBody app p buf) buf
    (show buf.length - 0 < buf.length + 1 by omega) (m.touch .frontEnd p)
  obtain ⟨m₁, elapsed, hfold, hgone⟩ := gone_foldFrames (m := m.touch .frontEnd p) h hin app
    (h.heap.netLt hl.net) (fun _ _ => hp) buf hrefused
  rw [List.drop_zero, hfold] at hloop
  rw [hloop] at hm
  obtain rfl := Option.some.inj hm
  exact hgone

/-- A frontend whose request is refused is gone after the chunk. -/
theorem gone_refused {m m' : Monitor σ γ} (h : m.world.Ok)
    (hin : m.world.frontendHandlerMgr.PointsInside) (app : App σ γ) {b : BevPtr}
    {chunk : List UInt8} {p : NetPtr} (hp : m.world.refused app b chunk = some p)
    (hm : arrive app .frontEnd b m chunk = some m') :
    ¬ m.world.Gone p ∧ m'.world.Gone p := by
  obtain ⟨e, he, hp⟩ := Option.bind_eq_some_iff.mp hp
  obtain ⟨q, hq, hp⟩ := Option.bind_eq_some_iff.mp hp
  dsimp only at hp
  split_ifs at hp with hrefused
  obtain rfl := Option.some.inj hp
  obtain ⟨_, ds, hrun, hds⟩ := handled_arrive h hin app .frontEnd b chunk
  obtain rfl := Option.some.inj (hrun.symm.trans hm)
  refine ⟨World.not_gone_of_lookup h hq, World.gone_of_lookup h hds.onward hq ?_⟩
  have hadd := World.onward_setBev h hin he
    (show ({ e with input := e.input ++ chunk } : BufferEvent).fd = e.fd from rfl)
  have hself : (m.world.heap.setBev b { e with input := e.input ++ chunk }).bevs b =
      some { e with input := e.input ++ chunk } := Function.update_self _ _ _
  unfold arrive at hm
  rw [he] at hm
  exact nets_onFrontEndMsg_refused (m := m.goTo { m.world with
    heap := m.world.heap.setBev b { e with input := e.input ++ chunk } })
    hadd.ok hadd.inside app hself hq hrefused hm

end Monitor

/-! ## What the records of a run say -/

/-- The connection an entry is about. -/
def LifeEvent.net : LifeEvent → NetPtr
  | .connected p | .closeCalled p _ | .removed p _ => p

/-- The entry is about the end of this connection. -/
def LifeEvent.ends (p : NetPtr) : LifeEvent → Bool
  | .connected _ => false
  | .closeCalled q _ | .removed q _ => q = p

theorem LifeEvent.net_of_ends {p : NetPtr} {e : LifeEvent} (h : e.ends p = true) : e.net = p := by
  cases e with
  | connected q => cases h
  | closeCalled q live => exact of_decide_eq_true h
  | removed q cause => exact of_decide_eq_true h

/-- The entries about the end of a connection. -/
def endOf (life : List LifeEvent) (p : NetPtr) : List LifeEvent := life.filter (·.ends p)

theorem endOf_append (life new : List LifeEvent) (p : NetPtr) :
    endOf (life ++ new) p = endOf life p ++ endOf new p := List.filter_append ..

theorem endOf_eq_nil {new : List LifeEvent} {p : NetPtr} (h : ∀ e ∈ new, e.net ≠ p) :
    endOf new p = [] :=
  List.filter_eq_nil_iff.mpr fun e he hends => h e he (LifeEvent.net_of_ends hends)

theorem removed_mem_endOf {life : List LifeEvent} {p : NetPtr} {cause : RemovalCause} :
    .removed p cause ∈ endOf life p ↔ .removed p cause ∈ life := by
  simp [endOf, LifeEvent.ends]

/-- One call of `OnFrontEndClose`, while the `EasyNet` was there, and then the removal. -/
def ClosedOnce (life : List LifeEvent) (p : NetPtr) : Prop :=
  ∃ cause, endOf life p = [.closeCalled p true, .removed p cause]

/-- So it was for every frontend that `OnFrontEndConnect` was called for and that the framework
removed. -/
def ClosesAnnounced (life : List LifeEvent) : Prop :=
  ∀ p cause, .connected p ∈ life → .removed p cause ∈ life → ClosedOnce life p

/-- The removals among the entries `new` that follow `life` were announced by entries in `new`. -/
def AnnouncesNew (life new : List LifeEvent) : Prop :=
  ∀ p cause, .connected p ∈ life ++ new → .removed p cause ∈ new → ClosedOnce new p

/-- Entries about connections whose end is not in the record yet. -/
theorem closesAnnounced_append {life new : List LifeEvent} (h : ClosesAnnounced life)
    (hnew : ∀ e ∈ new, endOf life e.net = []) :
    ClosesAnnounced (life ++ new) ↔ AnnouncesNew life new := by
  have hfirst : ∀ {p cause}, .removed p cause ∈ new → endOf (life ++ new) p = endOf new p := by
    intro p cause hmem
    have hnone : endOf life p = [] := hnew _ hmem
    rw [endOf_append, hnone, List.nil_append]
  constructor
  · intro hall p cause hconnected hremoved
    have hclosed := hall p cause hconnected (List.mem_append_right _ hremoved)
    rwa [ClosedOnce, hfirst hremoved] at hclosed
  · intro hall p cause hconnected hremoved
    rcases List.mem_append.mp hremoved with hold | hremoved
    · have hother : ∀ e ∈ new, e.net ≠ p := by
        rintro e he rfl
        have hmem := removed_mem_endOf.mpr hold
        rw [hnew e he] at hmem
        cases hmem
      have hconnected : .connected p ∈ life :=
        (List.mem_append.mp hconnected).resolve_right fun hmem => hother _ hmem rfl
      rw [ClosedOnce, endOf_append, endOf_eq_nil hother, List.append_nil]
      exact h p cause hconnected hold
    · rw [ClosedOnce, hfirst hremoved]
      exact hall p cause hconnected hremoved

theorem announcesNew_of_none {life new : List LifeEvent}
    (hnone : ∀ p cause, .removed p cause ∉ new) : AnnouncesNew life new :=
  fun p cause _ hremoved => absurd hremoved (hnone p cause)

theorem announcesNew_closed (life : List LifeEvent) (p : NetPtr) (cause : RemovalCause) :
    AnnouncesNew life [.closeCalled p true, .removed p cause] := by
  intro q c _ hremoved
  rcases List.mem_cons.mp hremoved with heq | hremoved
  · cases heq
  · cases List.mem_singleton.mp hremoved
    exact ⟨cause, by simp [endOf, LifeEvent.ends]⟩

/-- Removals without a call: none of the frontends may have been announced to the application. -/
theorem announcesNew_map_removed (life : List LifeEvent) (ps : List NetPtr)
    (cause : RemovalCause) :
    AnnouncesNew life (ps.map (.removed · cause)) ↔ ∀ p ∈ ps, .connected p ∉ life := by
  constructor
  · intro hall p hp hconnected
    obtain ⟨c, heq⟩ := hall p cause (List.mem_append_left _ hconnected) (List.mem_map_of_mem hp)
    have hmem : .closeCalled p true ∈ endOf (ps.map (.removed · cause)) p := by
      rw [heq]
      exact List.mem_cons_self
    simp [endOf] at hmem
  · intro hall p c hconnected hremoved
    obtain ⟨q, hq, heq⟩ := List.mem_map.mp hremoved
    cases heq
    rcases List.mem_append.mp hconnected with hconnected | hmem
    · exact absurd hconnected (hall p hq)
    · simp at hmem

namespace FrameRun

/-! ## What an event adds to the record -/

/-- The entries that a step adds. -/
def recorded (app : FrontEndApp σ γ) (setting : Setting) (s : FrameRun σ γ) :
    FrameEvent → List LifeEvent
  | .connect _ bevOk callocOk =>
    if bevOk && callocOk then [.connected s.world.heap.nextNet] else []
  | .arrive .frontEnd b chunk =>
    (s.world.refused app.toApp b chunk).toList.map (.removed · .undecodable)
  | .socketEvent .frontEnd b events => s.world.closed app b events
  | .tick now code => ((s.world.atWalk app now code).kicked setting now).map (.removed · .limit)
  | _ => []

/-- The event removes no frontend that `OnFrontEndConnect` was called for, other than for an error
or the end of its stream: no request of one is refused, and the walk finds none over a limit. -/
def NoSilentRemoval (app : FrontEndApp σ γ) (setting : Setting) (s : FrameRun σ γ) :
    FrameEvent → Prop
  | .arrive .frontEnd b chunk =>
    ∀ p ∈ s.world.refused app.toApp b chunk, .connected p ∉ s.life
  | .tick now code =>
    ∀ p ∈ (s.world.atWalk app now code).kicked setting now, .connected p ∉ s.life
  | _ => True

/-- What the record of a run says has ended is deleted. -/
structure Recorded (s : FrameRun σ γ) : Prop where
  sound : s.Sound
  fds : s.world.heap.FdsOk
  gone : ∀ en ∈ s.life, ∀ p, en.ends p = true → s.world.Gone p

theorem recorded_start (app : σ) (fate : Nat → Bool) (frontRecv backRecv : RapBuffer)
    (svcMode : SvcMode) (now : Int) :
    Recorded (start (γ := γ) app fate frontRecv backRecv svcMode now) where
  sound := sound_start app fate frontRecv backRecv svcMode now
  fds := nofun
  gone := nofun

variable [Inhabited γ] {app : FrontEndApp σ γ} {setting : Setting} {s s' : FrameRun σ γ}

theorem life_step {e : FrameEvent} (hs : step app setting s e = some s') :
    s'.life = s.life ++ recorded app setting s e := by
  cases e with
  | connect fd bevOk callocOk =>
    rw [step] at hs
    by_cases hfd : s.world.FdUnused fd
    · rw [if_pos hfd] at hs
      cases hs
      rfl
    · rw [if_neg hfd] at hs
      cases hs
  | arrive side b chunk =>
    cases side with
    | frontEnd =>
      obtain ⟨m, _, rfl⟩ := Option.map_eq_some_iff.mp hs
      rfl
    | backEnd =>
      obtain ⟨m, _, rfl⟩ := Option.map_eq_some_iff.mp hs
      exact (List.append_nil _).symm
  | socketEvent side b events => cases side <;> cases hs <;> rfl
  | tick now code =>
    cases hs
    rfl
  | code i =>
    cases hs
    rfl

/-- Only a connection that is opened or refused stops an event, and no removal does. -/
theorem step_isSome_of_removal (h : s.Sound) {e : FrameEvent}
    (he : ¬ NoSilentRemoval app setting s e) : (step app setting s e).isSome := by
  cases e with
  | arrive side b chunk =>
    cases side with
    | frontEnd =>
      obtain ⟨m, _, hm, _⟩ := Monitor.handled_arrive h.ok h.inside app.toApp .frontEnd b chunk
      rw [step, hm]
      rfl
    | backEnd => exact absurd trivial he
  | tick now code => rfl
  | connect fd bevOk callocOk => exact absurd trivial he
  | socketEvent side b events => cases side <;> exact absurd trivial he
  | code i => exact absurd trivial he

/-- An entry is about a frontend that was not deleted before, and after its end it is. -/
theorem gone_recorded (h : s.Sound) (hfds : s.world.heap.FdsOk) {e : FrameEvent}
    (hs : step app setting s e = some s') {en : LifeEvent}
    (hen : en ∈ recorded app setting s e) :
    ¬ s.world.Gone en.net ∧ ∀ p, en.ends p = true → s'.world.Gone p := by
  have hone : ∀ {p}, (¬ s.world.Gone p ∧ s'.world.Gone p) → en.net = p →
      ¬ s.world.Gone en.net ∧ ∀ p, en.ends p = true → s'.world.Gone p := by
    rintro p ⟨hnot, hgone⟩ rfl
    exact ⟨hnot, fun p hends => LifeEvent.net_of_ends hends ▸ hgone⟩
  cases e with
  | connect fd bevOk callocOk =>
    rw [recorded] at hen
    split_ifs at hen
    · obtain rfl := List.mem_singleton.mp hen
      exact ⟨fun hgone => lt_irrefl _ hgone.1, fun p hends => by cases hends⟩
    · cases hen
  | arrive side b chunk =>
    cases side with
    | frontEnd =>
      obtain ⟨m, hm, rfl⟩ := Option.map_eq_some_iff.mp hs
      obtain ⟨p, hp, rfl⟩ := List.mem_map.mp hen
      exact hone (Monitor.gone_refused h.ok h.inside app.toApp (Option.mem_toList.mp hp) hm) rfl
    | backEnd => cases hen
  | socketEvent side b events =>
    cases side with
    | frontEnd =>
      cases hs
      obtain hnil | ⟨p, hnot, hgone, hlife⟩ :=
        World.closed_cases h.ok h.inside hfds app b events
      · rw [recorded, hnil] at hen
        cases hen
      · refine hone ⟨hnot, hgone⟩ ?_
        rw [recorded] at hen
        obtain hlife | hlife := hlife <;> rw [hlife] at hen
        · obtain rfl := List.mem_singleton.mp hen
          rfl
        · rcases List.mem_cons.mp hen with rfl | hen
          · rfl
          · obtain rfl := List.mem_singleton.mp hen
            rfl
    | backEnd => cases hen
  | tick now code =>
    have hwalk := (quiet_atWalk h.ok h.inside app now code).1
    cases hs
    obtain ⟨p, hp, rfl⟩ := List.mem_map.mp hen
    obtain ⟨hnot, hgone⟩ := World.gone_kicked hwalk.ok hwalk.inside now hp
    exact hone ⟨fun hbefore => hnot (hbefore.onward hwalk), hgone⟩ rfl
  | code i => cases hen

theorem Recorded.step (h : s.Recorded) {e : FrameEvent}
    (hs : FrameRun.step app setting s e = some s') : s'.Recorded where
  sound := h.sound.step hs
  fds := by
    by_cases he : ∃ b events, e = .socketEvent .backEnd b events
    · obtain ⟨b, events, rfl⟩ := he
      cases hs
      intro c f hc
      exact h.fds c f ((congrFun (s.world.bevs_onBackEndSocketEvent b events) c).symm.trans hc)
    · exact Heap.handlerRule_fdsOk.step (fun b events heq => he ⟨b, events, heq⟩) hs h.fds
  gone := by
    rw [life_step hs]
    intro en hen p hends
    rcases List.mem_append.mp hen with hold | hnew
    · exact (h.gone en hold p hends).onward (step_spec h.sound hs).1
    · exact (gone_recorded h.sound h.fds hs hnew).2 p hends

/-- One event: the record stays `ClosesAnnounced` unless a frontend is removed in silence. -/
theorem Recorded.closesAnnounced_step (h : s.Recorded) (hlife : ClosesAnnounced s.life)
    {e : FrameEvent} (hs : FrameRun.step app setting s e = some s') :
    ClosesAnnounced s'.life ↔ NoSilentRemoval app setting s e := by
  have hfresh : ∀ en ∈ recorded app setting s e, endOf s.life en.net = [] := by
    intro en hen
    refine List.filter_eq_nil_iff.mpr fun old hold hends => ?_
    exact (gone_recorded h.sound h.fds hs hen).1 (h.gone old hold _ hends)
  rw [life_step hs, closesAnnounced_append hlife hfresh]
  cases e with
  | connect fd bevOk callocOk =>
    refine iff_true_intro (announcesNew_of_none fun p cause hmem => ?_)
    rw [recorded] at hmem
    split_ifs at hmem
    · cases List.mem_singleton.mp hmem
    · cases hmem
  | arrive side b chunk =>
    cases side with
    | frontEnd =>
      refine (announcesNew_map_removed _ _ .undecodable).trans ?_
      simp only [Option.mem_toList, Option.mem_def, NoSilentRemoval]
    | backEnd => exact iff_true_intro (announcesNew_of_none nofun)
  | socketEvent side b events =>
    cases side with
    | frontEnd =>
      refine iff_true_intro ?_
      rw [recorded]
      obtain hnil | ⟨q, _, _, hone | htwo⟩ :=
        World.closed_cases h.sound.ok h.sound.inside h.fds app b events
      · rw [hnil]
        exact announcesNew_of_none nofun
      · rw [hone]
        exact announcesNew_of_none fun p cause hmem => by cases List.mem_singleton.mp hmem
      · rw [htwo]
        exact announcesNew_closed s.life q .socketEvent
    | backEnd => exact iff_true_intro (announcesNew_of_none nofun)
  | tick now code => exact announcesNew_map_removed _ _ .limit
  | code i => exact iff_true_intro (announcesNew_of_none nofun)

/-- In every state of a run the frontends the framework removed, of those that
`OnFrontEndConnect` was called for, had one call of `OnFrontEndClose` before their end, exactly
when none of them was removed by the walk or for a request that cannot be decoded. -/
theorem closesAnnounced_iff (app : FrontEndApp σ γ) (setting : Setting) (appData : σ)
    (fate : Nat → Bool) (frontRecv backRecv : RapBuffer) (svcMode : SvcMode) (now : Int)
    (ops : List FrameEvent) :
    Run.Always (FrameRun.step app setting) (fun s => ClosesAnnounced s.life)
        (start appData fate frontRecv backRecv svcMode now) ops ↔
      Run.Along (FrameRun.step app setting) (NoSilentRemoval app setting)
        (start appData fate frontRecv backRecv svcMode now) ops :=
  Run.always_iff_along (I := Recorded) (G := fun s => ClosesAnnounced s.life)
    (fun _ _ _ h hs => h.step hs)
    (fun _ _ _ h hlife hs => h.closesAnnounced_step hlife hs)
    (fun _ _ h _ he => step_isSome_of_removal h.sound he)
    (recorded_start appData fate frontRecv backRecv svcMode now) nofun ops

/-- A frontend that sends nothing for longer than the idle limit: the first `Tick` sets the cursor,
the second removes the frontend, and the application is not told. -/
theorem idle_frontend_removed_in_silence : ∃ s : FrameRun (List (List UInt8)) Unit,
    Run.run (FrameRun.step .recorder ⟨10, -1, -1⟩)
      (start [] (fun _ => true) .small .small .normal 0)
      [.connect 7 true true, .tick 1 0, .tick 20 0] = some s ∧
      s.life = [.connected 0, .removed 0 .limit] ∧ ¬ ClosesAnnounced s.life := by
  have hall : (Run.run (FrameRun.step .recorder ⟨10, -1, -1⟩)
      (start (γ := Unit) [] (fun _ => true) .small .small .normal 0)
      [.connect 7 true true, .tick 1 0, .tick 20 0]).map (·.life) =
        some [.connected 0, .removed 0 .limit] := by decide +kernel
  obtain ⟨s, hrun, hlife⟩ := Option.map_eq_some_iff.mp hall
  refine ⟨s, hrun, hlife, fun hannounced => ?_⟩
  rw [hlife] at hannounced
  obtain ⟨cause, heq⟩ := hannounced 0 .limit List.mem_cons_self
    (List.mem_cons_of_mem _ List.mem_cons_self)
  have hend : endOf [.connected 0, .removed 0 .limit] 0 = [.removed 0 .limit] := by decide
  cases hend.symm.trans heq

end FrameRun

end Rapidapp
