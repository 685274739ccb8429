import Rapidapp.Framework.Onward

/-!
# Runs of the framework

The events the loop of `AppFrameWork` reacts to (`framework/rapidapp_framework_imp.cpp`): a new
frontend, bytes on a connection, a socket event, a `Tick`; and application code run at other
times. A run also records the packages of each frame, that is between two `Tick`s, and what
the application is told about its frontends.
-/

namespace Rapidapp

variable {σ γ : Type}

/-- An application with the callbacks about its frontends, and with the code it runs outside of
the callbacks modelled here (`OnInit`, `OnUpdate`, `OnTimer` and so on). -/
structure FrontEndApp (σ γ : Type) extends App σ γ where
  onFrontEndConnect : NetPtr → World σ γ → World σ γ
  onFrontEndConnect_api : ∀ p w, World.ApiReach w (onFrontEndConnect p w)
  onFrontEndClose : NetPtr → World σ γ → World σ γ
  onFrontEndClose_api : ∀ p w, World.ApiReach w (onFrontEndClose p w)
  code : Nat → World σ γ → World σ γ
  code_api : ∀ i w, World.ApiReach w (code i w)

/-- An application that keeps a list of the payloads it is given, and does nothing else. -/
def FrontEndApp.recorder : FrontEndApp (List (List UInt8)) Unit where
  toApp := .recorder
  onFrontEndConnect _ w := w
  onFrontEndConnect_api _ _ := .refl
  onFrontEndClose _ w := w
  onFrontEndClose_api _ _ := .refl
  code _ w := w
  code_api _ _ := .refl

/-- An event of the loop. The choices of the environment as in `World.onFrontEndConnect`; `code`
in a `Tick` is what `OnUpdate` and the timers do. -/
inductive FrameEvent where
  | connect (fd : Int) (bevOk callocOk : Bool)
  | arrive (side : Side) (b : BevPtr) (chunk : List UInt8)
  | socketEvent (side : Side) (b : BevPtr) (events : BevEvents)
  | tick (now : Int) (code : Nat)
  | code (i : Nat)
  deriving DecidableEq

/-- Why the framework removes a frontend: a socket error or the end of the stream, a limit found
exceeded by the walk, or a request that cannot be decoded. -/
inductive RemovalCause where
  | socketEvent
  | limit
  | undecodable
  deriving DecidableEq

/-- What happens to a frontend: `OnFrontEndConnect` or `OnFrontEndClose` is called for it, the
latter with whether its `EasyNet` is there at the time; the framework removes it. -/
inductive LifeEvent where
  | connected (p : NetPtr)
  | closeCalled (p : NetPtr) (live : Bool)
  | removed (p : NetPtr) (cause : RemovalCause)
  deriving DecidableEq

/-- The state of a run with its ghost records. `handed` of the monitor are the packages of the
current frame, `past` those of the frames before. -/
structure FrameRun (σ γ : Type) where
  monitor : Monitor σ γ
  past : List (List Dispatch)
  life : List LifeEvent

namespace World

/-- Some request among these frames is refused. -/
def refusesAt (app : App σ γ) (mode : SvcMode) (buf : List UInt8) : Nat → List Nat → Bool
  | _, [] => false
  | elapsed, msglen :: rest =>
    !app.goesOn .frontEnd mode (payloadBytes buf elapsed msglen) (payloadSize msglen) ||
      refusesAt app mode buf (elapsed + msglen) rest

/-- The frontend that `OnFrontEndMsg` removes after a chunk, for a request it cannot decode. -/
def refused (app : App σ γ) (w : World σ γ) (b : BevPtr) (chunk : List UInt8) : Option NetPtr :=
  (w.heap.bevs b).bind fun e =>
    (w.frontendHandlerMgr.handlerPool.lookup e.fd).bind fun p =>
      let buf := (e.input ++ chunk).take w.frontendHandlerMgr.recvBuffer.size
      if refusesAt app w.svcMode buf 0 (msgDecoder.cuts buf) then some p else none

/-- The state in which `Tick` comes to `WalkThrough`: the clock was read, and `OnUpdate` and the
timers have run. -/
def atWalk (app : FrontEndApp σ γ) (now : Int) (code : Nat) (w : World σ γ) : World σ γ :=
  app.code code { w with now := now }

/-- The frontends that `WalkThrough` removes. -/
def kicked (setting : Setting) (now : Int) (w : World σ γ) : List NetPtr :=
  (w.frontendHandlerMgr.cursorKeys.take kSingleRoundLoopNum).filterMap fun fd =>
    (w.frontendHandlerMgr.handlerPool.lookup fd).bind fun p =>
      (w.heap.nets p).bind fun n => if (doSomething setting now n).1 then some p else none

/-- What happens to a frontend on a socket event. -/
def closed (app : FrontEndApp σ γ) (b : BevPtr) (events : BevEvents) (w : World σ γ) :
    List LifeEvent :=
  if events.error || !events.timeout && events.eof then
    match w.frontendHandlerMgr.getHandlerByEvent w.heap b with
    | none => []
    | some p =>
      .closeCalled p (w.heap.nets p).isSome ::
        -- `OnFrontEndClose` may have called `DestroyFrontEnd` itself
        if ((app.onFrontEndClose p w).heap.nets p).isSome then [.removed p .socketEvent] else []
  else []

end World

namespace FrameRun

/-- The state of the framework. -/
abbrev world (s : FrameRun σ γ) : World σ γ := s.monitor.world

/-- After `AppFrameWork::Init`. -/
def start (app : σ) (fate : Nat → Bool) (frontRecv backRecv : RapBuffer) (svcMode : SvcMode)
    (now : Int) : FrameRun σ γ where
  monitor := ⟨World.start app fate frontRecv backRecv svcMode now, [], []⟩
  past := []
  life := []

/-- The packages of every frame so far, those of the current one last. -/
def frames (s : FrameRun σ γ) : List (List Dispatch) := s.past ++ [s.monitor.handed]

/-- The framework goes on in another state, and this happens to frontends. -/
def goTo (s : FrameRun σ γ) (w : World σ γ) (life : List LifeEvent) : FrameRun σ γ :=
  { s with monitor := s.monitor.goTo w, life := s.life ++ life }

/-- One event. The kernel opens no socket under a descriptor in use. -/
def step [Inhabited γ] (app : FrontEndApp σ γ) (setting : Setting) (s : FrameRun σ γ) :
    FrameEvent → Option (FrameRun σ γ)
  | .connect fd bevOk callocOk =>
    if s.world.FdUnused fd then
      some (s.goTo (s.world.onFrontEndConnect app.onFrontEndConnect fd bevOk callocOk)
        (if bevOk && callocOk then [.connected s.world.heap.nextNet] else []))
    else none
  | .arrive .frontEnd b chunk =>
    (Monitor.arrive app.toApp .frontEnd b s.monitor chunk).map fun m =>
      { s with
        monitor := m
        life := s.life ++
          (s.world.refused app.toApp b chunk).toList.map (.removed · .undecodable) }
  | .arrive .backEnd b chunk =>
    (Monitor.arrive app.toApp .backEnd b s.monitor chunk).map fun m => { s with monitor := m }
  | .socketEvent .frontEnd b events =>
    some (s.goTo (s.world.onFrontEndSocketEvent app.onFrontEndClose b events)
      (s.world.closed app b events))
  | .socketEvent .backEnd b events => some (s.goTo (s.world.onBackEndSocketEvent b events) [])
  | .tick now code =>
    let w := s.world.atWalk app now code
    some
      { monitor := { s.monitor with world := w.tick now setting, handed := [] }
        past := s.frames
        life := s.life ++ (w.kicked setting now).map (.removed · .limit) }
  | .code i => some (s.goTo (app.code i s.world) [])

/-- What holds in every state of a run. -/
structure Sound (s : FrameRun σ γ) : Prop where
  ok : s.world.Ok
  inside : s.world.frontendHandlerMgr.PointsInside

theorem sound_start (app : σ) (fate : Nat → Bool) (frontRecv backRecv : RapBuffer)
    (svcMode : SvcMode) (now : Int) :
    Sound (start (γ := γ) app fate frontRecv backRecv svcMode now) :=
  ⟨World.ok_start _ _ _ _ _ _, NetHandlerMgr.PointsInside.ofEnd rfl⟩

theorem quiet_atWalk {w : World σ γ} (h : w.Ok) (hin : w.frontendHandlerMgr.PointsInside)
    (app : FrontEndApp σ γ) (now : Int) (code : Nat) :
    World.Quiet w (w.atWalk app now code) := by
  have hnow : World.Quiet w { w with now := now } :=
    ⟨.of_similar h (.of_eq rfl fun side => by cases side <;> rfl) hin, .of_nets_eq rfl⟩
  exact hnow.trans h ((app.code_api code _).quiet hnow.1.ok hnow.1.inside)

theorem onward_tick {w : World σ γ} (h : w.Ok) (hin : w.frontendHandlerMgr.PointsInside)
    (now : Int) (setting : Setting) : World.Onward w (w.tick now setting) := by
  have hnow : World.Onward w { w with now := now } :=
    .of_similar h (.of_eq rfl fun side => by cases side <;> rfl) hin
  rw [World.tick]
  split_ifs
  · exact hnow.trans h (World.onward_walkThrough
      (World.harmless_doSomething setting now).hevent hnow.ok hnow.inside)
  · exact hnow

/-- An event other than a `Tick` adds to the packages of the frame, and counts no more than
these. -/
theorem step_spec [Inhabited γ] {app : FrontEndApp σ γ} {setting : Setting} {s s' : FrameRun σ γ}
    (h : s.Sound) {e : FrameEvent} (hs : step app setting s e = some s') :
    World.Onward s.world s'.world ∧
      ((∃ now code, e = .tick now code) ∨ s'.past = s.past ∧ ∃ ds,
        s'.monitor.handed = s.monitor.handed ++ ds ∧
        World.Counted (pkgsOf ds) (bytesOf ds) s.world s'.world) := by
  have hquiet : ∀ w life, World.Quiet s.world w → s.goTo w life = s' →
      World.Onward s.world s'.world ∧
        ((∃ now code, e = .tick now code) ∨ s'.past = s.past ∧ ∃ ds,
          s'.monitor.handed = s.monitor.handed ++ ds ∧
          World.Counted (pkgsOf ds) (bytesOf ds) s.world s'.world) := by
    rintro w life hw rfl
    exact ⟨hw.1, .inr ⟨rfl, [], (List.append_nil _).symm, hw.2⟩⟩
  have harrive : ∀ side b chunk m life, Monitor.arrive app.toApp side b s.monitor chunk = some m →
      { s with monitor := m, life := life } = s' → World.Onward s.world s'.world ∧
        ((∃ now code, e = .tick now code) ∨ s'.past = s.past ∧ ∃ ds,
          s'.monitor.handed = s.monitor.handed ++ ds ∧
          World.Counted (pkgsOf ds) (bytesOf ds) s.world s'.world) := by
    rintro side b chunk m life hm rfl
    obtain ⟨m', ds, hrun, hds⟩ := Monitor.handled_arrive h.ok h.inside app.toApp side b chunk
    obtain rfl := Option.some.inj (hrun.symm.trans hm)
    exact ⟨hds.onward, .inr ⟨rfl, ds, hds.handed, hds.counted⟩⟩
  cases e with
  | connect fd bevOk callocOk =>
    rw [step] at hs
    by_cases hfd : s.world.FdUnused fd
    · rw [if_pos hfd] at hs
      exact hquiet _ _ (World.quiet_onFrontEndConnect app.onFrontEndConnect_api h.ok h.inside
        (World.FdUnused.freshFd h.ok hfd) bevOk callocOk) (Option.some.inj hs)
    · rw [if_neg hfd] at hs
      cases hs
  | arrive side b chunk =>
    cases side with
    | frontEnd =>
      obtain ⟨m, hm, heq⟩ := Option.map_eq_some_iff.mp hs
      exact harrive _ _ _ m _ hm heq
    | backEnd =>
      obtain ⟨m, hm, heq⟩ := Option.map_eq_some_iff.mp hs
      exact harrive _ _ _ m _ hm heq
  | socketEvent side b events =>
    cases side with
    | frontEnd =>
      exact hquiet _ _ (World.quiet_onFrontEndSocketEvent app.onFrontEndClose_api h.ok h.inside b
        events) (Option.some.inj hs)
    | backEnd =>
      exact hquiet _ _ (World.quiet_onBackEndSocketEvent h.ok h.inside b events)
        (Option.some.inj hs)
  | tick now code =>
    obtain rfl := Option.some.inj hs
    have hwalk := quiet_atWalk h.ok h.inside app now code
    exact ⟨hwalk.1.trans h.ok (onward_tick hwalk.1.ok hwalk.1.inside now setting),
      .inl ⟨now, code, rfl⟩⟩
  | code i =>
    exact hquiet _ _ ((app.code_api i s.world).quiet h.ok h.inside) (Option.some.inj hs)

theorem Sound.step [Inhabited γ] {app : FrontEndApp σ γ} {setting : Setting} {s s' : FrameRun σ γ}
    (h : s.Sound) {e : FrameEvent} (hs : FrameRun.step app setting s e = some s') : s'.Sound :=
  have honward := (step_spec h hs).1
  ⟨honward.ok, honward.inside⟩

end FrameRun

end Rapidapp
