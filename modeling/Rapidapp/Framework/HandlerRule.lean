import Rapidapp.Framework.FrameRuns

/-!
# What holds across every handler

The handlers of `framework/rapidapp_framework_imp.cpp`, and any application behind them, work on
the heap through a few operations. `Heap.HandlerRule` lists these: a relation that is a preorder
and holds across each of them holds between the heaps before and after every handler, so that a
fact about all handlers takes one line for each operation. The one thing not on the list is
`ChangeNetStateByEvent`, the only code that sets a `NetState`.
-/

namespace Rapidapp

variable {σ γ : Type}

/-- `R` is a preorder and holds across each operation on the heap that leaves the `NetState` of
the objects there are alone. -/
structure Heap.HandlerRule (R : Heap γ → Heap γ → Prop) : Prop where
  refl : ∀ h, R h h
  trans : ∀ {h h' h''}, R h h' → R h' h'' → R h h''
  setNet : ∀ (h : Heap γ) {p : NetPtr} {n m : EasyNet γ}, h.nets p = some n →
    m.state = n.state → R h (h.setNet p m)
  deleteNet : ∀ (h : Heap γ) (p : NetPtr), R h (h.deleteNet p)
  newEasyNet : ∀ h : Heap γ, R h h.newEasyNet.2
  openNet : ∀ (h : Heap γ) {fd : Int} (type : Int) (state : NetState), 0 ≤ fd →
    R h (World.openNet h fd type state).2
  -- bytes come in and go out, and `bufferevent_free`
  bevs : ∀ {h h' : Heap γ}, h'.nets = h.nets → h'.nextNet = h.nextNet →
    (∀ {b e'}, h'.bevs b = some e' → ∃ e, h.bevs b = some e ∧ e'.fd = e.fd) → R h h'

namespace Heap.HandlerRule

variable {R : Heap γ → Heap γ → Prop}

theorem setBev (hR : HandlerRule R) (h : Heap γ) {b : BevPtr} {e e' : BufferEvent}
    (hb : h.bevs b = some e) (hfd : e'.fd = e.fd) : R h (h.setBev b e') := by
  refine hR.bevs rfl rfl fun {c f} hc => ?_
  by_cases hcb : c = b
  · subst hcb
    have hself : (h.setBev c e').bevs c = some e' := Function.update_self _ _ _
    obtain rfl := Option.some.inj (hself.symm.trans hc)
    exact ⟨e, hb, hfd⟩
  · exact ⟨f, (Function.update_of_ne hcb _ _).symm.trans hc, rfl⟩

theorem destroyUserContext (hR : HandlerRule R) (h : Heap γ) (p : NetPtr) :
    R h (h.destroyUserContext p) := by
  rw [Heap.destroyUserContext]
  split
  · exact hR.refl h
  · next n hn => exact hR.setNet h hn rfl

theorem cleanUp (hR : HandlerRule R) (h : Heap γ) (p : NetPtr) : R h (h.cleanUp p) := by
  rw [Heap.cleanUp]
  split
  · exact hR.refl h
  · next n hn =>
    split
    · exact hR.refl h
    · next b _ =>
      have hfree : R h { h with bevs := Function.update h.bevs b none } := by
        refine hR.bevs rfl rfl fun {c f} hc => ⟨f, ?_, rfl⟩
        have hcb : c ≠ b := by
          rintro rfl
          cases (Function.update_self c none h.bevs).symm.trans hc
        exact (Function.update_of_ne hcb _ _).symm.trans hc
      apply hR.trans hfree
      exact hR.setNet { h with bevs := Function.update h.bevs b none } hn rfl

theorem send (hR : HandlerRule R) (h : Heap γ) (p : NetPtr) (msg : List UInt8) :
    R h (h.send p msg).2 := by
  obtain ⟨out, hw, _⟩ := h.wrote_send p msg
  refine hR.bevs hw.nets hw.nextNet fun {b e'} hb => ?_
  rw [hw.bevs] at hb
  obtain ⟨e, he, rfl⟩ := Option.map_eq_some_iff.mp hb
  exact ⟨e, he, rfl⟩

theorem eraseEntry (hR : HandlerRule R) (m : NetHandlerMgr) (h : Heap γ) (fd : Int)
    (p : NetPtr) : R h (m.eraseEntry h fd p).2 := by
  have hcontext := hR.destroyUserContext h p
  have hclean := hR.cleanUp (h.destroyUserContext p) p
  exact hR.trans (hR.trans hcontext hclean) (hR.deleteNet _ p)

theorem removeHandlerByEvent (hR : HandlerRule R) (m : NetHandlerMgr) (h : Heap γ)
    (b : BevPtr) : R h (m.removeHandlerByEvent h b).2 := by
  rw [NetHandlerMgr.removeHandlerByEvent]
  split
  · exact hR.refl h
  · exact hR.eraseEntry m h _ _

theorem removeHandler (hR : HandlerRule R) (m : NetHandlerMgr) (h : Heap γ) (p : NetPtr) :
    R h (m.removeHandler h p).2 := by
  rw [NetHandlerMgr.removeHandler]
  split
  · exact hR.refl h
  · exact hR.removeHandlerByEvent m h _

end Heap.HandlerRule

namespace World

/-- The heap of a world after a manager and the heap were replaced. -/
@[simp] theorem heap_setMgr (w : World σ γ) (side : Side) (r : NetHandlerMgr × Heap γ) :
    (w.setMgr side r).heap = r.2 := by
  cases side <;> rfl

theorem state_doSomething (setting : Setting) (now : Int) (n : EasyNet γ) :
    (doSomething setting now n).2.state = n.state := by
  unfold doSomething
  dsimp only
  split_ifs <;> rfl

end World

namespace Heap.HandlerRule

variable {R : Heap γ → Heap γ → Prop}

/-! ## Application code -/

theorem destroyNet (hR : HandlerRule R) (w : World σ γ) (side : Side) (net : Option NetPtr) :
    R w.heap (w.destroyNet side net).heap := by
  cases net with
  | none => exact hR.refl w.heap
  | some p =>
    rw [World.destroyNet, World.heap_setMgr]
    exact hR.removeHandler (w.mgr side) w.heap p

theorem createBackEnd (hR : HandlerRule R) (w : World σ γ) (type : Int) {connect : Option Int}
    (hfd : ∀ fd, connect = some fd → 0 ≤ fd) :
    R w.heap (w.createBackEnd type connect).2.heap := by
  obtain ⟨_, heq⟩ | ⟨fd, n, hconnect, hn, heq⟩ := World.createBackEnd_cases w type connect <;>
    rw [heq]
  · exact hR.trans (hR.newEasyNet w.heap) (hR.deleteNet _ _)
  · have hopen := hR.openNet w.heap type .netConnecting (hfd fd hconnect)
    rw [← w.heap_openAt .backEnd] at hopen
    exact hR.trans hopen (hR.setNet _ hn rfl)

theorem setRpcBinded (hR : HandlerRule R) (w : World σ γ) (p : NetPtr) (rpc : RpcPtr) :
    R w.heap (w.setRpcBinded p rpc).heap := by
  rw [World.setRpcBinded]
  split
  · exact hR.refl w.heap
  · next n hn => exact hR.setNet _ hn rfl

theorem apiStep (hR : HandlerRule R) {w w' : World σ γ} (hs : World.ApiStep w w') :
    R w.heap w'.heap := by
  cases hs with
  | app s => exact hR.refl w.heap
  | setUserContext p c =>
    rw [World.setUserContext]
    split
    · exact hR.refl w.heap
    · next n hn =>
      split
      · exact hR.refl w.heap
      · exact hR.setNet _ hn rfl
  | sendToFrontEnd net buf =>
    obtain heq | ⟨p, _, heq⟩ := World.sendToFrontEnd_cases w net buf <;> rw [heq]
    · exact hR.refl w.heap
    · exact hR.send w.heap p buf
  | sendToBackEnd net buf =>
    obtain heq | ⟨p, _, heq | ⟨n, hn, heq⟩⟩ := World.sendToBackEnd_cases w net buf <;> rw [heq]
    · exact hR.refl w.heap
    · exact hR.send w.heap p buf
    · exact hR.trans (hR.send w.heap p buf) (hR.setNet _ hn rfl)
  | destroyNet side net => exact hR.destroyNet w side net
  | createBackEnd type connect hfresh =>
    exact hR.createBackEnd w type fun fd hfd => (hfresh fd hfd).1
  | createRpc type connect rpc hfresh p _ =>
    have hcreate := hR.createBackEnd w type fun fd hfd => (hfresh fd hfd).1
    exact hR.trans hcreate (hR.setRpcBinded _ p rpc)

theorem apiReach (hR : HandlerRule R) {w w' : World σ γ} (hr : World.ApiReach w w') :
    R w.heap w'.heap := by
  induction hr with
  | refl => exact hR.refl w.heap
  | tail _ hs ih => exact hR.trans ih (hR.apiStep hs)

/-! ## The message handlers -/

theorem modifyNet (hR : HandlerRule R) (w : World σ γ) (p : NetPtr) {f : EasyNet γ → EasyNet γ}
    (hf : ∀ n, (f n).state = n.state) : R w.heap (w.modifyNet p f).heap := by
  rw [World.modifyNet]
  split
  · exact hR.refl w.heap
  · next n hn => exact hR.setNet _ hn (hf n)

theorem evbufferDrain (hR : HandlerRule R) (w : World σ γ) (b : BevPtr) (len : Nat) :
    R w.heap (w.evbufferDrain b len).heap := by
  rw [World.evbufferDrain]
  split
  · exact hR.refl w.heap
  · next e he => exact hR.setBev w.heap he rfl

/-- The frame loop keeps what its body keeps. -/
theorem frameLoop (hR : HandlerRule R)
    {body : Nat → Nat → Monitor σ γ → Monitor σ γ × Bool}
    (hbody : ∀ elapsed msglen m, R m.world.heap (body elapsed msglen m).1.world.heap)
    (buf : List UInt8) {fuel elapsed : Nat} {m : Monitor σ γ} {r : Monitor σ γ × Nat × Bool}
    (hloop : Rapidapp.frameLoop body buf fuel elapsed m = some r) :
    R m.world.heap r.1.world.heap := by
  induction fuel generalizing elapsed m with
  | zero => cases hloop
  | succ fuel ih =>
    rw [Rapidapp.frameLoop] at hloop
    split_ifs at hloop with hmore
    · dsimp only at hloop
      split_ifs at hloop with hframe
      · cases hloop
        exact hR.refl _
      · have hone := hbody elapsed
          (CInt.uint64 (getMsgLength (buf.drop elapsed))) m
        split at hloop
        · next m₁ heq =>
          cases hloop
          rw [heq] at hone
          exact hone
        · next m₁ heq =>
          rw [heq] at hone
          exact hR.trans hone (ih hloop)
    · cases hloop
      exact hR.refl _

theorem frontEndBody (hR : HandlerRule R) (app : App σ γ) (p : NetPtr) (buf : List UInt8)
    (elapsed msglen : Nat) (m : Monitor σ γ) :
    R m.world.heap (Monitor.frontEndBody app p buf elapsed msglen m).1.world.heap := by
  obtain ⟨w, hreach, hw, _⟩ | ⟨hw, _⟩ :=
    Monitor.world_frontEndBody app p buf elapsed msglen m <;> rw [hw]
  · exact hR.trans (hR.apiReach hreach) (hR.modifyNet w p fun _ => rfl)
  · exact hR.destroyNet m.world .frontEnd _

theorem onFrontEndMsg (hR : HandlerRule R) (app : App σ γ) {m m' : Monitor σ γ} {b : BevPtr}
    (hmsg : Monitor.onFrontEndMsg app m b = some m') : R m.world.heap m'.world.heap := by
  unfold Monitor.onFrontEndMsg at hmsg
  split at hmsg
  · cases hmsg
    exact hR.refl _
  · dsimp only at hmsg
    split at hmsg
    · cases hmsg
      exact hR.refl _
    · next p _ =>
      split at hmsg
      · cases hmsg
      · next hloop =>
        cases hmsg
        exact hR.frameLoop (hR.frontEndBody app p _) _ hloop
      · next m₁ elapsed hloop =>
        cases hmsg
        have hbody := hR.frameLoop (hR.frontEndBody app p _) _ hloop
        have hdrain := hR.evbufferDrain m₁.world b elapsed
        apply hR.trans (hR.trans hbody hdrain)
        exact hR.modifyNet _ p fun _ => rfl

theorem onBackEndMsg (hR : HandlerRule R) (app : App σ γ) {m m' : Monitor σ γ} {b : BevPtr}
    (hmsg : Monitor.onBackEndMsg app m b = some m') : R m.world.heap m'.world.heap := by
  unfold Monitor.onBackEndMsg at hmsg
  split at hmsg
  · cases hmsg
    exact hR.refl _
  · dsimp only at hmsg
    split at hmsg
    · cases hmsg
      exact hR.refl _
    · next p _ =>
      split at hmsg
      · cases hmsg
      · next m₁ elapsed _ hloop =>
        cases hmsg
        have hbody := hR.frameLoop (fun elapsed msglen m =>
          hR.apiReach (Monitor.reach_backEndBody app p _ elapsed msglen m)) _ hloop
        exact hR.trans hbody (hR.evbufferDrain m₁.world b elapsed)

theorem arrive (hR : HandlerRule R) (app : App σ γ) {side : Side} {b : BevPtr}
    {m m' : Monitor σ γ} {chunk : List UInt8}
    (hmsg : Monitor.arrive app side b m chunk = some m') : R m.world.heap m'.world.heap := by
  unfold Monitor.arrive at hmsg
  split at hmsg
  · cases hmsg
    exact hR.refl _
  · next e he =>
    have hadd := hR.setBev m.world.heap he
      (show ({ e with input := e.input ++ chunk } : BufferEvent).fd = e.fd from rfl)
    cases side with
    | frontEnd => exact hR.trans hadd (hR.onFrontEndMsg app hmsg)
    | backEnd => exact hR.trans hadd (hR.onBackEndMsg app hmsg)

/-! ## The other events of the loop -/

/-- `OnFrontEndConnect` opens a connection of its own, and calls the application. -/
theorem onFrontEndConnect [Inhabited γ] (hR : HandlerRule R)
    {onConnect : NetPtr → World σ γ → World σ γ}
    (hconnect : ∀ p w, World.ApiReach w (onConnect p w)) (w : World σ γ) (fd : Int)
    (bevOk callocOk : Bool) :
    R w.heap (w.onFrontEndConnect onConnect fd bevOk callocOk).heap := by
  have hadd : R w.heap (w.frontendHandlerMgr.addHandlerBySocket w.heap fd 0 bevOk).2.2 := by
    rw [NetHandlerMgr.addHandlerBySocket]
    split_ifs with hneg
    · exact hR.refl w.heap
    · exact hR.openNet w.heap 0 .netEstablished (not_lt.mp hneg)
    · exact hR.trans (hR.newEasyNet w.heap) (hR.deleteNet _ _)
  rw [World.onFrontEndConnect]
  generalize w.frontendHandlerMgr.addHandlerBySocket w.heap fd 0 bevOk = r at hadd ⊢
  rcases r with ⟨net, m, h⟩
  cases net with
  | none => exact hadd
  | some p =>
    dsimp only at hadd ⊢
    rw [Heap.createUserContext]
    cases hp : h.nets p with
    | none => exact hR.trans hadd (hR.removeHandler m h p)
    | some n =>
      dsimp only
      cases callocOk with
      | false => exact hR.trans hadd (hR.removeHandler m h p)
      | true =>
        have hself : ∀ k : EasyNet γ, (h.setNet p k).nets p = some k :=
          fun k => Function.update_self _ _ _
        simp only [if_true, hself]
        have hcontext := hR.setNet h hp
          (show ({ n with userContext := some default } : EasyNet γ).state = n.state from rfl)
        have htime := hR.setNet (h.setNet p { n with userContext := some default })
          (hself _) (show ({ n with
            userContext := some default, lastActiveTimestamp := w.now } : EasyNet γ).state =
              n.state from rfl)
        apply hR.trans (hR.trans (hR.trans hadd hcontext) htime)
        exact hR.apiReach (hconnect p (w.setMgr .frontEnd (m, _)))

theorem closeFrontEnd (hR : HandlerRule R) {onClose : NetPtr → World σ γ → World σ γ}
    (hclose : ∀ p w, World.ApiReach w (onClose p w)) (w : World σ γ) (b : BevPtr) :
    R w.heap (w.closeFrontEnd onClose b).heap := by
  have hremove : ∀ w' : World σ γ, R w'.heap
      (w'.setMgr .frontEnd (w'.frontendHandlerMgr.removeHandlerByEvent w'.heap b)).heap := by
    intro w'
    rw [World.heap_setMgr]
    exact hR.removeHandlerByEvent w'.frontendHandlerMgr w'.heap b
  rw [World.closeFrontEnd]
  cases w.frontendHandlerMgr.getHandlerByEvent w.heap b with
  | none => exact hremove w
  | some p => exact hR.trans (hR.apiReach (hclose p w)) (hremove _)

theorem onFrontEndSocketEvent (hR : HandlerRule R) {onClose : NetPtr → World σ γ → World σ γ}
    (hclose : ∀ p w, World.ApiReach w (onClose p w)) (w : World σ γ) (b : BevPtr)
    (events : BevEvents) : R w.heap (w.onFrontEndSocketEvent onClose b events).heap := by
  rw [World.onFrontEndSocketEvent]
  split_ifs
  · exact hR.closeFrontEnd hclose w b
  · exact hR.refl w.heap
  · exact hR.closeFrontEnd hclose w b
  · exact hR.refl w.heap

theorem walkEntry (hR : HandlerRule R) {act : EasyNet γ → Bool × EasyNet γ}
    (hact : ∀ n, (act n).2.state = n.state) (w : World σ γ) (fd : Int) :
    R w.heap (w.walkEntry act fd).heap := by
  rw [World.walkEntry]
  split
  · exact hR.refl w.heap
  · split
    · exact hR.refl w.heap
    · next n hn =>
      have hset := hR.setNet w.heap hn (hact n)
      split
      · next heq =>
        rw [heq] at hset
        rw [World.heap_setMgr]
        exact hR.trans hset (hR.eraseEntry _ _ _ _)
      · next heq =>
        rw [heq] at hset
        exact hset

theorem walkLoop (hR : HandlerRule R) {act : EasyNet γ → Bool × EasyNet γ}
    (hact : ∀ n, (act n).2.state = n.state) (k : Nat) (w : World σ γ) :
    R w.heap (w.walkLoop act k).heap := by
  induction k generalizing w with
  | zero => exact hR.refl w.heap
  | succ k ih =>
    rw [World.walkLoop]
    split
    · exact hR.refl w.heap
    · next fd _ => exact hR.trans (hR.walkEntry hact w fd) (ih _)

theorem tick (hR : HandlerRule R) (w : World σ γ) (now : Int) (setting : Setting) :
    R w.heap (w.tick now setting).heap := by
  have hnow : R w.heap { w with now := now }.heap := hR.refl w.heap
  rw [World.tick]
  split_ifs
  · apply hR.trans hnow
    have hloop := hR.walkLoop (World.state_doSomething setting now) kSingleRoundLoopNum
      { w with now := now }
    rw [World.walkThrough]
    dsimp only
    split <;> exact hloop
  · exact hnow

/-- Every event but the socket event of a backend, which sets a state. -/
theorem step [Inhabited γ] (hR : HandlerRule R) {app : FrontEndApp σ γ} {setting : Setting}
    {s s' : FrameRun σ γ} {e : FrameEvent} (he : ∀ b events, e ≠ .socketEvent .backEnd b events)
    (hs : FrameRun.step app setting s e = some s') : R s.world.heap s'.world.heap := by
  cases e with
  | connect fd bevOk callocOk =>
    rw [FrameRun.step] at hs
    by_cases hfd : s.world.FdUnused fd
    · rw [if_pos hfd] at hs
      cases hs
      exact hR.onFrontEndConnect app.onFrontEndConnect_api s.world fd bevOk callocOk
    · rw [if_neg hfd] at hs
      cases hs
  | arrive side b chunk =>
    cases side with
    | frontEnd =>
      obtain ⟨m, hm, rfl⟩ := Option.map_eq_some_iff.mp hs
      exact hR.arrive app.toApp hm
    | backEnd =>
      obtain ⟨m, hm, rfl⟩ := Option.map_eq_some_iff.mp hs
      exact hR.arrive app.toApp hm
  | socketEvent side b events =>
    cases side with
    | frontEnd =>
      cases hs
      exact hR.onFrontEndSocketEvent app.onFrontEndClose_api s.world b events
    | backEnd => exact absurd rfl (he b events)
  | tick now code =>
    cases hs
    have hcode := hR.apiReach (app.code_api code { s.world with now := now })
    exact hR.trans hcode (hR.tick _ now setting)
  | code i =>
    cases hs
    exact hR.apiReach (app.code_api i s.world)

end Heap.HandlerRule

end Rapidapp
