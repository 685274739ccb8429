import Rapidapp.Framework.FrameCuts
import Rapidapp.Framework.HandlerRule

/-!
# Connections that are up

`Wired` is an established connection with what was written to it so far. When the writes of
libevent do not fail, `EasyNet::Send` appends one frame. `Changes` is what everything that is not
about a connection does to it: it may be taken away, but as long as it is there its state and its
context are as they were. Bytes that come in for it may change its input (`Spares`); everything
else leaves both of its buffers alone (`Leaves`).
-/

namespace Rapidapp

variable {σ γ : Type}

namespace World

/-- The connection is established, and this was written to it so far. -/
def Wired (w : World σ γ) (c : NetPtr) (out : List UInt8) : Prop :=
  ∃ n b e, w.heap.Live c n b e ∧ n.state = .netEstablished ∧ e.output = out

/-- The connection is there, on this descriptor and under this number. -/
def At (w : World σ γ) (c : NetPtr) (fd nid : Int) : Prop :=
  ∃ n b e, w.heap.Live c n b e ∧ e.fd = fd ∧ n.nid = nid

/-- `w'` may have lost the connection `c` of `w`. As long as it is there, nothing else about it has
changed but its `bufferevent`, as `R` says. -/
structure Changes (R : BufferEvent → BufferEvent → Prop) (c : NetPtr) (w w' : World σ γ) : Prop where
  nextNet : w.heap.nextNet ≤ w'.heap.nextNet
  fate : w'.heap.fate = w.heap.fate
  gone : c < w.heap.nextNet → w.heap.nets c = none → w'.heap.nets c = none
  net : ∀ {n n'}, w.heap.nets c = some n → w'.heap.nets c = some n' →
    n'.hevent = n.hevent ∧ n'.nid = n.nid ∧ n'.state = n.state ∧ n'.userContext = n.userContext
  bev : ∀ {n n' b e}, w.heap.Live c n b e → w'.heap.nets c = some n' →
    ∃ e', w'.heap.bevs b = some e' ∧ R e e'

/-- The descriptor and the output are as they were. -/
def SameOutput (e e' : BufferEvent) : Prop := e'.fd = e.fd ∧ e'.output = e.output

instance : Std.Refl SameOutput := ⟨fun _ => ⟨rfl, rfl⟩⟩

instance : IsTrans BufferEvent SameOutput :=
  ⟨fun _ _ _ h h' => ⟨h'.1.trans h.1, h'.2.trans h.2⟩⟩

/-- `w'` may have lost the connection `c` of `w`, and has changed nothing else about it. -/
abbrev Spares (c : NetPtr) (w w' : World σ γ) : Prop := Changes SameOutput c w w'

/-- The same, and no bytes have come in or were taken. -/
abbrev Leaves (c : NetPtr) (w w' : World σ γ) : Prop := Changes Eq c w w'

variable {w w' w'' : World σ γ} {c : NetPtr} {out : List UInt8}

namespace Changes

variable {R : BufferEvent → BufferEvent → Prop}

section Order

variable [Std.Refl R]

theorem of_leftAlone (h : LeftAlone w w' c) (hnext : w.heap.nextNet ≤ w'.heap.nextNet)
    (hfate : w'.heap.fate = w.heap.fate) : Changes R c w w' where
  nextNet := hnext
  fate := hfate
  gone _ hnone := h.net.trans hnone
  net hn hn' := by
    obtain rfl := Option.some.inj (hn'.symm.trans (h.net.trans hn))
    exact ⟨rfl, rfl, rfl, rfl⟩
  bev hl _ := ⟨_, (h.bev hl.net hl.hevent).trans hl.bev, Std.Refl.refl _⟩

theorem of_heap (h : w'.heap = w.heap) : Changes R c w w' where
  nextNet := by rw [h]
  fate := by rw [h]
  gone _ hnone := by rw [h, hnone]
  net hn hn' := by
    rw [h, hn] at hn'
    cases hn'
    exact ⟨rfl, rfl, rfl, rfl⟩
  bev hl _ := ⟨_, by rw [h, hl.bev], Std.Refl.refl _⟩

theorem refl (c : NetPtr) (w : World σ γ) : Changes R c w w := of_heap rfl

end Order

theorem trans [IsTrans BufferEvent R] (hok : Ok w) (h : Changes R c w w') (h' : Changes R c w' w'') :
    Changes R c w w'' := by
  -- what is there at the end was there in between
  have alive : ∀ {n n''}, w.heap.nets c = some n → w''.heap.nets c = some n'' →
      ∃ n', w'.heap.nets c = some n' := by
    intro n n'' hn hn''
    cases hn' : w'.heap.nets c with
    | some n' => exact ⟨n', rfl⟩
    | none =>
      have hlt := lt_of_lt_of_le (hok.heap.netLt hn) h.nextNet
      rw [h'.gone hlt hn'] at hn''
      cases hn''
  refine ⟨le_trans h.nextNet h'.nextNet, h'.fate.trans h.fate, fun hlt hnone =>
    h'.gone (lt_of_lt_of_le hlt h.nextNet) (h.gone hlt hnone), fun hn hn'' => ?_, fun hl hn'' => ?_⟩
  · obtain ⟨n', hn'⟩ := alive hn hn''
    obtain ⟨h1, h2, h3, h4⟩ := h.net hn hn'
    obtain ⟨h1', h2', h3', h4'⟩ := h'.net hn' hn''
    exact ⟨h1'.trans h1, h2'.trans h2, h3'.trans h3, h4'.trans h4⟩
  · obtain ⟨n', hn'⟩ := alive hl.net hn''
    obtain ⟨e', he', hr⟩ := h.bev hl hn'
    obtain ⟨e'', he'', hr'⟩ := h'.bev ⟨hn', (h.net hl.net hn').1.trans hl.hevent, he'⟩ hn''
    exact ⟨e'', he'', IsTrans.trans _ _ _ hr hr'⟩

theorem getUserContext (h : Changes R c w w') {s : γ} (hs : w.getUserContext c = some s)
    (halive : (w'.heap.nets c).isSome) : w'.getUserContext c = some s := by
  obtain ⟨n, hn, hctx⟩ := Option.bind_eq_some_iff.mp hs
  obtain ⟨n', hn'⟩ := Option.isSome_iff_exists.mp halive
  rw [World.getUserContext, hn', Option.bind_some, (h.net hn hn').2.2.2, hctx]

/-! ## The operations on the heap -/

section Operations

variable [Std.Refl R]

theorem setNet {p : NetPtr} {n n' : EasyNet γ} (hp : w.heap.nets p = some n)
    (hev : n'.hevent = n.hevent) (hnid : n'.nid = n.nid) (hstate : n'.state = n.state)
    (hctx : n'.userContext = n.userContext) :
    Changes R c w { w with heap := w.heap.setNet p n' } := by
  by_cases hc : c = p
  · subst hc
    refine ⟨le_refl _, rfl, fun _ hnone => ?_, fun {m m'} hn hn' => ?_,
      fun hl _ => ⟨_, hl.bev, Std.Refl.refl _⟩⟩
    · rw [hp] at hnone
      cases hnone
    · cases hp.symm.trans hn
      simp only [Heap.setNet, Function.update_self, Option.some.injEq] at hn'
      subst hn'
      exact ⟨hev, hnid, hstate, hctx⟩
  · exact of_leftAlone (leftAlone_setNet w hc n') (le_refl _) rfl

theorem setBev {b : BevPtr} {e e' : BufferEvent} (hb : w.heap.bevs b = some e) (hr : R e e') :
    Changes R c w { w with heap := w.heap.setBev b e' } where
  nextNet := le_refl _
  fate := rfl
  gone _ hnone := hnone
  net hn hn' := by
    cases hn.symm.trans hn'
    exact ⟨rfl, rfl, rfl, rfl⟩
  bev {n n' d f} hl _ := by
    by_cases hd : d = b
    · subst hd
      cases hb.symm.trans hl.bev
      exact ⟨e', Function.update_self _ _ _, hr⟩
    · exact ⟨f, (Function.update_of_ne hd _ _).trans hl.bev, Std.Refl.refl _⟩

theorem eraseAt (h : Ok w) (side : Side) {fd : Int} {p : NetPtr}
    (hp : (w.mgr side).handlerPool.lookup fd = some p) : Changes R c w (w.eraseAt side fd p) := by
  obtain ⟨n, b, e, hl, _⟩ := h.entry hp
  have hheap := w.heap_eraseAt side fd hl
  by_cases hc : c = p
  · subst hc
    have hnone : (w.eraseAt side fd c).heap.nets c = none := by
      rw [hheap]
      exact Function.update_self _ _ _
    exact ⟨by rw [hheap]; exact le_refl _, by rw [hheap]; rfl, fun _ _ => hnone,
      fun _ hn' => (by rw [hnone] at hn'; cases hn'), fun _ hn' => (by rw [hnone] at hn'; cases hn')⟩
  · exact of_leftAlone (leftAlone_eraseAt h hp hc) (by rw [hheap]; exact le_refl _)
      (by rw [hheap]; rfl)

theorem destroyNet (h : Ok w) (side : Side) (net : Option NetPtr) :
    Changes R c w (w.destroyNet side net) := by
  obtain heq | ⟨p, _, _, e, _, _, hp, heq⟩ := destroyNet_cases h side net
  · rw [heq]
    exact refl c w
  · rw [heq]
    exact eraseAt h side hp

theorem openAt (h : Ok w) (side : Side) (fd type : Int) (state : NetState) :
    Changes R c w (w.openAt side fd type state) where
  nextNet := by rw [nextNet_openAt]; exact Nat.le_succ _
  fate := by rw [heap_openAt, openNet_eq]
  gone hlt hnone := by rw [nets_openAt, Function.update_of_ne hlt.ne, hnone]
  net hn hn' := by
    rw [nets_openAt, Function.update_of_ne (h.heap.netLt hn).ne, hn] at hn'
    cases hn'
    exact ⟨rfl, rfl, rfl, rfl⟩
  bev hl _ := by
    refine ⟨_, ?_, Std.Refl.refl _⟩
    rw [bevs_openAt, Function.update_of_ne (h.heap.bevLt hl.bev).ne, hl.bev]

theorem newDelete (h : Ok w) :
    Changes R c w { w with heap := w.heap.newEasyNet.2.deleteNet w.heap.newEasyNet.1 } :=
  of_leftAlone ⟨nets_newDelete h c, fun _ _ => rfl, id⟩ (Nat.le_succ _) rfl

theorem modifyNet (p : NetPtr) {f : EasyNet γ → EasyNet γ} (hev : ∀ n, (f n).hevent = n.hevent)
    (hnid : ∀ n, (f n).nid = n.nid) (hstate : ∀ n, (f n).state = n.state)
    (hctx : ∀ n, (f n).userContext = n.userContext) : Changes R c w (w.modifyNet p f) := by
  rw [World.modifyNet]
  split
  · exact refl c w
  · next n hp => exact setNet hp (hev n) (hnid n) (hstate n) (hctx n)

theorem evbufferAdd {b : BevPtr} {chunk : List UInt8}
    (hr : ∀ e, w.heap.bevs b = some e → R e { e with input := e.input ++ chunk }) :
    Changes R c w (w.evbufferAdd b chunk) := by
  rw [World.evbufferAdd]
  split
  · exact refl c w
  · next e he => exact setBev he (hr e he)

theorem evbufferDrain {b : BevPtr} {len : Nat}
    (hr : ∀ e, w.heap.bevs b = some e →
      R e { e with input := e.input.drop len, drained := e.drained ++ e.input.take len }) :
    Changes R c w (w.evbufferDrain b len) := by
  rw [World.evbufferDrain]
  split
  · exact refl c w
  · next e he => exact setBev he (hr e he)

theorem removeHandlerByEvent (h : Ok w) (b : BevPtr) :
    Changes R c w (w.setMgr .frontEnd (w.frontendHandlerMgr.removeHandlerByEvent w.heap b)) := by
  unfold NetHandlerMgr.removeHandlerByEvent NetHandlerMgr.getHandlerByEvent
  cases hp : w.frontendHandlerMgr.handlerPool.lookup (w.heap.getfd b) with
  | none => exact of_heap rfl
  | some p => exact eraseAt h .frontEnd hp

theorem onBackEndSocketEvent {b : BevPtr}
    (hc : w.backendHandlerMgr.getHandlerByEvent w.heap b ≠ some c) (events : BevEvents) :
    Changes R c w (w.onBackEndSocketEvent b events) := by
  have hstate : ∀ state, Changes R c w (w.changeBackEndState b state) := by
    intro state
    rw [changeBackEndState, NetHandlerMgr.changeNetStateByEvent]
    cases hp : w.backendHandlerMgr.getHandlerByEvent w.heap b with
    | none => exact refl c w
    | some p =>
      have hne : c ≠ p := by
        rintro rfl
        exact hc hp
      dsimp only
      split
      · exact refl c w
      · exact of_leftAlone (leftAlone_setNet w hne _) (le_refl _) rfl
  unfold World.onBackEndSocketEvent
  split_ifs <;> first | exact hstate _ | exact refl c w

end Operations

/-! ## The walk over the frontends, and socket events -/

variable [Std.Refl R] [IsTrans BufferEvent R]

theorem walkEntry {act : EasyNet γ → Bool × EasyNet γ} (hact : Harmless act)
    (hstate : ∀ n, (act n).2.state = n.state) (h : Ok w) (fd : Int) :
    Ok (w.walkEntry act fd) ∧ Changes R c w (w.walkEntry act fd) := by
  have hcursor : ∀ {w : World σ γ} (cursor : Option Int), Ok w → Ok (w.setCursor cursor) :=
    fun _ h => h.similar ⟨fun side => by cases side <;> rfl, le_refl _, le_refl _, id,
      fun hp => ⟨_, hp, rfl⟩, id, fun hb => ⟨_, hb, rfl⟩⟩
  unfold World.walkEntry
  cases hp : w.frontendHandlerMgr.handlerPool.lookup fd with
  | none => exact ⟨hcursor none h, of_heap rfl⟩
  | some p =>
    obtain ⟨n, b, e, hl, _⟩ := h.frontEntry hp
    simp only [hl.net]
    have hset := setNet (c := c) (R := R) hl.net (hact.hevent n) (hact.nid n) (hstate n)
      (hact.userContext n)
    have hok := h.similar (similar_setNet w hl.net (hact.hevent n))
    rcases hr : act n with ⟨kick, n'⟩
    rw [hr] at hset hok
    cases kick with
    | true => exact ⟨hok.eraseAt hp, hset.trans h (eraseAt hok .frontEnd hp)⟩
    | false => exact ⟨hcursor _ hok, hset.trans h (of_heap rfl)⟩

theorem walkLoop {act : EasyNet γ → Bool × EasyNet γ} (hact : Harmless act)
    (hstate : ∀ n, (act n).2.state = n.state) (k : Nat) (h : Ok w) :
    Changes R c w (w.walkLoop act k) := by
  induction k generalizing w with
  | zero => exact refl c w
  | succ k ih =>
    unfold World.walkLoop
    cases w.frontendHandlerMgr.itCursor with
    | none => exact refl c w
    | some fd =>
      obtain ⟨hok, hentry⟩ := walkEntry (c := c) (R := R) hact hstate h fd
      exact hentry.trans h (ih hok)

theorem tick (h : Ok w) (now : Int) (setting : Setting) : Changes R c w (w.tick now setting) := by
  have hok : Ok { w with now := now } := h.similar (.of_eq rfl fun side => by cases side <;> rfl)
  have hloop := walkLoop (c := c) (R := R) (harmless_doSomething setting now)
    (state_doSomething setting now) kSingleRoundLoopNum hok
  have hfirst : Changes R c w { w with now := now } := of_heap rfl
  unfold World.tick World.walkThrough
  dsimp only
  split_ifs
  · split
    · exact hfirst.trans h (hloop.trans hok (of_heap rfl))
    · exact hfirst.trans h hloop
  · exact hfirst

theorem onFrontEndSocketEvent {onClose : NetPtr → World σ γ → World σ γ} (h : Ok w)
    {b : BevPtr} (hclose : ∀ p, w.frontendHandlerMgr.getHandlerByEvent w.heap b = some p →
      Ok (onClose p w) ∧ Changes R c w (onClose p w)) (events : BevEvents) :
    Changes R c w (w.onFrontEndSocketEvent onClose b events) := by
  have hboth : Changes R c w (w.closeFrontEnd onClose b) := by
    unfold closeFrontEnd
    cases hp : w.frontendHandlerMgr.getHandlerByEvent w.heap b with
    | none => exact removeHandlerByEvent h b
    | some p =>
      obtain ⟨hok, hchanges⟩ := hclose p hp
      exact hchanges.trans h (removeHandlerByEvent hok b)
  unfold World.onFrontEndSocketEvent
  split_ifs <;> first | exact hboth | exact refl c w

end Changes

/-- A connection that is up and is still there is up. -/
theorem Spares.wired (h : Spares c w w') (hw : Wired w c out) (halive : (w'.heap.nets c).isSome) :
    Wired w' c out := by
  obtain ⟨n, b, e, hl, hstate, hout⟩ := hw
  obtain ⟨n', hn'⟩ := Option.isSome_iff_exists.mp halive
  obtain ⟨hev, _, hst, _⟩ := h.net hl.net hn'
  obtain ⟨e', he', _, hout'⟩ := h.bev hl hn'
  exact ⟨n', b, e', ⟨hn', hev.trans hl.hevent, he'⟩, hst.trans hstate, hout'.trans hout⟩

/-- It keeps its ids. -/
theorem Spares.at_ (h : Spares c w w') {fd nid : Int} (hat : At w c fd nid)
    (halive : (w'.heap.nets c).isSome) : At w' c fd nid := by
  obtain ⟨n, b, e, hl, hfd, hnid⟩ := hat
  obtain ⟨n', hn'⟩ := Option.isSome_iff_exists.mp halive
  obtain ⟨hev, hnid', _, _⟩ := h.net hl.net hn'
  obtain ⟨e', he', hfd', _⟩ := h.bev hl hn'
  exact ⟨n', b, e', ⟨hn', hev.trans hl.hevent, he'⟩, hfd'.trans hfd, hnid'.trans hnid⟩

/-- The three outcomes of accepting a connection. -/
theorem onFrontEndConnect_eq [Inhabited γ] (w : World σ γ)
    (onConnect : NetPtr → World σ γ → World σ γ) {fd : Int} (hfd : 0 ≤ fd)
    (bevOk callocOk : Bool) :
    w.onFrontEndConnect onConnect fd bevOk callocOk =
      let w₁ := w.openAt .frontEnd fd 0 .netEstablished
      if bevOk = false then
        { w with heap := w.heap.newEasyNet.2.deleteNet w.heap.newEasyNet.1 }
      else if callocOk = false then w₁.destroyNet .frontEnd (some w.heap.nextNet)
      else
        onConnect w.heap.nextNet { w₁ with
          heap := w₁.heap.setNet w.heap.nextNet
            { openedNet w.heap 0 .netEstablished with
              userContext := some default, lastActiveTimestamp := w.now } } := by
  have hneg : ¬ fd < 0 := not_lt.mpr hfd
  cases bevOk with
  | false =>
    simp only [onFrontEndConnect, NetHandlerMgr.addHandlerBySocket, hneg, if_false, if_true,
      Bool.false_eq_true]
    rfl
  | true =>
    set w₁ := w.openAt .frontEnd fd 0 .netEstablished with hw₁
    have hadd : w.frontendHandlerMgr.addHandlerBySocket w.heap fd 0 true =
        (some w.heap.nextNet, w₁.frontendHandlerMgr, w₁.heap) := by
      simp only [NetHandlerMgr.addHandlerBySocket, hneg, if_false]
      rfl
    have hp : w₁.heap.nets w.heap.nextNet = some (openedNet w.heap 0 .netEstablished) :=
      (w.live_openAt .frontEnd fd 0 .netEstablished).net
    cases callocOk with
    | false =>
      simp only [onFrontEndConnect, hadd, Heap.createUserContext, hp, Bool.false_eq_true,
        reduceCtorEq, if_false, if_true]
      rfl
    | true =>
      simp only [onFrontEndConnect, hadd, Heap.createUserContext, hp, reduceCtorEq, if_false,
        if_true, Heap.setNet, Function.update_self, Function.update_idem]
      rfl

theorem Changes.onFrontEndConnect {R : BufferEvent → BufferEvent → Prop} [Std.Refl R]
    [IsTrans BufferEvent R] [Inhabited γ] {onConnect : NetPtr → World σ γ → World σ γ}
    (h : Ok w) (hc : c < w.heap.nextNet)
    (hconnect : ∀ w₁, Changes R c w₁ (onConnect w.heap.nextNet w₁)) {fd : Int} (hfd : w.FreshFd fd)
    (bevOk callocOk : Bool) :
    Changes R c w (w.onFrontEndConnect onConnect fd bevOk callocOk) := by
  have hopen := Changes.openAt (c := c) (R := R) h .frontEnd fd 0 .netEstablished
  have hok := h.openAt .frontEnd hfd 0 .netEstablished
  rw [onFrontEndConnect_eq w onConnect hfd.1]
  dsimp only
  split_ifs
  · exact .newDelete h
  · exact hopen.trans h (.destroyNet hok .frontEnd _)
  · exact (hopen.trans h (.of_leftAlone (leftAlone_setNet _ hc.ne _) (le_refl _) rfl)).trans h
      (hconnect _)

/-! ## Ids -/

section At

variable {fd nid : Int}

theorem At.getNetIds (h : At w c fd nid) : w.getNetIds c = (CInt.uint32 fd, CInt.uint64 nid) := by
  obtain ⟨n, b, e, hl, rfl, rfl⟩ := h
  exact getNetIds_of_live hl

/-- Application code that keeps the connection keeps its ids. -/
theorem At.stable (h : At w c fd nid) (hs : Stable w w') (halive : (w'.heap.nets c).isSome) :
    At w' c fd nid := by
  obtain ⟨n, b, e, hl, hfd, hnid⟩ := h
  obtain ⟨n', hn'⟩ := Option.isSome_iff_exists.mp halive
  obtain ⟨hev, hnid', _⟩ := hs.net hl.net hn'
  obtain ⟨e', he', hfd', _⟩ := hs.bev hl hn'
  exact ⟨n', b, e', ⟨hn', hev.trans hl.hevent, he'⟩, hfd'.trans hfd, hnid'.trans hnid⟩

/-- A frontend is found under its ids. -/
theorem At.found (h : At w c fd nid) (hok : Ok w) (hfront : w.InFront c) (hlo : 0 ≤ fd)
    (hhi : fd < 2 ^ 31) :
    w.getFrontEndByAsyncIds (CInt.uint32 fd) (CInt.uint64 nid) = some c := by
  obtain ⟨n, b, e, hl, rfl, rfl⟩ := h
  obtain ⟨fd, hfd⟩ := hfront
  obtain ⟨m, d, f, hlm, rfl⟩ := hok.frontEntry hfd
  obtain rfl := Option.some.inj (hlm.net.symm.trans hl.net)
  obtain rfl := Option.some.inj (hlm.hevent.symm.trans hl.hevent)
  obtain rfl := Option.some.inj (hlm.bev.symm.trans hl.bev)
  have hsame : CInt.int32 (CInt.uint32 f.fd) = f.fd := by
    have hword : (CInt.uint32 f.fd : Int) = f.fd := by
      unfold CInt.uint32
      omega
    rw [hword]
    exact CInt.int32_of_range (by omega) hhi
  rw [getFrontEndByAsyncIds, NetHandlerMgr.getHandlerByAsyncIds, hsame, hfd]
  simp only [hl.net, if_true]

end At

/-! ## Writing -/

theorem fate_send (h : Heap γ) (p : NetPtr) (msg : List UInt8) : (h.send p msg).2.fate = h.fate := by
  have hwrite : ∀ (h : Heap γ) (b : BevPtr) (bytes : List UInt8),
      (h.buffereventWrite b bytes).2.fate = h.fate := by
    intro h b bytes
    rw [Heap.buffereventWrite]
    dsimp only
    split
    · rfl
    · split_ifs <;> rfl
  have hframe : ∀ b, (h.writeFrame b msg).2.fate = h.fate := by
    intro b
    have hfirst := hwrite h b (Heap.lengthHeader msg.length)
    rw [Heap.writeFrame]
    rcases hr : h.buffereventWrite b (Heap.lengthHeader msg.length) with ⟨_ | _, h₁⟩ <;>
      rw [hr] at hfirst
    · exact hfirst
    have hsecond := (hwrite h₁ b msg).trans hfirst
    dsimp only
    rcases hr₁ : h₁.buffereventWrite b msg with ⟨_ | _, h₂⟩ <;> rw [hr₁] at hsecond
    · exact hsecond
    · exact hsecond
  obtain ⟨_, hs⟩ | ⟨_, _, hs⟩ | ⟨_, b, _, _, _, _, hs⟩ := h.send_cases p msg
  · rw [hs]
  · rw [hs]
  · rw [hs, hframe b]

/-- When no write fails, a message is sent whole. -/
theorem Wired.send (hw : Wired w c out) (hfate : ∀ i, w.heap.fate i = true) {msg : List UInt8}
    (hmsg : msg ≠ []) :
    (w.heap.send c msg).1 = .easyNetOk ∧
      Wired { w with heap := (w.heap.send c msg).2 } c (out ++ encodeMsg msg) := by
  obtain ⟨n, b, e, hl, hstate, rfl⟩ := hw
  rw [Heap.send_eq_writeFrame hmsg hl.net hl.hevent hstate]
  obtain ⟨hnot, _⟩ | ⟨e', he', _, ⟨hfail, _⟩ | ⟨_, h', hrun, hwrote⟩⟩ := w.heap.writeFrame_cases b msg
  · exact absurd ⟨by rw [hl.bev]; rfl, hfate _⟩ hnot
  · rw [hfate] at hfail
    cases hfail
  · rw [hrun]
    refine ⟨rfl, n, b, _, ⟨by rw [hwrote.nets]; exact hl.net, hl.hevent, hwrote.bev hl.bev⟩, hstate,
      ?_⟩
    rw [if_pos rfl]
    rfl

/-- A connection that nobody writes to stays as it is. -/
theorem Wired.leftAlone (hw : Wired w c out) (h : LeftAlone w w' c) : Wired w' c out := by
  obtain ⟨n, b, e, hl, hstate, hout⟩ := hw
  exact ⟨n, b, e, ⟨h.net.trans hl.net, hl.hevent, (h.bev hl.net hl.hevent).trans hl.bev⟩, hstate,
    hout⟩

/-- A change of the object that keeps the `bufferevent` and the state. -/
theorem Wired.setNet (hw : Wired w c out) {p : NetPtr} {n n' : EasyNet γ}
    (hp : w.heap.nets p = some n) (hev : n'.hevent = n.hevent) (hstate : n'.state = n.state) :
    Wired { w with heap := w.heap.setNet p n' } c out := by
  obtain ⟨m, b, e, hl, hst, hout⟩ := hw
  by_cases hc : c = p
  · subst hc
    obtain rfl := Option.some.inj (hp.symm.trans hl.net)
    exact ⟨n', b, e, ⟨Function.update_self _ _ _, hev.trans hl.hevent, hl.bev⟩, hstate.trans hst,
      hout⟩
  · exact ⟨m, b, e, ⟨(Function.update_of_ne hc _ _).trans hl.net, hl.hevent, hl.bev⟩, hst, hout⟩

/-! ## What happens to other connections -/

namespace Changes

variable {R : BufferEvent → BufferEvent → Prop} [Std.Refl R]

/-- Something is sent on another connection. -/
theorem send (h : Ok w) {p : NetPtr} (hc : c ≠ p) (buf : List UInt8) :
    Changes R c w { w with heap := (w.heap.send p buf).2 } := by
  obtain ⟨out, hwrote, _⟩ := w.heap.wrote_send p buf
  exact of_leftAlone (leftAlone_send h hc buf) hwrote.nextNet.ge (fate_send w.heap p buf)

theorem sendToFrontEnd (h : Ok w) {net : Option NetPtr} (hc : net ≠ some c) (buf : List UInt8) :
    Changes R c w (w.sendToFrontEnd net buf).2 := by
  obtain heq | ⟨p, rfl, heq⟩ := sendToFrontEnd_cases w net buf <;> rw [heq]
  · exact refl c w
  · exact send h (fun heq => hc (congrArg some heq.symm)) buf

theorem sendToBackEnd [IsTrans BufferEvent R] (h : Ok w) {net : Option NetPtr}
    (hc : net ≠ some c) (buf : List UInt8) : Changes R c w (w.sendToBackEnd net buf).2 := by
  obtain heq | ⟨p, rfl, heq | ⟨n, hn, heq⟩⟩ := sendToBackEnd_cases w net buf <;> rw [heq]
  · exact refl c w
  · exact send h (fun heq => hc (congrArg some heq.symm)) buf
  · have hsend := send (R := R) h (fun heq => hc (congrArg some heq.symm)) buf
    exact hsend.trans h (setNet hn rfl rfl rfl rfl)

theorem createBackEnd [IsTrans BufferEvent R] (h : Ok w) (type : Int) (connect : Option Int) :
    Changes R c w (w.createBackEnd type connect).2 := by
  obtain ⟨_, heq⟩ | ⟨fd, n, hconnect, hn, heq⟩ := createBackEnd_cases w type connect <;> rw [heq]
  · exact newDelete h
  · exact (openAt h .backEnd fd type .netConnecting).trans h (setNet hn rfl rfl rfl rfl)

/-- A `bufferevent` that is not the one of the connection. -/
theorem setBev_other {b : BevPtr} (hb : ∀ n, w.heap.nets c = some n → n.hevent ≠ some b)
    (e : BufferEvent) : Changes R c w { w with heap := w.heap.setBev b e } := by
  refine of_leftAlone ⟨rfl, fun hn hev => ?_, id⟩ (le_refl _) rfl
  refine Function.update_of_ne ?_ _ _
  rintro rfl
  exact hb _ hn hev

theorem evbufferAdd_other {b : BevPtr} (hb : ∀ n, w.heap.nets c = some n → n.hevent ≠ some b)
    (chunk : List UInt8) : Changes R c w (w.evbufferAdd b chunk) := by
  rw [World.evbufferAdd]
  split
  · exact refl c w
  · exact setBev_other hb _

theorem evbufferDrain_other {b : BevPtr} (hb : ∀ n, w.heap.nets c = some n → n.hevent ≠ some b)
    (len : Nat) : Changes R c w (w.evbufferDrain b len) := by
  rw [World.evbufferDrain]
  split
  · exact refl c w
  · exact setBev_other hb _

end Changes

end World

end Rapidapp
