import Rapidapp.Framework.SocketEvents

/-!
# Ids of connections

`GetNetIds` gives the application a pair of numbers for a connection, and
`GetFrontEndByAsyncIds` finds the connection again. The descriptor is the kernel's and comes
back after a close; `nid` counts the `EasyNet` objects of the process. `NidOk` says which
object has which `nid`, and `getFrontEndByAsyncIds_eq_some` that only the connection that has
the pair is found.

`LeftAlone` is what it means that a piece of code has no business with a connection, one
lemma for each operation an application can call.
-/

namespace Rapidapp

variable {σ γ : Type}

namespace World

/-- The connection is in the pool of the frontends. -/
def InFront (w : World σ γ) (p : NetPtr) : Prop :=
  ∃ fd, w.frontendHandlerMgr.handlerPool.lookup fd = some p

/-- Nothing was written to the connection, its object with the user context is as it was, and it
was not taken out of the pool. -/
structure LeftAlone (w w' : World σ γ) (c : NetPtr) : Prop where
  net : w'.heap.nets c = w.heap.nets c
  bev : ∀ {n b}, w.heap.nets c = some n → n.hevent = some b → w'.heap.bevs b = w.heap.bevs b
  inFront : w.InFront c → w'.InFront c

theorem LeftAlone.refl (w : World σ γ) (c : NetPtr) : LeftAlone w w c := ⟨rfl, fun _ _ => rfl, id⟩

theorem LeftAlone.trans {w w' w'' : World σ γ} {c : NetPtr} (h : LeftAlone w w' c)
    (h' : LeftAlone w' w'' c) : LeftAlone w w'' c where
  net := h'.net.trans h.net
  bev hn hb := (h'.bev (h.net.trans hn) hb).trans (h.bev hn hb)
  inFront hf := h'.inFront (h.inFront hf)

theorem LeftAlone.getUserContext {w w' : World σ γ} {c : NetPtr} (h : LeftAlone w w' c) :
    w'.getUserContext c = w.getUserContext c := by
  rw [World.getUserContext, h.net, World.getUserContext]

/-- The objects of the process are numbered from 1 in the order they were made. -/
structure NidOk (w : World σ γ) : Prop where
  nid : ∀ {p n}, w.heap.nets p = some n → n.nid = CInt.int32 (p + 1 : Nat)
  seed : w.heap.nidSeed = CInt.int32 (w.heap.nextNet + 1 : Nat)

/-! ## What the ids say -/

theorem getNetIds_of_live {w : World σ γ} {p : NetPtr} {n : EasyNet γ} {b : BevPtr}
    {e : BufferEvent} (hl : w.heap.Live p n b e) :
    w.getNetIds p = (CInt.uint32 e.fd, CInt.uint64 n.nid) := by
  simp only [getNetIds, hl.net, hl.hevent, getfd_of_bev hl.bev]

/-- Only the frontend that `GetNetIds` gives the pair for is found under the pair. -/
theorem getFrontEndByAsyncIds_eq_some {w : World σ γ} (h : Ok w) {fd nid : Nat}
    (hfd : fd < 2 ^ 32) {p : NetPtr} (hp : w.getFrontEndByAsyncIds fd nid = some p) :
    w.InFront p ∧ w.getNetIds p = (fd, nid) := by
  rw [getFrontEndByAsyncIds, NetHandlerMgr.getHandlerByAsyncIds] at hp
  cases hq : w.frontendHandlerMgr.handlerPool.lookup (CInt.int32 fd) with
  | none => simp only [hq, reduceCtorEq] at hp
  | some q =>
    obtain ⟨n, b, e, hl, he⟩ := h.frontEntry hq
    simp only [hq, hl.net] at hp
    split_ifs at hp with hnid
    obtain rfl := Option.some.inj hp
    refine ⟨⟨_, hq⟩, ?_⟩
    rw [getNetIds_of_live hl, he, hnid, CInt.uint32_int32 hfd]

/-- As long as fewer than `2 ^ 31` objects were made, `nid` is their number. -/
theorem NidOk.getNetIds_snd {w : World σ γ} (h : NidOk w) (hok : Ok w)
    (hlt : (w.heap.nextNet : Int) < 2 ^ 31) {p : NetPtr} {n : EasyNet γ}
    (hp : w.heap.nets p = some n) :
    (w.getNetIds p).2 = p + 1 := by
  obtain ⟨b, e, hl⟩ := hok.heap.owns hp
  have hpn := hok.heap.netLt hp
  have hle : ((p + 1 : Nat) : Int) ≤ w.heap.nextNet := Int.ofNat_le.mpr hpn
  have hnid : CInt.uint64 n.nid = p + 1 := by
    rw [h.nid hp]
    exact CInt.uint64_int32 (lt_of_le_of_lt hle hlt)
  rw [getNetIds_of_live hl, hnid]

theorem NidOk.start (app : σ) (fate : Nat → Bool) (frontRecv backRecv : RapBuffer)
    (svcMode : SvcMode) (now : Int) :
    NidOk (World.start app fate frontRecv backRecv svcMode now : World σ γ) where
  nid := nofun
  seed := show (1 : Int) = CInt.int32 (0 + 1 : Nat) by decide

theorem NidOk.of_eq {w w' : World σ γ} (h : NidOk w) (hnets : w'.heap.nets = w.heap.nets)
    (hnext : w'.heap.nextNet = w.heap.nextNet) (hseed : w'.heap.nidSeed = w.heap.nidSeed) :
    NidOk w' where
  nid hp := h.nid (hnets ▸ hp)
  seed := by rw [hseed, hnext, h.seed]

theorem NidOk.setNet {w : World σ γ} (h : NidOk w) {p : NetPtr} {n n' : EasyNet γ}
    (hp : w.heap.nets p = some n) (hnid : n'.nid = n.nid) :
    NidOk { w with heap := w.heap.setNet p n' } where
  nid {q m} hq := by
    by_cases hqp : q = p
    · subst hqp
      simp only [Heap.setNet, Function.update_self] at hq
      cases hq
      rw [hnid, h.nid hp]
    · simp only [Heap.setNet, Function.update_of_ne hqp] at hq
      exact h.nid hq
  seed := h.seed

theorem NidOk.send {w : World σ γ} (h : NidOk w) (p : NetPtr) (buf : List UInt8) :
    NidOk { w with heap := (w.heap.send p buf).2 } := by
  obtain ⟨_, hw, _⟩ := w.heap.wrote_send p buf
  exact h.of_eq hw.nets hw.nextNet hw.nidSeed

theorem NidOk.eraseAt {w : World σ γ} (h : NidOk w) (hok : Ok w) {side : Side} {fd : Int}
    {p : NetPtr} (hp : (w.mgr side).handlerPool.lookup fd = some p) :
    NidOk (w.eraseAt side fd p) := by
  obtain ⟨n, b, e, hl, _⟩ := hok.entry hp
  have hheap := w.heap_eraseAt side fd hl
  refine ⟨fun {q m} hq => ?_, by rw [hheap]; exact h.seed⟩
  rw [hheap] at hq
  by_cases hqp : q = p
  · subst hqp; simp [Heap.release] at hq
  · exact h.nid (by simpa [Heap.release, hqp] using hq)

/-- A new object gets the next number. -/
theorem int32_nidSeed {w : World σ γ} (h : NidOk w) :
    CInt.int32 (w.heap.nidSeed + 1) = CInt.int32 (w.heap.nextNet + 1 + 1 : Nat) := by
  rw [h.seed, CInt.int32, CInt.int32, CInt.int32, Int.bmod_add_bmod]
  push_cast
  rfl

theorem NidOk.openAt {w : World σ γ} (h : NidOk w) (side : Side) (fd type : Int)
    (state : NetState) : NidOk (w.openAt side fd type state) := by
  have hheap := w.heap_openAt side fd type state
  rw [openNet_eq] at hheap
  refine ⟨fun {q m} hq => ?_, by rw [hheap]; exact int32_nidSeed h⟩
  rw [hheap] at hq
  by_cases hqp : q = w.heap.nextNet
  · subst hqp
    simp only [Function.update_self] at hq
    cases hq
    exact h.seed
  · simp only [Function.update_of_ne hqp] at hq
    exact h.nid hq

theorem NidOk.newDelete {w : World σ γ} (h : NidOk w) (hok : Ok w) :
    NidOk { w with heap := w.heap.newEasyNet.2.deleteNet w.heap.newEasyNet.1 } where
  nid hq := h.nid ((nets_newDelete hok _).symm.trans hq)
  seed := int32_nidSeed h

/-! ## Operations on another connection -/

theorem leftAlone_setNet (w : World σ γ) {c p : NetPtr} (hc : c ≠ p) (n : EasyNet γ) :
    LeftAlone w { w with heap := w.heap.setNet p n } c where
  net := Function.update_of_ne hc _ _
  bev _ _ := rfl
  inFront := id

theorem leftAlone_send {w : World σ γ} (h : Ok w) {c p : NetPtr} (hc : c ≠ p)
    (buf : List UInt8) : LeftAlone w { w with heap := (w.heap.send p buf).2 } c := by
  obtain ⟨out, hw, hout⟩ := w.heap.wrote_send p buf
  refine ⟨by rw [hw.nets], fun {n b} hn hb => ?_, id⟩
  have hnil : out b = [] := by
    by_contra hne
    obtain ⟨m, hm, hmb⟩ := hout b hne
    exact hc (h.heap.inj hn hm hb hmb)
  simp only [hw.bevs, hnil, List.append_nil]
  cases w.heap.bevs b <;> rfl

theorem leftAlone_eraseAt {w : World σ γ} (h : Ok w) {side : Side} {fd : Int} {c p : NetPtr}
    (hp : (w.mgr side).handlerPool.lookup fd = some p) (hc : c ≠ p) :
    LeftAlone w (w.eraseAt side fd p) c := by
  obtain ⟨n, b, e, hl, hfd⟩ := h.entry hp
  have hheap := w.heap_eraseAt side fd hl
  refine ⟨by rw [hheap]; exact Function.update_of_ne hc _ _, fun {m d} hm hd => ?_, ?_⟩
  · rw [hheap]
    have hne : d ≠ b := by
      rintro rfl
      exact hc (h.heap.inj hm hl.net hd hl.hevent)
    exact Function.update_of_ne hne _ _
  · rintro ⟨fd', hfd'⟩
    have hlookup := w.lookup_eraseAt side .frontEnd fd fd' p
    simp only [mgr] at hlookup
    refine ⟨fd', hlookup.trans ?_⟩
    rw [if_neg, hfd']
    rintro ⟨rfl, rfl⟩
    exact hc (Option.some.inj (hfd'.symm.trans hp))

theorem leftAlone_destroyNet {w : World σ γ} (h : Ok w) (side : Side) {c p : NetPtr}
    (hc : c ≠ p) : LeftAlone w (w.destroyNet side (some p)) c := by
  obtain heq | ⟨q, _, _, _, hq, _, hlookup, heq⟩ := destroyNet_cases h side (some p)
  · rw [heq]; exact LeftAlone.refl w c
  · obtain rfl := Option.some.inj hq
    rw [heq]; exact leftAlone_eraseAt h hlookup hc

/-- A frontend in the pool is deleted by `DestroyFrontEnd`. -/
theorem nets_destroyFrontEnd {w : World σ γ} (h : Ok w) {p : NetPtr} (hp : w.InFront p) :
    (w.destroyFrontEnd (some p)).heap.nets p = none := by
  obtain ⟨fd, hfd⟩ := hp
  obtain ⟨n, b, e, hl, rfl⟩ := h.frontEntry hfd
  have hget := getHandlerByEvent_eq (w := w) .frontEnd hl.bev
  simp only [mgr] at hget
  have herase : w.destroyFrontEnd (some p) = w.eraseAt .frontEnd e.fd p := by
    simp only [World.destroyFrontEnd, destroyNet, mgr, NetHandlerMgr.removeHandler, hl.net,
      Option.bind_some, hl.hevent, NetHandlerMgr.removeHandlerByEvent, hget, hfd, eraseAt,
      getfd_of_bev hl.bev]
  rw [herase, w.heap_eraseAt .frontEnd e.fd hl]
  simp [Heap.release]

theorem leftAlone_setUserContext (w : World σ γ) {c p : NetPtr} (hc : c ≠ p) (s : γ) :
    LeftAlone w (w.setUserContext p s) c := by
  rw [setUserContext]
  split
  · exact LeftAlone.refl w c
  · split
    · exact LeftAlone.refl w c
    · exact leftAlone_setNet w hc _

/-! ## What the framework does by itself -/

/-- Between two calls into the application: user contexts and pool entries may go, and a pool
entry appears only with a connection made meanwhile. -/
structure Calm (w w' : World σ γ) : Prop where
  ok : Ok w'
  nid : NidOk w'
  app : w'.app = w.app
  nextNet : w.heap.nextNet ≤ w'.heap.nextNet
  context : ∀ {p s}, w'.getUserContext p = some s → w.getUserContext p = some s
  front : ∀ {p}, w'.InFront p → w.InFront p ∨ w.heap.nextNet ≤ p
  pooled : ∀ {p s}, w'.getUserContext p = some s → w.InFront p → w'.InFront p

theorem Calm.refl {w : World σ γ} (h : Ok w) (hn : NidOk w) : Calm w w :=
  ⟨h, hn, rfl, le_refl _, id, .inl, fun _ => id⟩

theorem Calm.trans {w w' w'' : World σ γ} (h : Calm w w') (h' : Calm w' w'') : Calm w w'' where
  ok := h'.ok
  nid := h'.nid
  app := h'.app.trans h.app
  nextNet := le_trans h.nextNet h'.nextNet
  context hp := h.context (h'.context hp)
  front hp := (h'.front hp).elim h.front fun hle => .inr (le_trans h.nextNet hle)
  pooled hp hf := h'.pooled hp (h.pooled (h'.context hp) hf)

/-- Changes that neither the objects' ownership nor their contexts see. -/
theorem calm_of_similar {w w' : World σ γ} (h : Ok w) (hs : Similar w w') (hn : NidOk w')
    (happ : w'.app = w.app)
    (hctx : ∀ {p s}, w'.getUserContext p = some s → w.getUserContext p = some s) :
    Calm w w' := by
  have hpool : ∀ p, w'.InFront p ↔ w.InFront p := by
    intro p
    have := hs.pool .frontEnd
    simp only [mgr] at this
    rw [InFront, InFront, this]
  exact ⟨h.similar hs, hn, happ, hs.nextNet, hctx, fun hp => .inl ((hpool _).mp hp),
    fun _ hp => (hpool _).mpr hp⟩

theorem getUserContext_setNet {w : World σ γ} {p : NetPtr} {n : EasyNet γ} (n' : EasyNet γ)
    (hp : w.heap.nets p = some n) (hctx : n'.userContext = n.userContext) (q : NetPtr) :
    ({ w with heap := w.heap.setNet p n' } : World σ γ).getUserContext q =
      w.getUserContext q := by
  rw [getUserContext, getUserContext]
  by_cases hq : q = p
  · subst hq
    simp only [Heap.setNet, Function.update_self, hp, Option.bind_some, hctx]
  · simp only [Heap.setNet, Function.update_of_ne hq]

theorem calm_setNet {w : World σ γ} (h : Ok w) (hn : NidOk w) {p : NetPtr} {n n' : EasyNet γ}
    (hp : w.heap.nets p = some n) (hev : n'.hevent = n.hevent) (hnid : n'.nid = n.nid)
    (hctx : n'.userContext = n.userContext) : Calm w { w with heap := w.heap.setNet p n' } :=
  calm_of_similar h (similar_setNet w hp hev) (hn.setNet hp hnid) rfl
    fun hs => (getUserContext_setNet n' hp hctx _).symm.trans hs

theorem calm_eraseAt {w : World σ γ} (h : Ok w) (hn : NidOk w) (side : Side) {fd : Int}
    {p : NetPtr} (hp : (w.mgr side).handlerPool.lookup fd = some p) :
    Calm w (w.eraseAt side fd p) := by
  obtain ⟨n, b, e, hl, _⟩ := h.entry hp
  have hheap := w.heap_eraseAt side fd hl
  have hctx : ∀ {q s}, (w.eraseAt side fd p).getUserContext q = some s →
      q ≠ p ∧ w.getUserContext q = some s := by
    intro q s hq
    rw [getUserContext, hheap] at hq
    by_cases hqp : q = p
    · subst hqp; simp [Heap.release] at hq
    · exact ⟨hqp, by simpa [Heap.release, hqp, getUserContext] using hq⟩
  refine ⟨h.eraseAt hp, hn.eraseAt h hp, by cases side <;> rfl, by rw [hheap]; exact le_refl _,
    fun hq => (hctx hq).2, ?_, fun hq => (leftAlone_eraseAt h hp (hctx hq).1).inFront⟩
  rintro q ⟨fd', hq⟩
  have hlookup := w.lookup_eraseAt side .frontEnd fd fd' p
  simp only [mgr] at hlookup
  rw [hlookup] at hq
  split_ifs at hq
  exact .inl ⟨fd', hq⟩

theorem calm_destroyNet {w : World σ γ} (h : Ok w) (hn : NidOk w) (side : Side)
    (net : Option NetPtr) : Calm w (w.destroyNet side net) := by
  obtain heq | ⟨_, _, _, _, _, _, hp, heq⟩ := destroyNet_cases h side net
  · rw [heq]; exact Calm.refl h hn
  · rw [heq]; exact calm_eraseAt h hn side hp

/-- A new connection has no context yet. -/
theorem calm_openAt {w : World σ γ} (h : Ok w) (hn : NidOk w) (side : Side) {fd : Int}
    (hfd : w.FreshFd fd) (type : Int) (state : NetState) :
    Calm w (w.openAt side fd type state) := by
  have hlookup := fun fd' => w.lookup_openAt side .frontEnd fd fd' type state
  simp only [mgr] at hlookup
  refine ⟨h.openAt side hfd type state, hn.openAt side fd type state, by cases side <;> rfl,
    by rw [nextNet_openAt]; exact Nat.le_succ _, fun {p s} hp => ?_, ?_, ?_⟩
  · rw [getUserContext, nets_openAt] at hp
    by_cases hq : p = w.heap.nextNet
    · subst hq
      simp only [Function.update_self, Option.bind_some, openedNet, reduceCtorEq] at hp
    · simpa only [Function.update_of_ne hq, getUserContext] using hp
  · rintro p ⟨fd', hp⟩
    rw [hlookup] at hp
    split_ifs at hp
    · exact .inr (Option.some.inj hp).le
    · exact .inl ⟨fd', hp⟩
  · rintro p s - ⟨fd', hp⟩
    refine ⟨fd', (hlookup fd').trans ?_⟩
    rw [if_neg, hp]
    rintro ⟨-, rfl⟩
    have hnone := hfd.lookup_none h .frontEnd
    simp only [mgr] at hnone
    rw [hnone] at hp
    cases hp

theorem calm_setCursor {w : World σ γ} (h : Ok w) (hn : NidOk w) (cursor : Option Int) :
    Calm w (w.setCursor cursor) := by
  refine calm_of_similar h ?_ (hn.of_eq rfl rfl rfl) rfl id
  exact ⟨fun side => by cases side <;> rfl, le_refl _, le_refl _, id, fun hp => ⟨_, hp, rfl⟩, id,
    fun hb => ⟨_, hb, rfl⟩⟩

/-- A check of `WalkThrough` that touches only what `DoSomething` may touch. -/
structure Harmless (act : EasyNet γ → Bool × EasyNet γ) : Prop where
  hevent : ∀ n, (act n).2.hevent = n.hevent
  nid : ∀ n, (act n).2.nid = n.nid
  userContext : ∀ n, (act n).2.userContext = n.userContext

theorem harmless_doSomething (setting : Setting) (now : Int) :
    Harmless (doSomething (γ := γ) setting now) := by
  constructor <;> intro n <;> unfold doSomething <;> dsimp only <;> split_ifs <;> rfl

theorem calm_walkEntry {act : EasyNet γ → Bool × EasyNet γ} (hact : Harmless act)
    {w : World σ γ} (h : Ok w) (hn : NidOk w) (fd : Int) : Calm w (w.walkEntry act fd) := by
  unfold walkEntry
  cases hp : w.frontendHandlerMgr.handlerPool.lookup fd with
  | none => exact calm_setCursor h hn _
  | some p =>
    obtain ⟨n, b, e, hl, _⟩ := h.frontEntry hp
    simp only [hl.net]
    have hset := calm_setNet h hn hl.net (hact.hevent n) (hact.nid n) (hact.userContext n)
    rcases hr : act n with ⟨kick, n'⟩
    rw [hr] at hset
    cases kick with
    | true => exact hset.trans (calm_eraseAt hset.ok hset.nid .frontEnd hp)
    | false => exact hset.trans (calm_setCursor hset.ok hset.nid _)

theorem calm_walkLoop {act : EasyNet γ → Bool × EasyNet γ} (hact : Harmless act) (k : Nat)
    {w : World σ γ} (h : Ok w) (hn : NidOk w) : Calm w (w.walkLoop act k) := by
  induction k generalizing w with
  | zero => exact Calm.refl h hn
  | succ k ih =>
    unfold walkLoop
    cases w.frontendHandlerMgr.itCursor with
    | none => exact Calm.refl h hn
    | some fd =>
      have hentry := calm_walkEntry hact h hn fd
      exact hentry.trans (ih hentry.ok hentry.nid)

theorem calm_walkThrough {act : EasyNet γ → Bool × EasyNet γ} (hact : Harmless act)
    {w : World σ γ} (h : Ok w) (hn : NidOk w) : Calm w (w.walkThrough act) := by
  have hloop := calm_walkLoop hact kSingleRoundLoopNum h hn
  unfold walkThrough
  dsimp only
  cases (w.walkLoop act kSingleRoundLoopNum).frontendHandlerMgr.itCursor with
  | none => exact hloop.trans (calm_setCursor hloop.ok hloop.nid _)
  | some _ => exact hloop

theorem calm_tick {w : World σ γ} (h : Ok w) (hn : NidOk w) (now : Int) (setting : Setting) :
    Calm w (w.tick now setting) := by
  have hnow : Calm w { w with now := now } :=
    calm_of_similar h (.of_eq rfl fun side => by cases side <;> rfl) (hn.of_eq rfl rfl rfl) rfl id
  unfold tick
  dsimp only
  split_ifs
  · exact hnow.trans (calm_walkThrough (harmless_doSomething setting now) hnow.ok hnow.nid)
  · exact hnow

theorem calm_onBackEndSocketEvent {w : World σ γ} (h : Ok w) (hn : NidOk w) (b : BevPtr)
    (events : BevEvents) : Calm w (w.onBackEndSocketEvent b events) := by
  have hstate : ∀ state, Calm w (w.changeBackEndState b state) := by
    intro state
    rw [changeBackEndState, NetHandlerMgr.changeNetStateByEvent]
    cases w.backendHandlerMgr.getHandlerByEvent w.heap b with
    | none => exact Calm.refl h hn
    | some p =>
      cases hp : w.heap.nets p with
      | none => simpa only [hp] using Calm.refl h hn
      | some n =>
        simp only [hp]
        exact calm_setNet h hn hp rfl rfl rfl
  unfold onBackEndSocketEvent
  split_ifs <;> first | exact hstate _ | exact Calm.refl h hn

theorem calm_setBev {w : World σ γ} (h : Ok w) (hn : NidOk w) {b : BevPtr} {e e' : BufferEvent}
    (hb : w.heap.bevs b = some e) (hfd : e'.fd = e.fd) :
    Calm w { w with heap := w.heap.setBev b e' } :=
  calm_of_similar h (similar_setBev w hb hfd) (hn.of_eq rfl rfl rfl) rfl id

theorem calm_evbufferAdd {w : World σ γ} (h : Ok w) (hn : NidOk w) (b : BevPtr)
    (chunk : List UInt8) : Calm w (w.evbufferAdd b chunk) := by
  rw [evbufferAdd]
  split
  · exact Calm.refl h hn
  · next e he => exact calm_setBev h hn he rfl

theorem calm_evbufferDrain {w : World σ γ} (h : Ok w) (hn : NidOk w) (b : BevPtr) (len : Nat) :
    Calm w (w.evbufferDrain b len) := by
  rw [evbufferDrain]
  split
  · exact Calm.refl h hn
  · next e he => exact calm_setBev h hn he rfl

/-- The counters of a connection. -/
theorem calm_modifyNet {w : World σ γ} (h : Ok w) (hn : NidOk w) (p : NetPtr)
    {f : EasyNet γ → EasyNet γ} (hev : ∀ n, (f n).hevent = n.hevent)
    (hnid : ∀ n, (f n).nid = n.nid) (hctx : ∀ n, (f n).userContext = n.userContext) :
    Calm w (w.modifyNet p f) := by
  rw [modifyNet]
  split
  · exact Calm.refl h hn
  · next n hp => exact calm_setNet h hn hp (hev n) (hnid n) (hctx n)

theorem FdUnused.freshFd {w : World σ γ} (h : Ok w) {fd : Int} (hfd : w.FdUnused fd) :
    w.FreshFd fd :=
  ⟨hfd.1, hfd.2.1, fun b e he => hfd.2.2 b (h.heap.bevLt he) e he⟩

/-- `w'` has one more frontend than `w`, the newest object, with a zeroed context. -/
structure Accepted [Inhabited γ] (w w' : World σ γ) : Prop where
  ok : Ok w'
  nid : NidOk w'
  app : w'.app = w.app
  nextNet : w'.heap.nextNet = w.heap.nextNet + 1
  context : ∀ q, w'.getUserContext q =
    if q = w.heap.nextNet then some default else w.getUserContext q
  front : ∀ q, w'.InFront q ↔ w.InFront q ∨ q = w.heap.nextNet

/-- Accepting a connection fails and leaves nothing behind, or goes on with the application's
`OnFrontEndConnect`. -/
theorem onFrontEndConnect_cases [Inhabited γ] {w : World σ γ} (h : Ok w) (hn : NidOk w)
    (onConnect : NetPtr → World σ γ → World σ γ) {fd : Int} (hfd : w.FreshFd fd)
    (bevOk callocOk : Bool) :
    Calm w (w.onFrontEndConnect onConnect fd bevOk callocOk) ∨
    ∃ w', Accepted w w' ∧
      w.onFrontEndConnect onConnect fd bevOk callocOk = onConnect w.heap.nextNet w' := by
  have hneg : ¬ fd < 0 := not_lt.mpr hfd.1
  cases bevOk with
  | false =>
    refine .inl ?_
    simp only [onFrontEndConnect, NetHandlerMgr.addHandlerBySocket, hneg, if_false,
      Bool.false_eq_true]
    refine ⟨h.similar (similar_newDelete h), hn.newDelete h, rfl, Nat.le_succ _, fun hp => ?_,
      .inl, fun _ => id⟩
    rw [getUserContext] at hp ⊢
    rwa [← nets_newDelete h]
  | true =>
    have hopen := calm_openAt h hn .frontEnd hfd 0 .netEstablished
    set w₁ := w.openAt .frontEnd fd 0 .netEstablished with hw₁
    have hadd : w.frontendHandlerMgr.addHandlerBySocket w.heap fd 0 true =
        (some w.heap.nextNet, w₁.frontendHandlerMgr, w₁.heap) := by
      simp only [NetHandlerMgr.addHandlerBySocket, hneg, if_false]
      rfl
    have hnets : w₁.heap.nets = Function.update w.heap.nets w.heap.nextNet
        (some (openedNet w.heap 0 .netEstablished)) := nets_openAt ..
    have hp : w₁.heap.nets w.heap.nextNet = some (openedNet w.heap 0 .netEstablished) :=
      (w.live_openAt .frontEnd fd 0 .netEstablished).net
    cases callocOk with
    | false =>
      refine .inl ?_
      have hrun : w.onFrontEndConnect onConnect fd true false =
          w₁.destroyNet .frontEnd (some w.heap.nextNet) := by
        simp only [onFrontEndConnect, hadd, Heap.createUserContext, hp, Bool.false_eq_true,
          if_false]
        rfl
      rw [hrun]
      exact hopen.trans (calm_destroyNet hopen.ok hopen.nid .frontEnd _)
    | true =>
      set n : EasyNet γ := { openedNet w.heap 0 .netEstablished with
        userContext := some default, lastActiveTimestamp := w.now }
      refine .inr ⟨{ w₁ with heap := w₁.heap.setNet w.heap.nextNet n }, ?_, ?_⟩
      · refine ⟨hopen.ok.setNet hp rfl, hopen.nid.setNet hp rfl, hopen.app, ?_, fun q => ?_,
          fun q => ?_⟩
        · exact nextNet_openAt ..
        · rw [getUserContext, Heap.setNet, hnets]
          split_ifs with hq
          · subst hq
            simp only [Function.update_self, Option.bind_some, n]
          · simp only [Function.update_of_ne hq, getUserContext]
        · have hlookup := fun fd' => w.lookup_openAt .frontEnd .frontEnd fd fd' 0 .netEstablished
          simp only [mgr] at hlookup
          constructor
          · rintro ⟨fd', hq⟩
            have hq := (hlookup fd').symm.trans hq
            split_ifs at hq
            · exact .inr (Option.some.inj hq).symm
            · exact .inl ⟨fd', hq⟩
          · rintro (⟨fd', hq⟩ | rfl)
            · refine ⟨fd', (hlookup fd').trans ?_⟩
              rw [if_neg, hq]
              rintro ⟨-, rfl⟩
              have hnone := hfd.lookup_none h .frontEnd
              simp only [mgr] at hnone
              rw [hnone] at hq
              cases hq
            · exact ⟨fd, (hlookup fd).trans (if_pos ⟨trivial, rfl⟩)⟩
      · simp only [onFrontEndConnect, hadd, Heap.createUserContext, hp, if_true, Heap.setNet,
          Function.update_self, Function.update_idem]
        rfl

end World

end Rapidapp
