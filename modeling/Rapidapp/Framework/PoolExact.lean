import Rapidapp.Framework.NetIds
import Rapidapp.Framework.NetMgrRuns

/-!
# The pool of one manager is exact

The comment above `ChangeNetStateByEvent` (`framework/rapidapp_net_mgr.cpp:158-161`) relies on
descriptors being unique without checking it: every operation reads the descriptor from
the `bufferevent` again and goes by the entry under it. `NetHandlerMgr.Sound` is the
invariant, `CursorMonitor.Exact` what it says about the pool, and `NetMgrOp.Confined` which
entries an operation may change.
-/

namespace Rapidapp

variable {ν γ : Type}

/-- The manager's connections are exactly the objects of the heap, and no `bufferevent` is
without an owner. -/
structure NetHandlerMgr.Sound (m : NetHandlerMgr) (h : Heap γ) : Prop where
  ok : World.Ok (World.ofMgr m h)
  owned : ∀ {b e}, h.bevs b = some e → ∃ p n, h.Live p n b e

namespace NetHandlerMgr.Sound

variable {m : NetHandlerMgr} {h h' : Heap γ}

/-- What stands under a descriptor is the connection that has it. -/
theorem lookup_iff (hs : m.Sound h) {fd : Int} {p : NetPtr} :
    m.handlerPool.lookup fd = some p ↔ ∃ n b e, h.Live p n b e ∧ e.fd = fd := by
  constructor
  · intro hp
    have hp : ((World.ofMgr m h).mgr .frontEnd).handlerPool.lookup fd = some p := hp
    exact hs.ok.entry hp
  · rintro ⟨n, b, e, hl, rfl⟩
    obtain ⟨side, hside⟩ := hs.ok.pooled hl
    cases side with
    | frontEnd => exact hside
    | backEnd => cases hside

theorem getHandlerByEvent (hs : m.Sound h) {p : NetPtr} {n : EasyNet γ} {b : BevPtr}
    {e : BufferEvent} (hl : h.Live p n b e) : m.getHandlerByEvent h b = some p := by
  rw [NetHandlerMgr.getHandlerByEvent, World.getfd_of_bev hl.bev]
  exact hs.lookup_iff.mpr ⟨n, b, e, hl, rfl⟩

theorem init (recvBuffSize : RapBuffer) (fate : Nat → Bool) :
    (NetHandlerMgr.init recvBuffSize).Sound (Heap.empty (γ := γ) fate) where
  ok := World.ok_start () fate recvBuffSize .small .normal 0
  owned hb := by cases hb

theorem of_pool {m' : NetHandlerMgr} (hs : m.Sound h) (hpool : m'.handlerPool = m.handlerPool) :
    m'.Sound h where
  ok := hs.ok.similar ⟨fun side => by cases side <;> first | exact hpool | rfl, le_refl _,
    le_refl _, id, fun hp => ⟨_, hp, rfl⟩, id, fun hb => ⟨_, hb, rfl⟩⟩
  owned := hs.owned

theorem sameConns (hs : m.Sound h) (hc : Heap.SameConns h h') : m.Sound h' where
  ok := hs.ok.similar (hc.similar m)
  owned hb' := by
    obtain ⟨e, hb, _⟩ := (hc.similar m).bev_back hb'
    obtain ⟨p, n, hl⟩ := hs.owned hb
    obtain ⟨n', hn', hev⟩ := hc.net hl.net
    exact ⟨p, n', hn', hev.trans hl.hevent, hb'⟩

/-! ## Removing -/

theorem heap_eraseEntry (hs : m.Sound h) {fd : Int} {p : NetPtr}
    (hp : m.handlerPool.lookup fd = some p) :
    ∃ n b e, h.Live p n b e ∧ e.fd = fd ∧ (m.eraseEntry h fd p).2 = h.release p b := by
  obtain ⟨n, b, e, hl, hfd⟩ := hs.lookup_iff.mp hp
  exact ⟨n, b, e, hl, hfd, m.eraseEntry_snd hl fd⟩

theorem eraseEntry (hs : m.Sound h) {fd : Int} {p : NetPtr}
    (hp : m.handlerPool.lookup fd = some p) :
    (m.eraseEntry h fd p).1.Sound (m.eraseEntry h fd p).2 := by
  obtain ⟨n, b, e, hl, _, hheap⟩ := hs.heap_eraseEntry hp
  refine ⟨?_, fun {c f} hc => ?_⟩
  · have hp : ((World.ofMgr m h).mgr .frontEnd).handlerPool.lookup fd = some p := hp
    exact hs.ok.eraseAt hp
  · rw [hheap] at hc ⊢
    have hcb : c ≠ b := by
      rintro rfl
      simp [Heap.release] at hc
    obtain ⟨q, k, hq⟩ := hs.owned (by simpa [Heap.release, hcb] using hc : h.bevs c = some f)
    have hqp : q ≠ p := by
      rintro rfl
      obtain rfl := Option.some.inj (hq.net.symm.trans hl.net)
      exact hcb (Option.some.inj (hq.hevent.symm.trans hl.hevent))
    exact ⟨q, k, by simpa [Heap.release, hqp] using hq.net, hq.hevent, hc⟩

/-- Removing one connection leaves every other entry as it is. -/
theorem lookup_eraseEntry (hs : m.Sound h) {fd : Int} {p : NetPtr}
    (hp : m.handlerPool.lookup fd = some p) (fd' : Int) (q : NetPtr) :
    (m.eraseEntry h fd p).1.handlerPool.lookup fd' = some q ↔
      q ≠ p ∧ m.handlerPool.lookup fd' = some q := by
  have hlookup := (World.ofMgr m h).lookup_eraseAt .frontEnd .frontEnd fd fd' p
  have hlookup : (m.eraseEntry h fd p).1.handlerPool.lookup fd' =
      if Side.frontEnd = Side.frontEnd ∧ fd' = fd then none
      else m.handlerPool.lookup fd' := hlookup
  rw [hlookup]
  by_cases hfd : fd' = fd
  · rw [if_pos ⟨rfl, hfd⟩, hfd, hp]
    constructor
    · intro hq
      cases hq
    · rintro ⟨hne, hq⟩
      exact absurd (Option.some.inj hq).symm hne
  · rw [if_neg fun hand => hfd hand.2]
    refine ⟨fun hq => ⟨?_, hq⟩, And.right⟩
    rintro rfl
    obtain ⟨n, b, e, hl, rfl⟩ := hs.lookup_iff.mp hq
    obtain ⟨n', b', e', hl', rfl⟩ := hs.lookup_iff.mp hp
    obtain rfl := Option.some.inj (hl.net.symm.trans hl'.net)
    obtain rfl := Option.some.inj (hl.hevent.symm.trans hl'.hevent)
    exact hfd (by rw [Option.some.inj (hl.bev.symm.trans hl'.bev)])

/-! ## Adding -/

/-- The manager and the heap with one more connection. -/
theorem openAt (hs : m.Sound h) {fd : Int} (hfd : (World.ofMgr m h).FreshFd fd) (type : Int)
    (state : NetState) :
    let w := (World.ofMgr m h).openAt .frontEnd fd type state
    w.frontendHandlerMgr.Sound w.heap ∧ ∀ fd' p, m.handlerPool.lookup fd' = some p →
      w.frontendHandlerMgr.handlerPool.lookup fd' = some p := by
  have hok := hs.ok.openAt .frontEnd hfd type state
  refine ⟨⟨hok, fun {c f} hc => ?_⟩, fun fd' p hp => ?_⟩
  · by_cases hnew : c = h.nextBev
    · subst hnew
      have hlive := (World.ofMgr m h).live_openAt .frontEnd fd type state
      obtain rfl := Option.some.inj (hlive.bev.symm.trans hc)
      exact ⟨h.nextNet, _, hlive⟩
    · have hold : h.bevs c = some f := by
        have hbev := hc
        rw [World.bevs_openAt] at hbev
        exact (Function.update_of_ne hnew _ _).symm.trans hbev
      obtain ⟨q, n, hl⟩ := hs.owned hold
      have hlt : q < h.nextNet := hs.ok.heap.netLt hl.net
      refine ⟨q, n, ?_, hl.hevent, hc⟩
      rw [World.nets_openAt]
      exact (Function.update_of_ne (ne_of_lt hlt) _ _).trans hl.net
  · have hlookup := (World.ofMgr m h).lookup_openAt .frontEnd .frontEnd fd fd' type state
    refine hlookup.trans ((if_neg ?_).trans hp)
    rintro ⟨-, rfl⟩
    have hnone := hfd.lookup_none hs.ok .frontEnd
    cases hnone.symm.trans hp

theorem newDelete (hs : m.Sound h) : m.Sound (h.newEasyNet.2.deleteNet h.newEasyNet.1) :=
  hs.sameConns (World.similar_newDelete hs.ok).sameConns

end NetHandlerMgr.Sound

/-! ## The operations -/

/-- The kernel opens a socket under a descriptor that no open socket has. -/
def NetMgrOp.Fresh (s : CursorMonitor γ) : NetMgrOp ν γ → Prop
  | .addHandlerBySocket sockFd _ _ _ => 0 ≤ sockFd → (World.ofMgr s.mgr s.heap).FdUnused sockFd
  | .addHandlerByUri _ connect _ => ∀ fd ∈ connect, (World.ofMgr s.mgr s.heap).FdUnused fd
  | .removeHandler _ | .removeHandlerByEvent _ | .changeNetStateByEvent .. | .walkThrough .. => True

instance (s : CursorMonitor γ) : ∀ op : NetMgrOp ν γ, Decidable (op.Fresh s)
  | .addHandlerBySocket sockFd _ _ _ =>
    inferInstanceAs (Decidable (0 ≤ sockFd → (World.ofMgr s.mgr s.heap).FdUnused sockFd))
  | .addHandlerByUri _ connect _ =>
    inferInstanceAs (Decidable (∀ fd ∈ connect, (World.ofMgr s.mgr s.heap).FdUnused fd))
  | .removeHandler _ | .removeHandlerByEvent _ | .changeNetStateByEvent .. | .walkThrough .. =>
    isTrue trivial

/-- The entries an operation may change: an addition overwrites none, a removal takes out the one
connection it is about, and a walk those its visitor votes out. -/
def NetMgrOp.Confined (s s' : CursorMonitor γ) : NetMgrOp ν γ → Prop
  | .addHandlerBySocket .. | .addHandlerByUri .. => ∀ fd q,
    s.mgr.handlerPool.lookup fd = some q → s'.mgr.handlerPool.lookup fd = some q
  | .removeHandler p => s'.heap.nets p = none ∧ ∀ fd q, q ≠ p →
    (s'.mgr.handlerPool.lookup fd = some q ↔ s.mgr.handlerPool.lookup fd = some q)
  | .removeHandlerByEvent b => s'.heap.bevs b = none ∧ ∀ fd q,
    s.mgr.getHandlerByEvent s.heap b ≠ some q →
      (s'.mgr.handlerPool.lookup fd = some q ↔ s.mgr.handlerPool.lookup fd = some q)
  | .changeNetStateByEvent .. => s'.mgr = s.mgr
  | .walkThrough act _ => ∀ fd q,
    (s'.mgr.handlerPool.lookup fd = some q → s.mgr.handlerPool.lookup fd = some q) ∧
    (s.mgr.handlerPool.lookup fd = some q → s'.mgr.handlerPool.lookup fd = some q ∨
      s'.heap.nets q = none ∧ ∃ v h, (act.doSomething q v h).1 = true)

namespace CursorMonitor

/-- The pool is exact. -/
structure Exact (s : CursorMonitor γ) : Prop where
  keys : ∀ fd, fd ∈ s.mgr.handlerPool ↔ ∃ b e, s.heap.bevs b = some e ∧ e.fd = fd
  entry : ∀ fd p, s.mgr.handlerPool.lookup fd = some p → ∃ n, s.heap.nets p = some n
  own : ∀ p n, s.heap.nets p = some n → ∃ b e, s.heap.Live p n b e ∧
    ∀ fd, s.mgr.handlerPool.lookup fd = some p ↔ fd = e.fd
  found : ∀ p n b e, s.heap.Live p n b e → s.mgr.getHandlerByEvent s.heap b = some p

theorem exact_of_sound {s : CursorMonitor γ} (hs : s.mgr.Sound s.heap) : s.Exact where
  keys fd := by
    rw [← AList.lookup_isSome, Option.isSome_iff_exists]
    constructor
    · rintro ⟨p, hp⟩
      obtain ⟨n, b, e, hl, hfd⟩ := hs.lookup_iff.mp hp
      exact ⟨b, e, hl.bev, hfd⟩
    · rintro ⟨b, e, hb, hfd⟩
      obtain ⟨p, n, hl⟩ := hs.owned hb
      exact ⟨p, hs.lookup_iff.mpr ⟨n, b, e, hl, hfd⟩⟩
  entry fd p hp := by
    obtain ⟨n, b, e, hl, _⟩ := hs.lookup_iff.mp hp
    exact ⟨n, hl.net⟩
  own p n hp := by
    obtain ⟨b, e, hl⟩ := hs.ok.heap.owns hp
    refine ⟨b, e, hl, fun fd => ⟨fun hlookup => ?_, fun hfd => ?_⟩⟩
    · obtain ⟨n', b', e', hl', hfd⟩ := hs.lookup_iff.mp hlookup
      obtain rfl := Option.some.inj (hl.net.symm.trans hl'.net)
      obtain rfl := Option.some.inj (hl.hevent.symm.trans hl'.hevent)
      rw [← hfd, Option.some.inj (hl.bev.symm.trans hl'.bev)]
    · exact hs.lookup_iff.mpr ⟨n, b, e, hl, hfd.symm⟩
  found p n b e hl := hs.getHandlerByEvent hl

theorem state_removeHandlerByEvent (s : CursorMonitor γ) (b : BevPtr) :
    (s.removeHandlerByEvent b).state = s.mgr.removeHandlerByEvent s.heap b := by
  rw [removeHandlerByEvent]
  split
  · rfl
  · split_ifs <;> rfl

/-- Removing the connection of this `bufferevent`. -/
theorem removeHandlerByEvent_spec {s : CursorMonitor γ} (hs : s.mgr.Sound s.heap) (b : BevPtr) :
    (s.removeHandlerByEvent b).mgr.Sound (s.removeHandlerByEvent b).heap ∧
      (NetMgrOp.removeHandlerByEvent b : NetMgrOp ν γ).Confined s (s.removeHandlerByEvent b) := by
  have hstate := s.state_removeHandlerByEvent b
  generalize s.removeHandlerByEvent b = s' at hstate ⊢
  obtain ⟨hmgr, hheap⟩ := Prod.ext_iff.mp hstate
  dsimp only [state] at hmgr hheap
  rw [NetMgrOp.Confined, hmgr, hheap, NetHandlerMgr.removeHandlerByEvent]
  cases hfind : s.mgr.getHandlerByEvent s.heap b with
  | none =>
    refine ⟨hs, ?_, fun fd q _ => Iff.rfl⟩
    cases hb : s.heap.bevs b with
    | none => rfl
    | some e =>
      obtain ⟨p, n, hl⟩ := hs.owned hb
      cases (hs.getHandlerByEvent hl).symm.trans hfind
  | some p =>
    have hp : s.mgr.handlerPool.lookup (s.heap.getfd b) = some p := hfind
    refine ⟨hs.eraseEntry hp, ?_, fun fd q hq => ?_⟩
    · obtain ⟨n, c, e, hl, hfd, herase⟩ := hs.heap_eraseEntry hp
      dsimp only
      rw [herase]
      cases hb : s.heap.bevs b with
      | none =>
        by_cases hbc : b = c
        · rw [hbc]
          exact Function.update_self _ _ _
        · exact (Function.update_of_ne hbc _ _).trans hb
      | some f =>
        rw [World.getfd_of_bev hb] at hfd
        rw [hs.ok.heap.fdInj hb hl.bev hfd.symm]
        exact Function.update_self _ _ _
    · exact (hs.lookup_eraseEntry hp fd q).trans
        (and_iff_right fun hqp => hq (hqp ▸ rfl))

theorem removeHandler_spec {s : CursorMonitor γ} (hs : s.mgr.Sound s.heap) (p : NetPtr) :
    (s.removeHandler p).mgr.Sound (s.removeHandler p).heap ∧
      (NetMgrOp.removeHandler p : NetMgrOp ν γ).Confined s (s.removeHandler p) := by
  rw [removeHandler, NetMgrOp.Confined]
  cases hp : s.heap.nets p with
  | none => exact ⟨hs, hp, fun fd q _ => Iff.rfl⟩
  | some n =>
    obtain ⟨b, e, hl⟩ := hs.ok.heap.owns hp
    dsimp only [Option.bind_some]
    rw [hl.hevent]
    obtain ⟨hsound, _, hothers⟩ := removeHandlerByEvent_spec (ν := ν) hs b
    have hfind := hs.getHandlerByEvent hl
    refine ⟨hsound, ?_, fun fd q hqp => hothers fd q fun hq => ?_⟩
    · have hheap : (s.removeHandlerByEvent b).heap = s.heap.release p b := by
        have hstate := s.state_removeHandlerByEvent b
        rw [NetHandlerMgr.removeHandlerByEvent, hfind] at hstate
        exact (congrArg Prod.snd hstate).trans (s.mgr.eraseEntry_snd hl _)
      rw [hheap]
      exact Function.update_self _ _ _
    · exact hqp (Option.some.inj (hq.symm.trans hfind))

/-! ## The walk -/

/-- `s'` comes after `s` in a walk of this visitor. -/
structure Walked (act : IWalkEach ν γ) (s s' : CursorMonitor γ) : Prop where
  sound : s'.mgr.Sound s'.heap
  gone : ∀ {q}, s.heap.nets q = none → s'.heap.nets q = none
  back : ∀ {fd q}, s'.mgr.handlerPool.lookup fd = some q → s.mgr.handlerPool.lookup fd = some q
  kept : ∀ {fd q}, s.mgr.handlerPool.lookup fd = some q → s'.mgr.handlerPool.lookup fd = some q ∨
    s'.heap.nets q = none ∧ ∃ v h, (act.doSomething q v h).1 = true

theorem Walked.refl (act : IWalkEach ν γ) {s : CursorMonitor γ} (hs : s.mgr.Sound s.heap) :
    Walked act s s :=
  ⟨hs, id, id, .inl⟩

theorem Walked.trans {act : IWalkEach ν γ} {s s' s'' : CursorMonitor γ} (h : Walked act s s')
    (h' : Walked act s' s'') : Walked act s s'' where
  sound := h'.sound
  gone hq := h'.gone (h.gone hq)
  back hq := h.back (h'.back hq)
  kept hq := (h.kept hq).elim h'.kept fun hout => .inr ⟨h'.gone hout.1, hout.2⟩

/-- Only the cursor and the records change. -/
theorem Walked.of_pool {act : IWalkEach ν γ} {s s' s'' : CursorMonitor γ} (h : Walked act s s')
    (hpool : s''.mgr.handlerPool = s'.mgr.handlerPool) (hheap : s''.heap = s'.heap) :
    Walked act s s'' where
  sound := hheap ▸ h.sound.of_pool hpool
  gone hq := hheap ▸ h.gone hq
  back hq := h.back (hpool ▸ hq)
  kept hq := by
    rw [hpool, hheap]
    exact h.kept hq

theorem walked_walkEntry (act : IWalkEach ν γ) (fd : Int) (v : ν) {s : CursorMonitor γ}
    (hs : s.mgr.Sound s.heap) : Walked act s (s.walkEntry act fd v).2 := by
  rw [walkEntry]
  cases hp : s.mgr.handlerPool.lookup fd with
  | none => exact (Walked.refl act hs).of_pool rfl rfl
  | some p =>
    have hconns := act.sameConns p v s.heap
    have hvote : ∀ r, act.doSomething p v s.heap = r → r.1 = true →
        ∃ v h, (act.doSomething p v h).1 = true := by
      rintro r rfl hr
      exact ⟨v, s.heap, hr⟩
    dsimp only
    generalize act.doSomething p v s.heap = r at hconns hvote
    obtain ⟨vote, v', h'⟩ := r
    have hsound : s.mgr.Sound h' := hs.sameConns hconns
    cases vote with
    | true =>
      obtain ⟨n, b, e, hl, _, hheap⟩ := hsound.heap_eraseEntry hp
      have hnone : ∀ {q}, h'.nets q = none ∨ q = p →
          (s.mgr.eraseEntry h' fd p).2.nets q = none := by
        intro q hq
        rw [hheap]
        by_cases hqp : q = p
        · rw [hqp]
          exact Function.update_self _ _ _
        · exact (Function.update_of_ne hqp _ _).trans (hq.resolve_right hqp)
      refine ⟨hsound.eraseEntry hp, fun hq => hnone (.inl (hconns.netNone hq)),
        fun hq => ((hsound.lookup_eraseEntry hp _ _).mp hq).2, fun {fd' q} hq => ?_⟩
      by_cases hqp : q = p
      · exact .inr ⟨hnone (.inr hqp), hqp ▸ hvote _ rfl rfl⟩
      · exact .inl ((hsound.lookup_eraseEntry hp _ _).mpr ⟨hqp, hq⟩)
    | false => exact ⟨hsound.of_pool rfl, fun hq => hconns.netNone hq, id, .inl⟩

theorem walked_walkLoop (act : IWalkEach ν γ) (k : Nat) (v : ν) {s : CursorMonitor γ}
    (hs : s.mgr.Sound s.heap) : Walked act s (s.walkLoop act k v).2 := by
  induction k generalizing s v with
  | zero => exact Walked.refl act hs
  | succ k ih =>
    rw [walkLoop]
    split
    · exact (Walked.refl act hs).of_pool rfl rfl
    · next fd _ =>
      have haccess : Walked act s s.access := (Walked.refl act hs).of_pool rfl rfl
      have hentry := walked_walkEntry act fd v haccess.sound
      exact (haccess.trans hentry).trans (ih _ hentry.sound)

theorem walked_walkThrough (act : IWalkEach ν γ) (v : ν) {s : CursorMonitor γ}
    (hs : s.mgr.Sound s.heap) : Walked act s (s.walkThrough act v) := by
  have hloop := walked_walkLoop act kSingleRoundLoopNum v hs
  rw [walkThrough]
  generalize (s.walkLoop act kSingleRoundLoopNum v).2 = s' at hloop
  dsimp only
  split
  · exact hloop.of_pool rfl rfl
  · exact hloop.of_pool rfl rfl

/-! ## One operation, any number of operations -/

theorem sameConns_changeNetStateByEvent (m : NetHandlerMgr) (h : Heap γ) (b : BevPtr)
    (state : NetState) : Heap.SameConns h (m.changeNetStateByEvent h b state) := by
  have hrefl : Heap.SameConns h h := (World.Similar.refl (World.ofMgr m h)).sameConns
  rw [NetHandlerMgr.changeNetStateByEvent]
  cases m.getHandlerByEvent h b with
  | none => exact hrefl
  | some p =>
    dsimp only
    cases hp : h.nets p with
    | none => exact hrefl
    | some n =>
      have hevent : ({ n with state := state } : EasyNet γ).hevent = n.hevent := rfl
      exact (World.similar_setNet (World.ofMgr m h) hp hevent).sameConns

theorem added_spec {s : CursorMonitor γ} (hs : s.mgr.Sound s.heap) {fd : Int}
    (hfd : (World.ofMgr s.mgr s.heap).FdUnused fd) (type : Int) (state : NetState) :
    let w := (World.ofMgr s.mgr s.heap).openAt .frontEnd fd type state
    w.frontendHandlerMgr.Sound w.heap ∧ ∀ fd' p, s.mgr.handlerPool.lookup fd' = some p →
      w.frontendHandlerMgr.handlerPool.lookup fd' = some p :=
  hs.openAt (hfd.freshFd hs.ok) type state

theorem step_sound {s s' : CursorMonitor γ} (hs : s.mgr.Sound s.heap) {op : NetMgrOp ν γ}
    (hfresh : op.Fresh s) (hstep : s.step op = some s') :
    s'.mgr.Sound s'.heap ∧ op.Confined s s' := by
  cases op with
  | addHandlerBySocket sockFd type bevOk rehash =>
    obtain rfl := Option.some.inj hstep
    dsimp only [added, NetMgrOp.Confined, NetHandlerMgr.addHandlerBySocket]
    by_cases hneg : sockFd < 0
    · rw [if_pos hneg]
      exact ⟨hs, fun _ _ => id⟩
    · rw [if_neg hneg]
      cases bevOk with
      | false => exact ⟨hs.newDelete, fun _ _ => id⟩
      | true => exact added_spec hs (hfresh (not_lt.mp hneg)) type .netEstablished
  | addHandlerByUri type connect rehash =>
    obtain rfl := Option.some.inj hstep
    dsimp only [added, NetMgrOp.Confined, NetHandlerMgr.addHandlerByUri]
    cases connect with
    | none => exact ⟨hs.newDelete, fun _ _ => id⟩
    | some fd => exact added_spec hs (hfresh fd rfl) type .netConnecting
  | removeHandler p =>
    obtain rfl := Option.some.inj hstep
    exact removeHandler_spec hs p
  | removeHandlerByEvent b =>
    obtain rfl := Option.some.inj hstep
    exact removeHandlerByEvent_spec hs b
  | changeNetStateByEvent b state =>
    obtain rfl := Option.some.inj hstep
    exact ⟨hs.sameConns (sameConns_changeNetStateByEvent s.mgr s.heap b state), rfl⟩
  | walkThrough act v =>
    obtain rfl := Option.some.inj hstep
    have hwalk := walked_walkThrough act v hs
    exact ⟨hwalk.sound, fun _ _ => ⟨hwalk.back, hwalk.kept⟩⟩

theorem pool_sound_run {recvBuffSize : RapBuffer} {fate : Nat → Bool} {ops : List (NetMgrOp ν γ)}
    {s : CursorMonitor γ} (hkernel : Run.Along step (fun s op => op.Fresh s)
      (start recvBuffSize fate) ops)
    (hrun : Run.run step (start recvBuffSize fate) ops = some s) : s.mgr.Sound s.heap :=
  Run.run_inv (fun _ _ _ hs hfresh hstep => (step_sound hs hfresh hstep).1)
    (NetHandlerMgr.Sound.init recvBuffSize fate) hkernel hrun

/-- After any operations the pool is exact, and a further operation changes only the entries it is
about. -/
theorem exact_run {recvBuffSize : RapBuffer} {fate : Nat → Bool} {ops : List (NetMgrOp ν γ)}
    {s : CursorMonitor γ} (hkernel : Run.Along step (fun s op => op.Fresh s)
      (start recvBuffSize fate) ops)
    (hrun : Run.run step (start recvBuffSize fate) ops = some s) :
    s.Exact ∧ ∀ (op : NetMgrOp ν γ) s', op.Fresh s → s.step op = some s' → op.Confined s s' := by
  have hsound := pool_sound_run hkernel hrun
  refine ⟨exact_of_sound hsound, fun op s' hfresh hstep => ?_⟩
  exact (step_sound hsound hfresh hstep).2

/-- Two clients and a backend come and one client goes; its descriptor is used again. -/
def reusedDescriptor : List (NetMgrOp Unit Unit) :=
  [.addHandlerBySocket 5 0 true false, .addHandlerBySocket 6 0 true false,
    .addHandlerByUri 1 (some 7) false, .removeHandler 0, .addHandlerBySocket 5 0 true false]

/-- Three connections are left, the last one under the descriptor of the first. -/
theorem exact_reusedDescriptor : ∃ s : CursorMonitor Unit,
    Run.run step (start .small fun _ => true) reusedDescriptor = some s ∧ s.Exact ∧
      s.mgr.handlerPool.entries.map (fun entry => (entry.1, entry.2)) =
        [(5, 3), (7, 2), (6, 1)] := by
  have hpool : (Run.run step (start .small fun _ => true) reusedDescriptor).map
      (fun s => s.mgr.handlerPool.entries.map fun entry => (entry.1, entry.2)) =
      some [(5, 3), (7, 2), (6, 1)] := by decide +kernel
  obtain ⟨s, hs, hentries⟩ := Option.map_eq_some_iff.mp hpool
  exact ⟨s, hs, (exact_run (by decide +kernel) hs).1, hentries⟩

end CursorMonitor

end Rapidapp
