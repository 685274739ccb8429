import Rapidapp.Framework.FrameLoop

/-!
# The pools are exact

`World.Ok` is what the framework keeps true of its connections: every live `EasyNet` owns a
`bufferevent` of its own and sits in one pool under that `bufferevent`'s descriptor, and a
pool holds nothing else. It is preserved by every operation of the interface, given the
kernel's guarantee that a new socket gets a descriptor no open socket has.

`World.Stable` is the frame rule that goes with it: what a piece of application code leaves
alone on a connection that it does not destroy.
-/

namespace Rapidapp

variable {σ γ : Type}

/-- `p` is a live `EasyNet`, `n` its contents, `b` its `bufferevent` and `e` the contents. -/
structure Heap.Live (h : Heap γ) (p : NetPtr) (n : EasyNet γ) (b : BevPtr) (e : BufferEvent) :
    Prop where
  net : h.nets p = some n
  hevent : n.hevent = some b
  bev : h.bevs b = some e

/-- The objects of the heap: addresses in use were allocated, every `EasyNet` owns a
`bufferevent`, no two own the same one, and no two `bufferevent`s share a descriptor. -/
structure Heap.Ok (h : Heap γ) : Prop where
  netLt : ∀ {p n}, h.nets p = some n → p < h.nextNet
  bevLt : ∀ {b e}, h.bevs b = some e → b < h.nextBev
  owns : ∀ {p n}, h.nets p = some n → ∃ b e, h.Live p n b e
  inj : ∀ {p q n m b}, h.nets p = some n → h.nets q = some m → n.hevent = some b →
    m.hevent = some b → p = q
  fdInj : ∀ {b c e f}, h.bevs b = some e → h.bevs c = some f → e.fd = f.fd → b = c

namespace World

/-- Pools and heap agree: an entry is a live connection under its own descriptor, every live
connection has an entry, and no descriptor is in both pools. -/
structure Ok (w : World σ γ) : Prop where
  heap : w.heap.Ok
  entry : ∀ {side fd p}, (w.mgr side).handlerPool.lookup fd = some p →
    ∃ n b e, w.heap.Live p n b e ∧ e.fd = fd
  pooled : ∀ {p n b e}, w.heap.Live p n b e →
    ∃ side, (w.mgr side).handlerPool.lookup e.fd = some p
  apart : ∀ {fd p q}, w.frontendHandlerMgr.handlerPool.lookup fd = some p →
    w.backendHandlerMgr.handlerPool.lookup fd = some q → False

/-- What code that does not destroy a connection leaves as it was: its pool entry, its
`bufferevent` with input and descriptor, its `nid` and bindings; and the managers' buffers. -/
structure Stable (w w' : World σ γ) : Prop where
  svcMode : w'.svcMode = w.svcMode
  now : w'.now = w.now
  recvBuffer : ∀ side, (w'.mgr side).recvBuffer = (w.mgr side).recvBuffer
  nextNet : w.heap.nextNet ≤ w'.heap.nextNet
  gone : ∀ {p}, p < w.heap.nextNet → w.heap.nets p = none → w'.heap.nets p = none
  net : ∀ {p n n'}, w.heap.nets p = some n → w'.heap.nets p = some n' →
    n'.hevent = n.hevent ∧ n'.nid = n.nid ∧ n'.netType = n.netType ∧ n'.rpcBinded = n.rpcBinded
  bev : ∀ {p n n' b e}, w.heap.Live p n b e → w'.heap.nets p = some n' →
    ∃ e', w'.heap.bevs b = some e' ∧ e'.fd = e.fd ∧ e'.input = e.input ∧ e'.drained = e.drained
  pool : ∀ {side fd p n'}, (w.mgr side).handlerPool.lookup fd = some p →
    w'.heap.nets p = some n' → (w'.mgr side).handlerPool.lookup fd = some p

theorem Ok.frontEntry {w : World σ γ} (h : Ok w) {fd : Int} {p : NetPtr}
    (hp : w.frontendHandlerMgr.handlerPool.lookup fd = some p) :
    ∃ n b e, w.heap.Live p n b e ∧ e.fd = fd :=
  have hp : (w.mgr .frontEnd).handlerPool.lookup fd = some p := hp
  h.entry hp

theorem Stable.frontPool {w w' : World σ γ} (h : Stable w w') {fd : Int} {p : NetPtr}
    {n : EasyNet γ} (hp : w.frontendHandlerMgr.handlerPool.lookup fd = some p)
    (hn : w'.heap.nets p = some n) : w'.frontendHandlerMgr.handlerPool.lookup fd = some p :=
  have hp : (w.mgr .frontEnd).handlerPool.lookup fd = some p := hp
  h.pool hp hn

/-- A connection that is still there after the second step was there after the first. -/
theorem Stable.alive {a b c : World σ γ} (ha : a.Ok) (hab : Stable a b) (hbc : Stable b c)
    {p : NetPtr} {n n'' : EasyNet γ} (hp : a.heap.nets p = some n)
    (hp'' : c.heap.nets p = some n'') : ∃ n', b.heap.nets p = some n' := by
  cases hb : b.heap.nets p with
  | some n' => exact ⟨n', rfl⟩
  | none =>
    have hlt := lt_of_lt_of_le (ha.heap.netLt hp) hab.nextNet
    rw [hbc.gone hlt hb] at hp''
    cases hp''

theorem Stable.trans {a b c : World σ γ} (ha : a.Ok) (hab : Stable a b) (hbc : Stable b c) :
    Stable a c where
  svcMode := hbc.svcMode.trans hab.svcMode
  now := hbc.now.trans hab.now
  recvBuffer side := (hbc.recvBuffer side).trans (hab.recvBuffer side)
  nextNet := le_trans hab.nextNet hbc.nextNet
  gone hlt hp := hbc.gone (lt_of_lt_of_le hlt hab.nextNet) (hab.gone hlt hp)
  net hp hp'' := by
    obtain ⟨n', hp'⟩ := hab.alive ha hbc hp hp''
    obtain ⟨h1, h2, h3, h4⟩ := hab.net hp hp'
    obtain ⟨h1', h2', h3', h4'⟩ := hbc.net hp' hp''
    exact ⟨h1'.trans h1, h2'.trans h2, h3'.trans h3, h4'.trans h4⟩
  bev hl hp'' := by
    obtain ⟨n', hp'⟩ := hab.alive ha hbc hl.net hp''
    obtain ⟨e', he', hfd, hin, hdr⟩ := hab.bev hl hp'
    have hl' : b.heap.Live _ n' _ e' := ⟨hp', ((hab.net hl.net hp').1).trans hl.hevent, he'⟩
    obtain ⟨e'', he'', hfd', hin', hdr'⟩ := hbc.bev hl' hp''
    exact ⟨e'', he'', hfd'.trans hfd, hin'.trans hin, hdr'.trans hdr⟩
  pool hl hp'' := by
    obtain ⟨n, _, _, hlive, _⟩ := ha.entry hl
    obtain ⟨n', hp'⟩ := hab.alive ha hbc hlive.net hp''
    exact hbc.pool (hab.pool hl hp') hp''

/-! ## Updates that keep every object and every descriptor -/

/-- `w'` has the same pools as `w` and the same objects, with the same owners and descriptors;
addresses may have been used up meanwhile. -/
structure Similar (w w' : World σ γ) : Prop where
  pool : ∀ side, (w'.mgr side).handlerPool = (w.mgr side).handlerPool
  nextNet : w.heap.nextNet ≤ w'.heap.nextNet
  nextBev : w.heap.nextBev ≤ w'.heap.nextBev
  netNone : ∀ {p}, w.heap.nets p = none → w'.heap.nets p = none
  net : ∀ {p n}, w.heap.nets p = some n → ∃ n', w'.heap.nets p = some n' ∧ n'.hevent = n.hevent
  bevNone : ∀ {b}, w.heap.bevs b = none → w'.heap.bevs b = none
  bev : ∀ {b e}, w.heap.bevs b = some e → ∃ e', w'.heap.bevs b = some e' ∧ e'.fd = e.fd

theorem Similar.live {w w' : World σ γ} (hs : Similar w w') {p : NetPtr} {n : EasyNet γ}
    {b : BevPtr} {e : BufferEvent} (hl : w.heap.Live p n b e) :
    ∃ n' e', w'.heap.Live p n' b e' ∧ e'.fd = e.fd := by
  obtain ⟨n', hn', hev⟩ := hs.net hl.net
  obtain ⟨e', he', hfd⟩ := hs.bev hl.bev
  exact ⟨n', e', ⟨hn', hev.trans hl.hevent, he'⟩, hfd⟩

theorem Similar.net_back {w w' : World σ γ} (hs : Similar w w') {p : NetPtr} {n' : EasyNet γ}
    (h : w'.heap.nets p = some n') : ∃ n, w.heap.nets p = some n ∧ n'.hevent = n.hevent := by
  cases hn : w.heap.nets p with
  | none => rw [hs.netNone hn] at h; cases h
  | some n =>
    obtain ⟨m, hm, hev⟩ := hs.net hn
    cases hm.symm.trans h
    exact ⟨n, rfl, hev⟩

theorem Similar.bev_back {w w' : World σ γ} (hs : Similar w w') {b : BevPtr} {e' : BufferEvent}
    (h : w'.heap.bevs b = some e') : ∃ e, w.heap.bevs b = some e ∧ e'.fd = e.fd := by
  cases he : w.heap.bevs b with
  | none => rw [hs.bevNone he] at h; cases h
  | some e =>
    obtain ⟨f, hf, hfd⟩ := hs.bev he
    cases hf.symm.trans h
    exact ⟨e, rfl, hfd⟩

theorem Similar.live_back {w w' : World σ γ} (hs : Similar w w') {p : NetPtr} {n' : EasyNet γ}
    {b : BevPtr} {e' : BufferEvent} (hl : w'.heap.Live p n' b e') :
    ∃ n e, w.heap.Live p n b e ∧ e'.fd = e.fd := by
  obtain ⟨n, hn, hev⟩ := hs.net_back hl.net
  obtain ⟨e, he, hfd⟩ := hs.bev_back hl.bev
  exact ⟨n, e, ⟨hn, hev.symm.trans hl.hevent, he⟩, hfd⟩

theorem Ok.similar {w w' : World σ γ} (h : Ok w) (hs : Similar w w') : Ok w' where
  heap := {
    netLt := fun hp => by
      obtain ⟨n, hn, _⟩ := hs.net_back hp
      exact lt_of_lt_of_le (h.heap.netLt hn) hs.nextNet
    bevLt := fun hb => by
      obtain ⟨e, he, _⟩ := hs.bev_back hb
      exact lt_of_lt_of_le (h.heap.bevLt he) hs.nextBev
    owns := fun hp => by
      obtain ⟨n, hn, hev⟩ := hs.net_back hp
      obtain ⟨b, e, hl⟩ := h.heap.owns hn
      obtain ⟨e', he', _⟩ := hs.bev hl.bev
      exact ⟨b, e', hp, hev.trans hl.hevent, he'⟩
    inj := fun hp hq hpb hqb => by
      obtain ⟨n, hn, hnev⟩ := hs.net_back hp
      obtain ⟨m, hm, hmev⟩ := hs.net_back hq
      exact h.heap.inj hn hm (hnev.symm.trans hpb) (hmev.symm.trans hqb)
    fdInj := fun hb hc hfd => by
      obtain ⟨e, he, hefd⟩ := hs.bev_back hb
      obtain ⟨f, hf, hffd⟩ := hs.bev_back hc
      exact h.heap.fdInj he hf (hefd.symm.trans (hfd.trans hffd)) }
  entry := fun {side fd p} hl => by
    rw [hs.pool side] at hl
    obtain ⟨n, b, e, hlive, hfd⟩ := h.entry hl
    obtain ⟨n', e', hlive', hfd'⟩ := hs.live hlive
    exact ⟨n', b, e', hlive', hfd'.trans hfd⟩
  pooled := fun hlive' => by
    obtain ⟨n, e, hlive, hfd⟩ := hs.live_back hlive'
    obtain ⟨side, hl⟩ := h.pooled hlive
    exact ⟨side, by rw [hs.pool side, hfd]; exact hl⟩
  apart := fun hf hb => by
    have h1 := hs.pool .frontEnd
    have h2 := hs.pool .backEnd
    simp only [mgr] at h1 h2
    rw [h1] at hf
    rw [h2] at hb
    exact h.apart hf hb

theorem ok_start (app : σ) (fate : Nat → Bool) (frontRecv backRecv : RapBuffer)
    (svcMode : SvcMode) (now : Int) :
    Ok (start (γ := γ) app fate frontRecv backRecv svcMode now) where
  heap := {
    netLt := nofun
    bevLt := nofun
    owns := nofun
    inj := nofun
    fdInj := nofun }
  entry {side fd p} h := by cases side <;> cases h
  pooled h := nomatch h.net
  apart h _ := nomatch h

/-- Updates of other parts of the state. -/
theorem Similar.of_eq {w w' : World σ γ} (hheap : w'.heap = w.heap)
    (hmgr : ∀ side, w'.mgr side = w.mgr side) : Similar w w' where
  pool side := by rw [hmgr]
  nextNet := by rw [hheap]
  nextBev := by rw [hheap]
  netNone h := by rw [hheap, h]
  net h := ⟨_, by rw [hheap, h], rfl⟩
  bevNone h := by rw [hheap, h]
  bev h := ⟨_, by rw [hheap, h], rfl⟩

theorem Stable.of_eq {w w' : World σ γ} (hheap : w'.heap = w.heap)
    (hmgr : ∀ side, w'.mgr side = w.mgr side) (hmode : w'.svcMode = w.svcMode)
    (hnow : w'.now = w.now) : Stable w w' where
  svcMode := hmode
  now := hnow
  recvBuffer side := by rw [hmgr]
  nextNet := by rw [hheap]
  gone _ h := by rw [hheap, h]
  net h h' := by
    rw [hheap, h] at h'
    cases h'
    exact ⟨rfl, rfl, rfl, rfl⟩
  bev hl _ := ⟨_, by rw [hheap, hl.bev], rfl, rfl, rfl⟩
  pool h _ := by rw [hmgr, h]

theorem Stable.refl (w : World σ γ) : Stable w w := Stable.of_eq rfl (fun _ => rfl) rfl rfl

/-- Storing new contents for a live `EasyNet` that keep its `bufferevent`. -/
theorem similar_setNet (w : World σ γ) {p : NetPtr} {n n' : EasyNet γ}
    (hp : w.heap.nets p = some n) (hev : n'.hevent = n.hevent) :
    Similar w { w with heap := w.heap.setNet p n' } where
  pool side := by cases side <;> rfl
  nextNet := le_refl _
  nextBev := le_refl _
  netNone {q} hq := by
    have hne : q ≠ p := fun h => by rw [h, hp] at hq; cases hq
    simp only [Heap.setNet, Function.update_of_ne hne, hq]
  net {q m} hq := by
    by_cases h : q = p
    · subst h
      cases hp.symm.trans hq
      exact ⟨n', by simp only [Heap.setNet, Function.update_self], hev⟩
    · exact ⟨m, by simp only [Heap.setNet, Function.update_of_ne h, hq], rfl⟩
  bevNone h := h
  bev h := ⟨_, h, rfl⟩

/-- Storing new contents for a live `bufferevent` that keep its descriptor. -/
theorem similar_setBev (w : World σ γ) {b : BevPtr} {e e' : BufferEvent}
    (hb : w.heap.bevs b = some e) (hfd : e'.fd = e.fd) :
    Similar w { w with heap := w.heap.setBev b e' } where
  pool side := by cases side <;> rfl
  nextNet := le_refl _
  nextBev := le_refl _
  netNone h := h
  net h := ⟨_, h, rfl⟩
  bevNone {c} hc := by
    have hne : c ≠ b := fun h => by rw [h, hb] at hc; cases hc
    simp only [Heap.setBev, Function.update_of_ne hne, hc]
  bev {c f} hc := by
    by_cases h : c = b
    · subst h
      cases hb.symm.trans hc
      exact ⟨e', by simp only [Heap.setBev, Function.update_self], hfd⟩
    · exact ⟨f, by simp only [Heap.setBev, Function.update_of_ne h, hc], rfl⟩

theorem Similar.refl (w : World σ γ) : Similar w w := Similar.of_eq rfl fun _ => rfl

theorem Similar.trans {w w' w'' : World σ γ} (h : Similar w w') (h' : Similar w' w'') :
    Similar w w'' where
  pool side := (h'.pool side).trans (h.pool side)
  nextNet := le_trans h.nextNet h'.nextNet
  nextBev := le_trans h.nextBev h'.nextBev
  netNone hp := h'.netNone (h.netNone hp)
  net hp := by
    obtain ⟨n', hn', hev⟩ := h.net hp
    obtain ⟨n'', hn'', hev'⟩ := h'.net hn'
    exact ⟨n'', hn'', hev'.trans hev⟩
  bevNone hb := h'.bevNone (h.bevNone hb)
  bev hb := by
    obtain ⟨e', he', hfd⟩ := h.bev hb
    obtain ⟨e'', he'', hfd'⟩ := h'.bev he'
    exact ⟨e'', he'', hfd'.trans hfd⟩

end World

end Rapidapp
