import Rapidapp.Framework.WorldOk

/-!
# What one call of the interface does to the connections

For each operation of `IFrameWork`: what it does to the heap, and that it keeps `World.Ok`
and is `World.Stable`. The results about arbitrary application code, `ApiReach.ok` and
`ApiReach.stable`, follow by induction on the calls it makes.
-/

namespace Rapidapp

variable {σ γ : Type}

/-! ## Writing -/

/-- `h'` is `h` after some writes: `out b` was appended to the output of `b`. -/
structure Heap.Wrote (h h' : Heap γ) (out : BevPtr → List UInt8) : Prop where
  nets : h'.nets = h.nets
  bevs : ∀ b, h'.bevs b = (h.bevs b).map fun e => { e with output := e.output ++ out b }
  nextNet : h'.nextNet = h.nextNet
  nextBev : h'.nextBev = h.nextBev
  nidSeed : h'.nidSeed = h.nidSeed

namespace Heap

theorem wrote_nothing (h : Heap γ) (k : Nat) :
    Wrote h { h with writes := k } (fun _ => []) where
  nets := rfl
  bevs b := by cases h.bevs b <;> simp
  nextNet := rfl
  nextBev := rfl
  nidSeed := rfl

theorem Wrote.bev {h h' : Heap γ} {out : BevPtr → List UInt8} (hw : Wrote h h' out) {b : BevPtr}
    {e : BufferEvent} (hb : h.bevs b = some e) :
    h'.bevs b = some { e with output := e.output ++ out b } := by
  rw [hw.bevs, hb, Option.map_some]

theorem Wrote.trans {h h' h'' : Heap γ} {o o' : BevPtr → List UInt8} (hw : Wrote h h' o)
    (hw' : Wrote h' h'' o') : Wrote h h'' (fun b => o b ++ o' b) where
  nets := hw'.nets.trans hw.nets
  bevs b := by rw [hw'.bevs, hw.bevs, Option.map_map]; simp [Function.comp_def]
  nextNet := hw'.nextNet.trans hw.nextNet
  nextBev := hw'.nextBev.trans hw.nextBev
  nidSeed := hw'.nidSeed.trans hw.nidSeed

/-- `bufferevent_write` fails, or appends the bytes to that output. -/
theorem buffereventWrite_cases (h : Heap γ) (b : BevPtr) (bytes : List UInt8) :
    (¬ ((h.bevs b).isSome ∧ h.fate h.writes = true) ∧
      ∃ h', h.buffereventWrite b bytes = (false, h') ∧ Wrote h h' fun _ => []) ∨
    ∃ e h', h.bevs b = some e ∧ h.fate h.writes = true ∧ h'.fate = h.fate ∧
      h'.writes = h.writes + 1 ∧ h.buffereventWrite b bytes = (true, h') ∧
      Wrote h h' fun c => if c = b then bytes else [] := by
  have hfail := wrote_nothing h (h.writes + 1)
  cases hb : h.bevs b with
  | none => exact .inl ⟨by simp, _, by simp only [buffereventWrite, hb], hfail⟩
  | some e =>
    cases hf : h.fate h.writes with
    | false =>
      refine .inl ⟨by simp, _, ?_, hfail⟩
      simp only [buffereventWrite, hb, hf, Bool.false_eq_true, if_false]
    | true =>
      refine .inr ⟨e, { h with writes := h.writes + 1 }.setBev b
        { e with output := e.output ++ bytes }, rfl, rfl, rfl, rfl, ?_, ?_⟩
      · simp only [buffereventWrite, hb, hf, if_true]
      refine ⟨rfl, fun c => ?_, rfl, rfl, rfl⟩
      by_cases hc : c = b
      · subst hc; simp [setBev, hb]
      · cases hcb : h.bevs c <;> simp [setBev, hc, hcb]

/-- Both writes of a frame: the first one fails, only the second one does, or the whole frame ends
up in that output. -/
theorem writeFrame_cases (h : Heap γ) (b : BevPtr) (msg : List UInt8) :
    (¬ ((h.bevs b).isSome ∧ h.fate h.writes = true) ∧
      ∃ h', h.writeFrame b msg = (.easyNetErrSendError, h') ∧ Wrote h h' fun _ => []) ∨
    ∃ e, h.bevs b = some e ∧ h.fate h.writes = true ∧
      ((h.fate (h.writes + 1) = false ∧ ∃ h', h.writeFrame b msg = (.easyNetErrSendError, h') ∧
          Wrote h h' fun c => if c = b then lengthHeader msg.length else []) ∨
        (h.fate (h.writes + 1) = true ∧ ∃ h', h.writeFrame b msg = (.easyNetOk, h') ∧
          Wrote h h' fun c => if c = b then lengthHeader msg.length ++ msg else [])) := by
  unfold writeFrame
  obtain ⟨hnot, h₁, h1, hw1⟩ | ⟨e, h₁, he, hfirst, hfate, hwrites, h1, hw1⟩ :=
    buffereventWrite_cases h b (lengthHeader msg.length)
  · exact .inl ⟨hnot, h₁, by rw [h1], hw1⟩
  refine .inr ⟨e, he, hfirst, ?_⟩
  have hb₁ : (h₁.bevs b).isSome := by
    rw [hw1.bev he]
    rfl
  obtain ⟨hnot, h₂, h2, hw2⟩ | ⟨_, h₂, _, hsecond, _, _, h2, hw2⟩ := buffereventWrite_cases h₁ b msg
  · refine .inl ⟨?_, h₂, by simp only [h1, h2], by simpa using hw1.trans hw2⟩
    rw [hfate, hwrites] at hnot
    simpa [hb₁] using hnot
  · rw [hfate, hwrites] at hsecond
    refine .inr ⟨hsecond, h₂, by simp only [h1, h2], ?_⟩
    have hboth := hw1.trans hw2
    convert hboth using 2 with c
    by_cases hc : c = b <;> simp [hc]

theorem send_eq_writeFrame {h : Heap γ} {p : NetPtr} {n : EasyNet γ} {b : BevPtr}
    {msg : List UInt8} (hmsg : msg ≠ []) (hn : h.nets p = some n) (hev : n.hevent = some b)
    (hst : n.state = .netEstablished) : h.send p msg = h.writeFrame b msg := by
  simp [send, hmsg, hn, hev, hst]

/-- The ways through `Send`: it refuses without writing, or writes the frame. -/
theorem send_cases (h : Heap γ) (p : NetPtr) (msg : List UInt8) :
    (msg = [] ∧ h.send p msg = (.easyNetOk, h)) ∨
    (∃ r, r ≠ .easyNetOk ∧ h.send p msg = (r, h)) ∨
    ∃ n b, msg ≠ [] ∧ h.nets p = some n ∧ n.hevent = some b ∧ n.state = .netEstablished ∧
      h.send p msg = h.writeFrame b msg := by
  by_cases hmsg : msg = []
  · exact .inl ⟨hmsg, by simp only [send, hmsg, if_true]⟩
  refine .inr ?_
  cases hp : h.nets p with
  | none => exact .inl ⟨.easyNetErrSendError, by decide, by simp only [send, hmsg, hp, if_false]⟩
  | some n =>
    cases hev : n.hevent with
    | none =>
      exact .inl ⟨.easyNetErrSendError, by decide, by simp only [send, hmsg, hp, hev, if_false]⟩
    | some b =>
      by_cases hst : n.state = .netEstablished
      · exact .inr ⟨n, b, hmsg, rfl, hev, hst, send_eq_writeFrame hmsg hp hev hst⟩
      by_cases hfl : n.state = .netFailed
      · exact .inl ⟨.easyNetErrEstablishFailed, by decide,
          by simp [send, hmsg, hp, hev, hfl]⟩
      · exact .inl ⟨.easyNetErrNotYetEstablished, by decide,
          by simp [send, hmsg, hp, hev, hst, hfl]⟩

/-- Whether or not `Send` succeeds, it writes to the connection's own output only. -/
theorem wrote_send (h : Heap γ) (p : NetPtr) (msg : List UInt8) :
    ∃ out, Wrote h (h.send p msg).2 out ∧
      ∀ b, out b ≠ [] → ∃ n, h.nets p = some n ∧ n.hevent = some b := by
  have hnothing : ∀ b : BevPtr, (fun _ => []) b ≠ ([] : List UInt8) →
      ∃ n, h.nets p = some n ∧ n.hevent = some b := fun b hb => absurd rfl hb
  obtain ⟨_, hs⟩ | ⟨r, _, hs⟩ | ⟨n, b, _, hp, hev, _, hs⟩ := send_cases h p msg
  · rw [hs]; exact ⟨_, wrote_nothing h h.writes, hnothing⟩
  · rw [hs]; exact ⟨_, wrote_nothing h h.writes, hnothing⟩
  rw [hs]
  have own : ∀ out : BevPtr → List UInt8, (∀ c, c ≠ b → out c = []) →
      ∀ c, out c ≠ [] → ∃ n, h.nets p = some n ∧ n.hevent = some c := by
    intro out hout c hc
    have hcb : c = b := by_contra fun hne => hc (hout c hne)
    exact ⟨n, hp, hcb ▸ hev⟩
  obtain ⟨_, h', hw, hwrote⟩ | ⟨e, _, _, ⟨_, h', hw, hwrote⟩ | ⟨_, h', hw, hwrote⟩⟩ :=
    writeFrame_cases h b msg
  · rw [hw]; exact ⟨_, hwrote, hnothing⟩
  · rw [hw]; exact ⟨_, hwrote, own _ fun c hc => by simp [hc]⟩
  · rw [hw]; exact ⟨_, hwrote, own _ fun c hc => by simp [hc]⟩

/-- A `Send` that succeeds has written the header and the payload. -/
theorem send_ok {h h' : Heap γ} {p : NetPtr} {msg : List UInt8} (hmsg : msg ≠ [])
    (hok : h.send p msg = (.easyNetOk, h')) :
    ∃ n b e, h.Live p n b e ∧ n.state = .netEstablished ∧
      Wrote h h' (fun c => if c = b then lengthHeader msg.length ++ msg else []) := by
  obtain ⟨hnil, _⟩ | ⟨r, hr, hs⟩ | ⟨n, b, _, hp, hev, hst, hs⟩ := send_cases h p msg
  · exact absurd hnil hmsg
  · rw [hok] at hs
    cases hs
    exact absurd rfl hr
  obtain ⟨_, h₁, hw, _⟩ | ⟨e, he, _, ⟨_, h₁, hw, _⟩ | ⟨_, h₁, hw, hwrote⟩⟩ :=
    writeFrame_cases h b msg
  · rw [hok, hw] at hs; cases hs
  · rw [hok, hw] at hs; cases hs
  · rw [hok, hw] at hs
    cases hs
    exact ⟨n, b, e, ⟨hp, hev, he⟩, hst, hwrote⟩

end Heap

namespace World

/-- Writing keeps the invariant and leaves the connections as they were. -/
theorem similar_wrote {w : World σ γ} {h' : Heap γ} {out : BevPtr → List UInt8}
    (hw : w.heap.Wrote h' out) : Similar w { w with heap := h' } where
  pool side := by cases side <;> rfl
  nextNet := hw.nextNet.ge
  nextBev := hw.nextBev.ge
  netNone hp := by rw [hw.nets, hp]
  net {p n} hp := ⟨n, by rw [hw.nets, hp], rfl⟩
  bevNone hb := by rw [hw.bevs, hb]; rfl
  bev hb := ⟨_, hw.bev hb, rfl⟩

theorem stable_wrote {w : World σ γ} {h' : Heap γ} {out : BevPtr → List UInt8}
    (hw : w.heap.Wrote h' out) : Stable w { w with heap := h' } where
  svcMode := rfl
  now := rfl
  recvBuffer side := by cases side <;> rfl
  nextNet := hw.nextNet.ge
  gone _ hp := by rw [hw.nets, hp]
  net hp hp' := by
    rw [hw.nets, hp] at hp'
    cases hp'
    exact ⟨rfl, rfl, rfl, rfl⟩
  bev hl _ := ⟨_, hw.bev hl.bev, rfl, rfl, rfl⟩
  pool {side fd p n'} hl _ := by cases side <;> exact hl

/-- Storing new contents for an `EasyNet` that keep what `Stable` speaks of. -/
theorem stable_setNet (w : World σ γ) {p : NetPtr} {n n' : EasyNet γ}
    (hp : w.heap.nets p = some n) (hev : n'.hevent = n.hevent) (hnid : n'.nid = n.nid)
    (hty : n'.netType = n.netType) (hrpc : n'.rpcBinded = n.rpcBinded) :
    Stable w { w with heap := w.heap.setNet p n' } where
  svcMode := rfl
  now := rfl
  recvBuffer side := by cases side <;> rfl
  nextNet := le_refl _
  gone {q} _ hq := (similar_setNet w hp hev).netNone hq
  net {q m m'} hq hq' := by
    by_cases h : q = p
    · subst h
      cases hp.symm.trans hq
      simp only [Heap.setNet, Function.update_self] at hq'
      cases hq'
      exact ⟨hev, hnid, hty, hrpc⟩
    · simp only [Heap.setNet, Function.update_of_ne h] at hq'
      cases hq.symm.trans hq'
      exact ⟨rfl, rfl, rfl, rfl⟩
  bev hl _ := ⟨_, hl.bev, rfl, rfl, rfl⟩
  pool {side fd q m} hl _ := by cases side <;> exact hl

end World

/-! ## Removing -/

/-- The heap without this `EasyNet` and its `bufferevent`. -/
def Heap.release (h : Heap γ) (p : NetPtr) (b : BevPtr) : Heap γ :=
  { h with nets := Function.update h.nets p none, bevs := Function.update h.bevs b none }

theorem NetHandlerMgr.eraseEntry_snd (m : NetHandlerMgr) {h : Heap γ} {p : NetPtr} {n : EasyNet γ}
    {b : BevPtr} {e : BufferEvent} (hl : h.Live p n b e) (fd : Int) :
    (m.eraseEntry h fd p).2 = h.release p b := by
  simp [eraseEntry, Heap.destroyUserContext, Heap.cleanUp, Heap.deleteNet, Heap.release,
    Heap.setNet, hl.net, hl.hevent]

namespace World

/-- The entry under `fd` goes, with its objects. -/
def eraseAt (w : World σ γ) (side : Side) (fd : Int) (p : NetPtr) : World σ γ :=
  w.setMgr side ((w.mgr side).eraseEntry w.heap fd p)

theorem lookup_eraseAt (w : World σ γ) (side s : Side) (fd fd' : Int) (p : NetPtr) :
    ((w.eraseAt side fd p).mgr s).handlerPool.lookup fd' =
      if s = side ∧ fd' = fd then none else (w.mgr s).handlerPool.lookup fd' := by
  have herase : ∀ pool : HandlerPool,
      (pool.erase fd).lookup fd' = if fd' = fd then none else pool.lookup fd' := by
    intro pool
    by_cases hfd : fd' = fd
    · subst hfd; rw [if_pos rfl]; exact AList.lookup_erase _ _
    · rw [if_neg hfd]; exact AList.lookup_erase_ne hfd
  cases side <;> cases s <;>
    simp [eraseAt, setMgr, mgr, NetHandlerMgr.eraseEntry, herase]

theorem heap_eraseAt (w : World σ γ) (side : Side) (fd : Int) {p : NetPtr} {n : EasyNet γ}
    {b : BevPtr} {e : BufferEvent} (hl : w.heap.Live p n b e) :
    (w.eraseAt side fd p).heap = w.heap.release p b := by
  cases side
  · exact w.frontendHandlerMgr.eraseEntry_snd hl fd
  · exact w.backendHandlerMgr.eraseEntry_snd hl fd

theorem Ok.eraseAt {w : World σ γ} (h : Ok w) {side : Side} {fd : Int} {p : NetPtr}
    (hp : (w.mgr side).handlerPool.lookup fd = some p) : Ok (w.eraseAt side fd p) := by
  obtain ⟨n, b, e, hl, hfd⟩ := h.entry hp
  have hheap := w.heap_eraseAt side fd hl
  have net_old : ∀ {q m}, (w.heap.release p b).nets q = some m →
      q ≠ p ∧ w.heap.nets q = some m := by
    intro q m hq
    by_cases hqp : q = p
    · subst hqp; simp [Heap.release] at hq
    · exact ⟨hqp, by simpa [Heap.release, hqp] using hq⟩
  have bev_old : ∀ {c f}, (w.heap.release p b).bevs c = some f →
      c ≠ b ∧ w.heap.bevs c = some f := by
    intro c f hc
    by_cases hcb : c = b
    · subst hcb; simp [Heap.release] at hc
    · exact ⟨hcb, by simpa [Heap.release, hcb] using hc⟩
  -- the other connections keep their objects
  have live_new : ∀ {q m c f}, q ≠ p → w.heap.Live q m c f → (w.heap.release p b).Live q m c f := by
    intro q m c f hqp hlq
    have hcb : c ≠ b := fun hc => hqp (h.heap.inj hlq.net hl.net hlq.hevent (hc ▸ hl.hevent))
    exact ⟨by simpa [Heap.release, hqp] using hlq.net, hlq.hevent,
      by simpa [Heap.release, hcb] using hlq.bev⟩
  constructor
  · rw [hheap]
    exact {
      netLt := fun hq => h.heap.netLt (net_old hq).2
      bevLt := fun hc => h.heap.bevLt (bev_old hc).2
      owns := fun hq => by
        obtain ⟨hqp, hq⟩ := net_old hq
        obtain ⟨c, f, hlq⟩ := h.heap.owns hq
        exact ⟨c, f, live_new hqp hlq⟩
      inj := fun hq hr hqb hrb => h.heap.inj (net_old hq).2 (net_old hr).2 hqb hrb
      fdInj := fun hc hd => h.heap.fdInj (bev_old hc).2 (bev_old hd).2 }
  · intro s fd' q hq
    rw [lookup_eraseAt] at hq
    split_ifs at hq with hcond
    obtain ⟨m, c, f, hlq, hfd'⟩ := h.entry hq
    have hqp : q ≠ p := by
      rintro rfl
      -- the same descriptor, so the same pool, but that entry is gone
      obtain ⟨rfl, rfl, rfl⟩ : m = n ∧ c = b ∧ f = e := by
        obtain rfl : m = n := Option.some.inj (hlq.net.symm.trans hl.net)
        obtain rfl : c = b := Option.some.inj (hlq.hevent.symm.trans hl.hevent)
        exact ⟨rfl, rfl, Option.some.inj (hlq.bev.symm.trans hl.bev)⟩
      have hfds : fd' = fd := hfd'.symm.trans hfd
      subst hfds
      cases s <;> cases side <;> simp only [mgr] at hq hp
      · exact hcond ⟨rfl, rfl⟩
      · exact h.apart hq hp
      · exact h.apart hp hq
      · exact hcond ⟨rfl, rfl⟩
    exact ⟨m, c, f, hheap ▸ live_new hqp hlq, hfd'⟩
  · intro q m c f hlq
    rw [hheap] at hlq
    obtain ⟨hqp, hq⟩ := net_old hlq.net
    obtain ⟨hcb, hc⟩ := bev_old hlq.bev
    obtain ⟨s, hs⟩ := h.pooled ⟨hq, hlq.hevent, hc⟩
    refine ⟨s, ?_⟩
    rw [lookup_eraseAt, if_neg, hs]
    rintro ⟨rfl, hfd'⟩
    exact hcb (h.heap.fdInj hc hl.bev (hfd'.trans hfd.symm))
  · intro fd' q r hq hr
    have hf := w.lookup_eraseAt side .frontEnd fd fd' p
    have hb := w.lookup_eraseAt side .backEnd fd fd' p
    simp only [mgr] at hf hb
    rw [hf] at hq
    rw [hb] at hr
    split_ifs at hq
    split_ifs at hr
    exact h.apart hq hr

theorem Ok.stable_eraseAt {w : World σ γ} (h : Ok w) {side : Side} {fd : Int} {p : NetPtr}
    (hp : (w.mgr side).handlerPool.lookup fd = some p) : Stable w (w.eraseAt side fd p) := by
  obtain ⟨n, b, e, hl, hfd⟩ := h.entry hp
  have hheap := w.heap_eraseAt side fd hl
  have net_old : ∀ {q m}, (w.eraseAt side fd p).heap.nets q = some m →
      q ≠ p ∧ w.heap.nets q = some m := by
    intro q m hq
    rw [hheap] at hq
    by_cases hqp : q = p
    · subst hqp; simp [Heap.release] at hq
    · exact ⟨hqp, by simpa [Heap.release, hqp] using hq⟩
  exact {
    svcMode := by cases side <;> rfl
    now := by cases side <;> rfl
    recvBuffer := fun s => by cases side <;> cases s <;> rfl
    nextNet := by rw [hheap]; exact le_refl _
    gone := fun {q} _ hq => by
      rw [hheap]
      by_cases hqp : q = p
      · subst hqp; simp [Heap.release]
      · simpa [Heap.release, hqp] using hq
    net := fun hq hq' => by
      cases hq.symm.trans (net_old hq').2
      exact ⟨rfl, rfl, rfl, rfl⟩
    bev := fun {q m m' c f} hlq hq' => by
      obtain ⟨hqp, _⟩ := net_old hq'
      have hcb : c ≠ b := fun hc => hqp (h.heap.inj hlq.net hl.net hlq.hevent (hc ▸ hl.hevent))
      exact ⟨f, by rw [hheap]; simpa [Heap.release, hcb] using hlq.bev, rfl, rfl, rfl⟩
    pool := fun {s fd' q m} hq hq' => by
      obtain ⟨hqp, _⟩ := net_old hq'
      rw [lookup_eraseAt, if_neg, hq]
      rintro ⟨rfl, rfl⟩
      exact hqp (Option.some.inj (hq.symm.trans hp)) }

theorem getfd_of_bev {h : Heap γ} {b : BevPtr} {e : BufferEvent} (hb : h.bevs b = some e) :
    h.getfd b = e.fd := by
  rw [Heap.getfd, hb]

/-- The event of a live connection leads `GetHandlerByEvent` of its side to its entry. -/
theorem getHandlerByEvent_eq {w : World σ γ} (side : Side) {b : BevPtr} {e : BufferEvent}
    (hb : w.heap.bevs b = some e) :
    (w.mgr side).getHandlerByEvent w.heap b = (w.mgr side).handlerPool.lookup e.fd := by
  rw [NetHandlerMgr.getHandlerByEvent, getfd_of_bev hb]

/-- The entry under the descriptor of a live connection is its own. -/
theorem Ok.lookup_live {w : World σ γ} (h : Ok w) {side : Side} {p q : NetPtr} {n : EasyNet γ}
    {b : BevPtr} {e : BufferEvent} (hl : w.heap.Live p n b e)
    (hq : (w.mgr side).handlerPool.lookup e.fd = some q) : q = p := by
  obtain ⟨m, c, f, hlq, hfd⟩ := h.entry hq
  obtain rfl := h.heap.fdInj hlq.bev hl.bev hfd
  exact h.heap.inj hlq.net hl.net hlq.hevent hl.hevent

/-- `DestroyFrontEnd` and `DestroyBackEnd` do nothing, or erase the entry of that very
connection. -/
theorem destroyNet_cases {w : World σ γ} (h : Ok w) (side : Side) (net : Option NetPtr) :
    w.destroyNet side net = w ∨
    ∃ p n b e, net = some p ∧ w.heap.Live p n b e ∧
      (w.mgr side).handlerPool.lookup e.fd = some p ∧
      w.destroyNet side net = w.eraseAt side e.fd p := by
  have hself : w.setMgr side (w.mgr side, w.heap) = w := by cases side <;> rfl
  cases net with
  | none => exact .inl rfl
  | some p =>
    cases hp : w.heap.nets p with
    | none =>
      refine .inl ?_
      simp only [destroyNet, NetHandlerMgr.removeHandler, hp, Option.bind_none, hself]
    | some n =>
      obtain ⟨b, e, hl⟩ := h.heap.owns hp
      have hev := getHandlerByEvent_eq side hl.bev
      cases hq : (w.mgr side).handlerPool.lookup e.fd with
      | none =>
        refine .inl ?_
        simp only [destroyNet, NetHandlerMgr.removeHandler, hp, Option.bind_some, hl.hevent,
          NetHandlerMgr.removeHandlerByEvent, hev, hq, hself]
      | some q =>
        obtain rfl := h.lookup_live hl hq
        refine .inr ⟨q, n, b, e, rfl, hl, hq, ?_⟩
        simp only [destroyNet, NetHandlerMgr.removeHandler, hp, Option.bind_some, hl.hevent,
          NetHandlerMgr.removeHandlerByEvent, hev, hq, eraseAt,
          getfd_of_bev hl.bev]

theorem Ok.destroyNet {w : World σ γ} (h : Ok w) (side : Side) (net : Option NetPtr) :
    Ok (w.destroyNet side net) := by
  obtain heq | ⟨p, n, b, e, _, _, hp, heq⟩ := destroyNet_cases h side net
  · rw [heq]; exact h
  · rw [heq]; exact h.eraseAt hp

theorem Ok.stable_destroyNet {w : World σ γ} (h : Ok w) (side : Side) (net : Option NetPtr) :
    Stable w (w.destroyNet side net) := by
  obtain heq | ⟨p, n, b, e, _, _, hp, heq⟩ := destroyNet_cases h side net
  · rw [heq]; exact Stable.refl w
  · rw [heq]; exact h.stable_eraseAt hp

/-! ## Creating -/

/-- A fresh `EasyNet` on a fresh `bufferevent`, as `AddHandlerBySocket` and `AddHandlerByUri`
make it before they enter it in the map. -/
def openNet (h : Heap γ) (fd : Int) (type : Int) (state : NetState) : NetPtr × Heap γ :=
  let (p, h) := h.newEasyNet
  (p, h.attach p fd type state)

/-- The `EasyNet` that `openNet` leaves at the fresh address. -/
def openedNet (h : Heap γ) (type : Int) (state : NetState) : EasyNet γ where
  hevent := some h.nextBev
  netType := type
  nid := h.nidSeed
  state := state
  lastActiveTimestamp := 0
  prevPkgCount := 0
  currPkgCount := 0
  prevTrafficBytes := 0
  currTrafficBytes := 0
  rpcBinded := none
  userContext := none

theorem openNet_eq (h : Heap γ) (fd type : Int) (state : NetState) :
    openNet h fd type state = (h.nextNet,
      { h with
        nets := Function.update h.nets h.nextNet (some (openedNet h type state))
        bevs := Function.update h.bevs h.nextBev (some ⟨fd, [], [], []⟩)
        nextNet := h.nextNet + 1
        nextBev := h.nextBev + 1
        nidSeed := CInt.int32 (h.nidSeed + 1) }) := by
  simp [openNet, openedNet, Heap.newEasyNet, Heap.attach, Heap.newBev, Heap.setNet, Heap.setBev]

/-- Open a connection and enter it in the map of that side. -/
def openAt (w : World σ γ) (side : Side) (fd type : Int) (state : NetState) : World σ γ :=
  let (p, h) := openNet w.heap fd type state
  w.setMgr side ((w.mgr side).addHandlerToMap h p, h)

theorem heap_openAt (w : World σ γ) (side : Side) (fd type : Int) (state : NetState) :
    (w.openAt side fd type state).heap = (openNet w.heap fd type state).2 := by
  cases side <;> rfl

theorem nets_openAt (w : World σ γ) (side : Side) (fd type : Int) (state : NetState) :
    (w.openAt side fd type state).heap.nets =
      Function.update w.heap.nets w.heap.nextNet (some (openedNet w.heap type state)) := by
  rw [heap_openAt, openNet_eq]

theorem bevs_openAt (w : World σ γ) (side : Side) (fd type : Int) (state : NetState) :
    (w.openAt side fd type state).heap.bevs =
      Function.update w.heap.bevs w.heap.nextBev (some ⟨fd, [], [], []⟩) := by
  rw [heap_openAt, openNet_eq]

theorem nextNet_openAt (w : World σ γ) (side : Side) (fd type : Int) (state : NetState) :
    (w.openAt side fd type state).heap.nextNet = w.heap.nextNet + 1 := by
  rw [heap_openAt, openNet_eq]

/-- The new connection. -/
theorem live_openAt (w : World σ γ) (side : Side) (fd type : Int) (state : NetState) :
    (w.openAt side fd type state).heap.Live w.heap.nextNet (openedNet w.heap type state)
      w.heap.nextBev ⟨fd, [], [], []⟩ where
  net := by
    rw [nets_openAt]
    exact Function.update_self _ _ _
  hevent := rfl
  bev := by
    rw [bevs_openAt]
    exact Function.update_self _ _ _

theorem lookup_openAt (w : World σ γ) (side s : Side) (fd fd' type : Int) (state : NetState) :
    ((w.openAt side fd type state).mgr s).handlerPool.lookup fd' =
      if s = side ∧ fd' = fd then some w.heap.nextNet
      else (w.mgr s).handlerPool.lookup fd' := by
  have hadd : ∀ m : NetHandlerMgr,
      (m.addHandlerToMap (openNet w.heap fd type state).2 w.heap.nextNet).handlerPool =
        m.handlerPool.insert fd w.heap.nextNet := by
    intro m
    simp [NetHandlerMgr.addHandlerToMap, openNet_eq, openedNet, Heap.getfd]
  have hinsert : ∀ pool : HandlerPool, (pool.insert fd w.heap.nextNet).lookup fd' =
      if fd' = fd then some w.heap.nextNet else pool.lookup fd' := by
    intro pool
    by_cases hfd : fd' = fd
    · subst hfd; rw [if_pos rfl]; exact AList.lookup_insert _
    · rw [if_neg hfd]; exact AList.lookup_insert_ne hfd
  have hp : (openNet w.heap fd type state).1 = w.heap.nextNet := by rw [openNet_eq]
  cases side <;> cases s <;> simp [openAt, setMgr, mgr, hp, hadd, hinsert]

theorem FreshFd.lookup_none {w : World σ γ} (h : Ok w) {fd : Int} (hfd : w.FreshFd fd)
    (side : Side) : (w.mgr side).handlerPool.lookup fd = none := by
  cases hq : (w.mgr side).handlerPool.lookup fd with
  | none => rfl
  | some q =>
    obtain ⟨n, b, e, hl, he⟩ := h.entry hq
    exact absurd he (hfd.2.2 b e hl.bev)

theorem Ok.openAt {w : World σ γ} (h : Ok w) (side : Side) {fd : Int} (hfd : w.FreshFd fd)
    (type : Int) (state : NetState) : Ok (w.openAt side fd type state) := by
  have hheap := w.heap_openAt side fd type state
  rw [openNet_eq] at hheap
  set w' := w.openAt side fd type state with hw'
  have hnets : ∀ q, w'.heap.nets q =
      if q = w.heap.nextNet then some (openedNet w.heap type state) else w.heap.nets q := by
    intro q
    rw [hw', nets_openAt]
    exact Function.update_apply _ _ _ _
  have hbevs : ∀ c, w'.heap.bevs c =
      if c = w.heap.nextBev then some ⟨fd, [], [], []⟩ else w.heap.bevs c := by
    intro c
    rw [hw', bevs_openAt]
    exact Function.update_apply _ _ _ _
  have net_lt : ∀ {q m}, w.heap.nets q = some m → q ≠ w.heap.nextNet :=
    fun hq => ne_of_lt (h.heap.netLt hq)
  have bev_lt : ∀ {c f}, w.heap.bevs c = some f → c ≠ w.heap.nextBev :=
    fun hc => ne_of_lt (h.heap.bevLt hc)
  have live_new : ∀ {q m c f}, w.heap.Live q m c f → w'.heap.Live q m c f := fun hl =>
    ⟨by rw [hnets, if_neg (net_lt hl.net), hl.net], hl.hevent,
      by rw [hbevs, if_neg (bev_lt hl.bev), hl.bev]⟩
  have live_open : w'.heap.Live w.heap.nextNet (openedNet w.heap type state) w.heap.nextBev
      ⟨fd, [], [], []⟩ := w.live_openAt side fd type state
  -- an object of the new heap is the one just made or an old one
  have net_cases : ∀ {q m}, w'.heap.nets q = some m →
      (q = w.heap.nextNet ∧ m = openedNet w.heap type state) ∨ w.heap.nets q = some m := by
    intro q m hq
    rw [hnets] at hq
    split_ifs at hq with hqn
    · exact .inl ⟨hqn, (Option.some.inj hq).symm⟩
    · exact .inr hq
  have bev_cases : ∀ {c f}, w'.heap.bevs c = some f →
      (c = w.heap.nextBev ∧ f = ⟨fd, [], [], []⟩) ∨ w.heap.bevs c = some f := by
    intro c f hc
    rw [hbevs] at hc
    split_ifs at hc with hcn
    · exact .inl ⟨hcn, (Option.some.inj hc).symm⟩
    · exact .inr hc
  have old_hevent : ∀ {q m}, w.heap.nets q = some m → m.hevent ≠ some w.heap.nextBev := by
    intro q m hq hev
    obtain ⟨c, f, hl⟩ := h.heap.owns hq
    have hc : c = w.heap.nextBev := Option.some.inj (hl.hevent.symm.trans hev)
    exact bev_lt hl.bev hc
  constructor
  · exact {
      netLt := fun {q m} hq => by
        have hnext : w'.heap.nextNet = w.heap.nextNet + 1 := by rw [hheap]
        rw [hnext]
        obtain ⟨rfl, _⟩ | hq := net_cases hq
        · exact Nat.lt_succ_self _
        · exact Nat.lt_succ_of_lt (h.heap.netLt hq)
      bevLt := fun {c f} hc => by
        have hnext : w'.heap.nextBev = w.heap.nextBev + 1 := by rw [hheap]
        rw [hnext]
        obtain ⟨rfl, _⟩ | hc := bev_cases hc
        · exact Nat.lt_succ_self _
        · exact Nat.lt_succ_of_lt (h.heap.bevLt hc)
      owns := fun {q m} hq => by
        obtain ⟨rfl, rfl⟩ | hq := net_cases hq
        · exact ⟨_, _, live_open⟩
        · obtain ⟨c, f, hl⟩ := h.heap.owns hq
          exact ⟨c, f, live_new hl⟩
      inj := fun {q r m k c} hq hr hqc hrc => by
        obtain ⟨rfl, rfl⟩ | hq := net_cases hq <;> obtain ⟨rfl, rfl⟩ | hr := net_cases hr
        · rfl
        · exact absurd (hrc.trans hqc.symm) (old_hevent hr)
        · exact absurd (hqc.trans hrc.symm) (old_hevent hq)
        · exact h.heap.inj hq hr hqc hrc
      fdInj := fun {c d f g} hc hd hfg => by
        obtain ⟨rfl, rfl⟩ | hc := bev_cases hc <;> obtain ⟨rfl, rfl⟩ | hd := bev_cases hd
        · rfl
        · exact absurd hfg.symm (hfd.2.2 d g hd)
        · exact absurd hfg (hfd.2.2 c f hc)
        · exact h.heap.fdInj hc hd hfg }
  · intro s fd' q hq
    rw [hw', lookup_openAt] at hq
    split_ifs at hq with hcond
    · obtain rfl := Option.some.inj hq
      exact ⟨_, _, _, live_open, hcond.2.symm⟩
    · obtain ⟨m, c, f, hl, he⟩ := h.entry hq
      exact ⟨m, c, f, live_new hl, he⟩
  · intro q m c f hl
    obtain ⟨rfl, rfl⟩ | hq := net_cases hl.net
    · have hc : c = w.heap.nextBev := Option.some.inj (hl.hevent.symm.trans live_open.hevent)
      subst hc
      have hf : f = ⟨fd, [], [], []⟩ := Option.some.inj (hl.bev.symm.trans live_open.bev)
      subst hf
      exact ⟨side, by rw [hw', lookup_openAt, if_pos ⟨rfl, rfl⟩]⟩
    · obtain ⟨rfl, _⟩ | hc := bev_cases hl.bev
      · exact absurd hl.hevent (old_hevent hq)
      · obtain ⟨s, hs⟩ := h.pooled ⟨hq, hl.hevent, hc⟩
        refine ⟨s, ?_⟩
        rw [hw', lookup_openAt, if_neg, hs]
        rintro ⟨rfl, hff⟩
        exact hfd.2.2 c f hc hff
  · intro fd' q r hq hr
    have hf := w.lookup_openAt side .frontEnd fd fd' type state
    have hb := w.lookup_openAt side .backEnd fd fd' type state
    simp only [mgr] at hf hb
    rw [hw', hf] at hq
    rw [hw', hb] at hr
    have hnf := hfd.lookup_none h .frontEnd
    have hnb := hfd.lookup_none h .backEnd
    simp only [mgr] at hnf hnb
    split_ifs at hq with h1 <;> split_ifs at hr with h2
    · exact absurd (h1.1.trans h2.1.symm) (by decide)
    · rw [h1.2, hnb] at hr; cases hr
    · rw [h2.2, hnf] at hq; cases hq
    · exact h.apart hq hr

theorem Ok.stable_openAt {w : World σ γ} (h : Ok w) (side : Side) {fd : Int}
    (hfd : w.FreshFd fd) (type : Int) (state : NetState) :
    Stable w (w.openAt side fd type state) := by
  have hnets : ∀ {q}, q ≠ w.heap.nextNet →
      (w.openAt side fd type state).heap.nets q = w.heap.nets q := by
    intro q hq
    rw [nets_openAt]
    exact Function.update_of_ne hq _ _
  exact {
    svcMode := by cases side <;> rfl
    now := by cases side <;> rfl
    recvBuffer := fun s => by
      have hadd : ∀ (m : NetHandlerMgr) (h : Heap γ) p,
          (m.addHandlerToMap h p).recvBuffer = m.recvBuffer := by
        intro m h p
        unfold NetHandlerMgr.addHandlerToMap
        split <;> rfl
      cases side <;> cases s <;> first | rfl | exact hadd _ _ _
    nextNet := by rw [nextNet_openAt]; exact Nat.le_succ _
    gone := fun hlt hq => by rw [hnets (ne_of_lt hlt), hq]
    net := fun hq hq' => by
      rw [hnets (ne_of_lt (h.heap.netLt hq)), hq] at hq'
      cases hq'
      exact ⟨rfl, rfl, rfl, rfl⟩
    bev := fun {q m m' c f} hl _ =>
      ⟨f, by rw [bevs_openAt]; simpa [ne_of_lt (h.heap.bevLt hl.bev)] using hl.bev, rfl, rfl, rfl⟩
    pool := fun {s fd' q m} hq _ => by
      rw [lookup_openAt, if_neg, hq]
      rintro ⟨rfl, rfl⟩
      rw [hfd.lookup_none h] at hq
      cases hq }

/-- A connection that could not be made leaves no object behind. -/
theorem nets_newDelete {w : World σ γ} (h : Ok w) (q : NetPtr) :
    (w.heap.newEasyNet.2.deleteNet w.heap.newEasyNet.1).nets q = w.heap.nets q := by
  by_cases hq : q = w.heap.nextNet
  · have hnone : w.heap.nets q = none := by
      cases hn : w.heap.nets q with
      | none => rfl
      | some n => exact absurd hq (ne_of_lt (h.heap.netLt hn))
    subst hq
    simp [Heap.newEasyNet, Heap.deleteNet, hnone]
  · simp [Heap.newEasyNet, Heap.deleteNet, Heap.setNet, hq]

theorem similar_newDelete {w : World σ γ} (h : Ok w) :
    Similar w { w with heap := w.heap.newEasyNet.2.deleteNet w.heap.newEasyNet.1 } where
  pool side := by cases side <;> rfl
  nextNet := Nat.le_succ _
  nextBev := le_refl _
  netNone hq := (nets_newDelete h _).trans hq
  net hq := ⟨_, (nets_newDelete h _).trans hq, rfl⟩
  bevNone hc := hc
  bev hc := ⟨_, hc, rfl⟩

theorem stable_newDelete {w : World σ γ} (h : Ok w) :
    Stable w { w with heap := w.heap.newEasyNet.2.deleteNet w.heap.newEasyNet.1 } where
  svcMode := rfl
  now := rfl
  recvBuffer side := by cases side <;> rfl
  nextNet := Nat.le_succ _
  gone _ hq := (nets_newDelete h _).trans hq
  net {q m m'} hq hq' := by
    rw [nets_newDelete h, hq] at hq'
    cases hq'
    exact ⟨rfl, rfl, rfl, rfl⟩
  bev hl _ := ⟨_, hl.bev, rfl, rfl, rfl⟩
  pool {side fd q m} hq _ := by cases side <;> exact hq

/-- The ways through `CreateBackEnd`. -/
theorem createBackEnd_cases (w : World σ γ) (type : Int) (connect : Option Int) :
    (connect = none ∧ w.createBackEnd type connect =
      (none, { w with heap := w.heap.newEasyNet.2.deleteNet w.heap.newEasyNet.1 })) ∨
    ∃ fd n, connect = some fd ∧
      (w.openAt .backEnd fd type .netConnecting).heap.nets w.heap.nextNet = some n ∧
      w.createBackEnd type connect = (some w.heap.nextNet,
        { w.openAt .backEnd fd type .netConnecting with
          heap := (w.openAt .backEnd fd type .netConnecting).heap.setNet w.heap.nextNet
            { n with lastActiveTimestamp := w.now } }) := by
  cases connect with
  | none => exact .inl ⟨rfl, rfl⟩
  | some fd =>
    have hn := (w.live_openAt .backEnd fd type .netConnecting).net
    refine .inr ⟨fd, _, rfl, hn, ?_⟩
    have hadd : w.backendHandlerMgr.addHandlerByUri w.heap type (some fd) =
        (some w.heap.nextNet,
          (w.openAt .backEnd fd type .netConnecting).backendHandlerMgr,
          (w.openAt .backEnd fd type .netConnecting).heap) := rfl
    simp only [createBackEnd, hadd, hn]
    rfl

/-! ## Any call, any number of calls -/

/-- `setRpcBinded` and the other stores through a pointer keep the invariant. -/
theorem Ok.setNet {w : World σ γ} (h : Ok w) {p : NetPtr} {n n' : EasyNet γ}
    (hp : w.heap.nets p = some n) (hev : n'.hevent = n.hevent) :
    Ok { w with heap := w.heap.setNet p n' } :=
  h.similar (similar_setNet w hp hev)

/-- A store into a connection made after `w` is no concern of `Stable w`. -/
theorem Stable.setNet_fresh {w w' : World σ γ} (h : Ok w) (hs : Stable w w') {p : NetPtr}
    {n n' : EasyNet γ} (hfresh : w.heap.nextNet ≤ p) (hp : w'.heap.nets p = some n)
    (hev : n'.hevent = n.hevent) : Stable w { w' with heap := w'.heap.setNet p n' } := by
  have hsim := similar_setNet w' hp hev
  have old : ∀ {q m m'}, w.heap.nets q = some m → (w'.heap.setNet p n').nets q = some m' →
      w'.heap.nets q = some m' := by
    intro q m m' hq hq'
    have hqp : q ≠ p := ne_of_lt (lt_of_lt_of_le (h.heap.netLt hq) hfresh)
    simpa [Heap.setNet, hqp] using hq'
  exact {
    svcMode := hs.svcMode
    now := hs.now
    recvBuffer := fun side => by
      cases side
      · exact hs.recvBuffer .frontEnd
      · exact hs.recvBuffer .backEnd
    nextNet := hs.nextNet
    gone := fun hlt hq => hsim.netNone (hs.gone hlt hq)
    net := fun hq hq' => hs.net hq (old hq hq')
    bev := fun hl hq' => hs.bev hl (old hl.net hq')
    pool := fun {side fd q m} hq hq' => by
      obtain ⟨m₀, _, _, hl, _⟩ := h.entry hq
      have hlookup := hs.pool hq (old hl.net hq')
      cases side <;> exact hlookup }

theorem createBackEnd_rule {w : World σ γ} (h : Ok w) (type : Int) {connect : Option Int}
    (hfd : ∀ fd, connect = some fd → w.FreshFd fd) :
    Ok (w.createBackEnd type connect).2 ∧ Stable w (w.createBackEnd type connect).2 ∧
      ∀ p, (w.createBackEnd type connect).1 = some p →
        w.heap.nextNet ≤ p ∧ ∃ n, (w.createBackEnd type connect).2.heap.nets p = some n := by
  obtain ⟨_, heq⟩ | ⟨fd, n, hconn, hn, heq⟩ := createBackEnd_cases w type connect
  · rw [heq]
    exact ⟨h.similar (similar_newDelete h), stable_newDelete h, fun p hp => nomatch hp⟩
  · have hok := h.openAt .backEnd (hfd fd hconn) type .netConnecting
    have hst := h.stable_openAt .backEnd (hfd fd hconn) type .netConnecting
    rw [heq]
    refine ⟨hok.setNet hn rfl, hst.setNet_fresh h (le_refl _) hn rfl, ?_⟩
    rintro p hp
    obtain rfl := Option.some.inj hp
    exact ⟨le_refl _, _, Function.update_self _ _ _⟩

/-- What holds of one step of application code: the invariant and the frame. -/
structure Kept (w w' : World σ γ) : Prop where
  ok : Ok w'
  stable : Stable w w'

theorem Kept.refl {w : World σ γ} (h : Ok w) : Kept w w := ⟨h, Stable.refl w⟩

theorem Kept.trans {a b c : World σ γ} (ha : Ok a) (hab : Kept a b) (hbc : Kept b c) : Kept a c :=
  ⟨hbc.ok, hab.stable.trans ha hbc.stable⟩

theorem kept_send {w : World σ γ} (h : Ok w) (p : NetPtr) (buf : List UInt8) :
    Kept w { w with heap := (w.heap.send p buf).2 } := by
  obtain ⟨out, hw, _⟩ := w.heap.wrote_send p buf
  exact ⟨h.similar (similar_wrote hw), stable_wrote hw⟩

theorem kept_setNet {w : World σ γ} (h : Ok w) {p : NetPtr} {n n' : EasyNet γ}
    (hp : w.heap.nets p = some n) (hev : n'.hevent = n.hevent) (hnid : n'.nid = n.nid)
    (hty : n'.netType = n.netType) (hrpc : n'.rpcBinded = n.rpcBinded) :
    Kept w { w with heap := w.heap.setNet p n' } :=
  ⟨h.setNet hp hev, stable_setNet w hp hev hnid hty hrpc⟩

/-- What `SendToFrontEnd` does to the state: at most a `Send` on that connection. -/
theorem sendToFrontEnd_cases (w : World σ γ) (net : Option NetPtr) (buf : List UInt8) :
    (w.sendToFrontEnd net buf).2 = w ∨
    ∃ p, net = some p ∧ (w.sendToFrontEnd net buf).2 =
      { w with heap := (w.heap.send p buf).2 } := by
  cases net with
  | none => exact .inl rfl
  | some p =>
    by_cases hbuf : buf = []
    · exact .inl (by simp only [sendToFrontEnd, hbuf, if_true])
    · refine .inr ⟨p, rfl, ?_⟩
      simp only [sendToFrontEnd, hbuf, if_false]
      rcases w.heap.send p buf with ⟨r, h⟩
      cases r <;> rfl

/-- What `SendToBackEnd` does: at most a `Send` and a new active time on that connection. -/
theorem sendToBackEnd_cases (w : World σ γ) (net : Option NetPtr) (buf : List UInt8) :
    (w.sendToBackEnd net buf).2 = w ∨
    ∃ p, net = some p ∧
      ((w.sendToBackEnd net buf).2 = { w with heap := (w.heap.send p buf).2 } ∨
      ∃ n, (w.heap.send p buf).2.nets p = some n ∧ (w.sendToBackEnd net buf).2 =
        { w with
          heap := (w.heap.send p buf).2.setNet p { n with lastActiveTimestamp := w.now } }) := by
  cases net with
  | none => exact .inl rfl
  | some p =>
    by_cases hbuf : buf = []
    · exact .inl (by simp only [sendToBackEnd, hbuf, if_true])
    refine .inr ⟨p, rfl, ?_⟩
    simp only [sendToBackEnd, hbuf, if_false]
    rcases w.heap.send p buf with ⟨r, h⟩
    cases r with
    | easyNetOk =>
      cases hn : h.nets p with
      | none => exact .inl (by simp only [hn])
      | some n => exact .inr ⟨n, rfl, by simp only [hn]⟩
    | easyNetErrNotYetEstablished => exact .inl rfl
    | easyNetErrEstablishFailed => exact .inl rfl
    | easyNetErrSendError => exact .inl rfl

theorem kept_sendToFrontEnd {w : World σ γ} (h : Ok w) (net : Option NetPtr) (buf : List UInt8) :
    Kept w (w.sendToFrontEnd net buf).2 := by
  obtain heq | ⟨p, _, heq⟩ := sendToFrontEnd_cases w net buf
  · rw [heq]; exact Kept.refl h
  · rw [heq]; exact kept_send h p buf

theorem kept_sendToBackEnd {w : World σ γ} (h : Ok w) (net : Option NetPtr) (buf : List UInt8) :
    Kept w (w.sendToBackEnd net buf).2 := by
  obtain heq | ⟨p, _, heq | ⟨n, hn, heq⟩⟩ := sendToBackEnd_cases w net buf
  · rw [heq]; exact Kept.refl h
  · rw [heq]; exact kept_send h p buf
  · rw [heq]
    have hk := kept_send h p buf
    exact Kept.trans h hk (kept_setNet hk.ok hn rfl rfl rfl rfl)

theorem kept_createBackEnd {w : World σ γ} (h : Ok w) (type : Int) {connect : Option Int}
    (hfd : ∀ fd, connect = some fd → w.FreshFd fd) : Kept w (w.createBackEnd type connect).2 := by
  obtain ⟨hok, hst, _⟩ := createBackEnd_rule h type hfd
  exact ⟨hok, hst⟩

theorem kept_destroyNet {w : World σ γ} (h : Ok w) (side : Side) (net : Option NetPtr) :
    Kept w (w.destroyNet side net) :=
  ⟨h.destroyNet side net, h.stable_destroyNet side net⟩

theorem ApiStep.kept {w w' : World σ γ} (h : Ok w) (hs : ApiStep w w') : Kept w w' := by
  cases hs with
  | app s =>
    have hmgr : ∀ side, { w with app := s }.mgr side = w.mgr side := fun side => by
      cases side <;> rfl
    exact ⟨h.similar (.of_eq rfl hmgr), .of_eq rfl hmgr rfl rfl⟩
  | setUserContext p c =>
    cases hp : w.heap.nets p with
    | none => simpa only [World.setUserContext, hp] using Kept.refl h
    | some n =>
      cases hc : n.userContext with
      | none => simpa only [World.setUserContext, hp, hc] using Kept.refl h
      | some _ =>
        simp only [World.setUserContext, hp, hc]
        exact kept_setNet h hp rfl rfl rfl rfl
  | sendToFrontEnd net buf => exact kept_sendToFrontEnd h net buf
  | sendToBackEnd net buf => exact kept_sendToBackEnd h net buf
  | destroyNet side net => exact kept_destroyNet h side net
  | createBackEnd type connect hfd => exact kept_createBackEnd h type hfd
  | createRpc type connect rpc hfd p hp =>
    obtain ⟨hok, hst, hfresh⟩ := createBackEnd_rule h type hfd
    obtain ⟨hle, n, hn⟩ := hfresh p hp
    simp only [setRpcBinded, hn]
    exact ⟨hok.setNet hn rfl, hst.setNet_fresh h hle hn rfl⟩

/-- Whatever application code does, the pools stay exact, and what it does not destroy stays. -/
theorem ApiReach.kept {w w' : World σ γ} (h : Ok w) (hr : ApiReach w w') : Kept w w' := by
  induction hr with
  | refl => exact Kept.refl h
  | tail _ hs ih => exact Kept.trans h ih (hs.kept ih.ok)

end World

end Rapidapp
