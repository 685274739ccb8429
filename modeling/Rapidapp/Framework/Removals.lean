import Rapidapp.Framework.CloseCalls
import Rapidapp.Framework.NetStates

/-!
# Which frontends an event removes

`RemoveHandler`, `RemoveHandlerByEvent` and `WalkThrough` (`framework/rapidapp_net_mgr.cpp`) are the
only code that takes a frontend out of the pool. `World.Removes` says which frontends are gone after
an event, that the others stand in the pool as they did, and that none has come.
-/

namespace Rapidapp

variable {σ γ : Type}

namespace World

theorem inPool_iff_inFront {w : World σ γ} {p : NetPtr} :
    w.inPool .frontEnd p = true ↔ w.InFront p := by
  constructor
  · intro h
    obtain ⟨⟨fd, q⟩, hmem, heq⟩ := List.any_eq_true.mp h
    obtain rfl : q = p := eq_of_beq heq
    exact ⟨fd, Option.mem_def.mp (AList.mem_lookup_iff.mpr hmem)⟩
  · rintro ⟨fd, hfd⟩
    have hfd : (w.mgr .frontEnd).handlerPool.lookup fd = some p := hfd
    exact inPool_of_lookup hfd

theorem InFront.live {w : World σ γ} (h : Ok w) {p : NetPtr} (hp : w.InFront p) :
    ∃ n b e, w.heap.Live p n b e ∧ w.frontendHandlerMgr.handlerPool.lookup e.fd = some p := by
  obtain ⟨fd, hfd⟩ := hp
  obtain ⟨n, b, e, hl, rfl⟩ := h.frontEntry hfd
  exact ⟨n, b, e, hl, hfd⟩

theorem InFront.alive {w : World σ γ} (h : Ok w) {p : NetPtr} (hp : w.InFront p) :
    ∃ n, w.heap.nets p = some n := by
  obtain ⟨n, _, _, hl, _⟩ := hp.live h
  exact ⟨n, hl.net⟩

theorem Gone.not_inFront {w : World σ γ} (h : Ok w) {p : NetPtr} (hp : w.Gone p) :
    ¬ w.InFront p := by
  rintro ⟨fd, hfd⟩
  exact not_gone_of_lookup h hfd hp

theorem not_inFront_of_backEnd {w : World σ γ} (h : Ok w) {fd : Int} {p : NetPtr}
    (hp : (w.mgr .backEnd).handlerPool.lookup fd = some p) : ¬ w.InFront p := by
  intro hfront
  obtain ⟨n, b, e, hl, hlookup⟩ := hfront.live h
  obtain ⟨n', b', e', hl', rfl⟩ := h.entry hp
  obtain rfl := Option.some.inj (hl.net.symm.trans hl'.net)
  obtain rfl := Option.some.inj (hl.hevent.symm.trans hl'.hevent)
  obtain rfl := Option.some.inj (hl.bev.symm.trans hl'.bev)
  exact h.apart hlookup hp

/-- A frontend that is there at the end is still in the pool. -/
theorem Onward.inFront {w w' : World σ γ} (hw : Onward w w') {p : NetPtr} {n : EasyNet γ}
    (hp : w.InFront p) (hn : w'.heap.nets p = some n) : w'.InFront p := by
  obtain ⟨fd, hfd⟩ := hp
  have hfd : (w.mgr .frontEnd).handlerPool.lookup fd = some p := hfd
  exact ⟨fd, hw.pool hfd hn⟩

/-- A connection stays on the side it is on. -/
theorem Onward.inFront_back {w w' : World σ γ} (h : Ok w) (hw : Onward w w') {p : NetPtr}
    {n : EasyNet γ} (hn : w.heap.nets p = some n) (hp : w'.InFront p) : w.InFront p := by
  obtain ⟨b, e, hl⟩ := h.heap.owns hn
  obtain ⟨side, hside⟩ := h.pooled hl
  cases side with
  | frontEnd => exact ⟨e.fd, hside⟩
  | backEnd =>
    obtain ⟨n', hn'⟩ := hp.alive hw.ok
    exact absurd hp (not_inFront_of_backEnd hw.ok (hw.pool hside hn'))

/-- From `w` to `w'` the frontends `ps` were removed. The others are there, in the state they were
in, and there is no new one. -/
structure Removes (ps : List NetPtr) (w w' : World σ γ) : Prop where
  onward : Onward w w'
  were : ∀ p ∈ ps, w.InFront p
  gone : ∀ p ∈ ps, w'.heap.nets p = none
  stays : ∀ {p n}, w.InFront p → w.heap.nets p = some n → p ∉ ps →
    ∃ n', w'.heap.nets p = some n' ∧ n'.state = n.state
  old : ∀ {p}, w'.InFront p → w.InFront p

theorem Removes.trans {ps qs : List NetPtr} {w w' w'' : World σ γ} (h : Ok w)
    (hw : Removes ps w w') (hw' : Removes qs w' w'') : Removes (ps ++ qs) w w'' where
  onward := hw.onward.trans h hw'.onward
  were p hp := by
    rcases List.mem_append.mp hp with hp | hp
    · exact hw.were p hp
    · exact hw.old (hw'.were p hp)
  gone p hp := by
    rcases List.mem_append.mp hp with hp | hp
    · obtain ⟨n, hn⟩ := (hw.were p hp).alive h
      have hlt := lt_of_lt_of_le (h.heap.netLt hn) hw.onward.nextNet
      exact hw'.onward.gone hlt (hw.gone p hp)
    · exact hw'.gone p hp
  stays hp hn hnot := by
    rw [List.mem_append, not_or] at hnot
    obtain ⟨hps, hqs⟩ := hnot
    obtain ⟨n', hn', hs'⟩ := hw.stays hp hn hps
    obtain ⟨n'', hn'', hs''⟩ := hw'.stays (hw.onward.inFront hp hn') hn' hqs
    exact ⟨n'', hn'', hs''.trans hs'⟩
  old hp := hw.old (hw'.old hp)

/-- Nothing happens to the frontends. -/
theorem removes_nil {w w' : World σ γ} (hw : Onward w w')
    (hfront : w'.frontendHandlerMgr.handlerPool = w.frontendHandlerMgr.handlerPool)
    (hstays : ∀ {p n}, w.InFront p → w.heap.nets p = some n →
      ∃ n', w'.heap.nets p = some n' ∧ n'.state = n.state) : Removes [] w w' where
  onward := hw
  were := nofun
  gone := nofun
  stays hp hn _ := hstays hp hn
  old hp := by rwa [InFront, hfront] at hp

theorem removes_of_nets {w w' : World σ γ} (hw : Onward w w')
    (hfront : w'.frontendHandlerMgr.handlerPool = w.frontendHandlerMgr.handlerPool)
    (hnets : w'.heap.nets = w.heap.nets) : Removes [] w w' :=
  removes_nil hw hfront fun {_ n} _ hn => ⟨n, hnets ▸ hn, rfl⟩

theorem Removes.refl {w : World σ γ} (h : Ok w) (hin : w.frontendHandlerMgr.PointsInside) :
    Removes [] w w :=
  removes_of_nets (.refl h hin) rfl rfl

section Operations

variable {w : World σ γ} (h : Ok w) (hin : w.frontendHandlerMgr.PointsInside)
include h hin

theorem removes_setNet {p : NetPtr} {n m : EasyNet γ} (hn : w.heap.nets p = some n)
    (hev : m.hevent = n.hevent) (hstate : m.state = n.state) :
    Removes [] w { w with heap := w.heap.setNet p m } := by
  refine removes_nil (.of_similar h (similar_setNet w hn hev) hin) rfl fun {q k} _ hk => ?_
  by_cases hq : q = p
  · subst hq
    obtain rfl := Option.some.inj (hn.symm.trans hk)
    exact ⟨m, Function.update_self _ _ _, hstate⟩
  · exact ⟨k, (Function.update_of_ne hq _ _).trans hk, rfl⟩

theorem removes_modifyNet (p : NetPtr) {f : EasyNet γ → EasyNet γ}
    (hf : ∀ n, (f n).hevent = n.hevent ∧ (f n).state = n.state) :
    Removes [] w (w.modifyNet p f) := by
  rw [modifyNet]
  cases hn : w.heap.nets p with
  | none => exact .refl h hin
  | some n => exact removes_setNet h hin hn (hf n).1 (hf n).2

theorem removes_evbufferAdd (b : BevPtr) (chunk : List UInt8) :
    Removes [] w (w.evbufferAdd b chunk) := by
  rw [evbufferAdd]
  cases hb : w.heap.bevs b with
  | none => exact .refl h hin
  | some e => exact removes_of_nets (onward_setBev h hin hb rfl) rfl rfl

theorem removes_evbufferDrain (b : BevPtr) (len : Nat) : Removes [] w (w.evbufferDrain b len) := by
  have hw := onward_evbufferDrain h hin b len
  rw [evbufferDrain] at hw ⊢
  cases hb : w.heap.bevs b with
  | none => exact .refl h hin
  | some e =>
    rw [hb] at hw
    exact removes_of_nets hw rfl rfl

theorem removes_send (p : NetPtr) (buf : List UInt8) :
    Removes [] w { w with heap := (w.heap.send p buf).2 } := by
  obtain ⟨_, hw, _⟩ := w.heap.wrote_send p buf
  exact removes_of_nets (.of_similar h (similar_wrote hw) hin) rfl hw.nets

theorem removes_eraseAt {fd : Int} {p : NetPtr}
    (hp : w.frontendHandlerMgr.handlerPool.lookup fd = some p) :
    Removes [p] w (w.eraseAt .frontEnd fd p) := by
  have hp' : (w.mgr .frontEnd).handlerPool.lookup fd = some p := hp
  obtain ⟨n, b, e, hl, _⟩ := h.frontEntry hp
  have hheap := w.heap_eraseAt .frontEnd fd hl
  have hw := onward_eraseAt h hin hp
  have hnets : ∀ q, q ≠ p → (w.eraseAt .frontEnd fd p).heap.nets q = w.heap.nets q :=
    fun q hq => (leftAlone_eraseAt h hp' hq).net
  refine ⟨hw, ?_, ?_, ?_, ?_⟩
  · intro q hq
    obtain rfl := List.mem_singleton.mp hq
    exact ⟨fd, hp⟩
  · intro q hq
    obtain rfl := List.mem_singleton.mp hq
    rw [hheap]
    exact Function.update_self _ _ _
  · intro q m _ hm hq
    exact ⟨m, (hnets q fun heq => hq (List.mem_singleton.mpr heq)).trans hm, rfl⟩
  · intro q hq
    obtain ⟨m, hm⟩ := hq.alive hw.ok
    have hne : q ≠ p := by
      rintro rfl
      have hnone : (w.eraseAt .frontEnd fd q).heap.nets q = none := by
        rw [hheap]
        exact Function.update_self _ _ _
      cases hnone.symm.trans hm
    exact hw.inFront_back h ((hnets q hne).symm.trans hm) hq

theorem removes_destroyFrontEnd (p : NetPtr) :
    Removes (if w.inPool .frontEnd p then [p] else []) w (w.destroyFrontEnd (some p)) := by
  obtain heq | ⟨q, n, b, e, hq, hl, hlookup, heq⟩ := destroyNet_cases h .frontEnd (some p)
  · -- it was not in the pool, or it would be gone
    have hnot : ¬ w.InFront p := by
      intro hp
      obtain ⟨n, hn⟩ := hp.alive h
      have hgone := nets_destroyFrontEnd h hp
      rw [destroyFrontEnd, heq] at hgone
      cases hgone.symm.trans hn
    rw [if_neg (inPool_iff_inFront.not.mpr hnot), destroyFrontEnd, heq]
    exact .refl h hin
  · obtain rfl := Option.some.inj hq
    rw [if_pos (inPool_of_lookup hlookup), destroyFrontEnd, heq]
    exact removes_eraseAt h hin hlookup

theorem removes_destroyBackEnd (net : Option NetPtr) :
    Removes [] w (w.destroyNet .backEnd net) := by
  have hw := onward_destroyNet h hin .backEnd net
  obtain heq | ⟨p, n, b, e, _, _, hlookup, heq⟩ := destroyNet_cases h .backEnd net
  · rw [heq]
    exact .refl h hin
  · rw [heq] at hw ⊢
    refine removes_nil hw rfl fun {q m} hq hm => ?_
    have hne : q ≠ p := by
      rintro rfl
      exact not_inFront_of_backEnd h hlookup hq
    exact ⟨m, (leftAlone_eraseAt h hlookup hne).net.trans hm, rfl⟩

theorem removes_createBackEnd (type : Int) {connect : Option Int}
    (hfd : ∀ fd, connect = some fd → w.FreshFd fd) :
    Removes [] w (w.createBackEnd type connect).2 := by
  have hstep : ApiStep w (w.createBackEnd type connect).2 := .createBackEnd w type connect hfd
  have hw := ApiReach.onward (.single hstep) h hin
  obtain ⟨_, heq⟩ | ⟨fd, n, hconnect, hn, heq⟩ := createBackEnd_cases w type connect
  · rw [heq] at hw ⊢
    exact removes_of_nets hw rfl (funext fun q => nets_newDelete h q)
  · rw [heq] at hw ⊢
    refine removes_nil hw rfl fun {q m} _ hm => ?_
    have hlt := h.heap.netLt hm
    have hne : q ≠ w.heap.nextNet := Nat.ne_of_lt hlt
    have hnets : (w.openAt .backEnd fd type .netConnecting).heap.nets q = w.heap.nets q := by
      rw [nets_openAt]
      exact Function.update_of_ne hne _ _
    exact ⟨m, (Function.update_of_ne hne _ _).trans (hnets.trans hm), rfl⟩

theorem removes_removeHandlerByEvent (b : BevPtr) :
    Removes (w.frontendHandlerMgr.getHandlerByEvent w.heap b).toList w
      (w.setMgr .frontEnd (w.frontendHandlerMgr.removeHandlerByEvent w.heap b)) := by
  rw [NetHandlerMgr.removeHandlerByEvent]
  cases hp : w.frontendHandlerMgr.getHandlerByEvent w.heap b with
  | none => exact .refl h hin
  | some p => exact removes_eraseAt h hin hp

theorem removes_onBackEndSocketEvent (b : BevPtr) (events : BevEvents) :
    Removes [] w (w.onBackEndSocketEvent b events) := by
  have hstate : ∀ state, Removes [] w (w.changeBackEndState b state) := by
    intro state
    rw [changeBackEndState, NetHandlerMgr.changeNetStateByEvent]
    cases hp : w.backendHandlerMgr.getHandlerByEvent w.heap b with
    | none => exact .refl h hin
    | some p =>
      dsimp only
      cases hn : w.heap.nets p with
      | none => exact .refl h hin
      | some n =>
        have hev : ({ n with state := state } : EasyNet γ).hevent = n.hevent := rfl
        refine removes_nil (.of_similar h (similar_setNet w hn hev) hin) rfl fun {q m} hq hm => ?_
        have hne : q ≠ p := by
          rintro rfl
          exact not_inFront_of_backEnd h hp hq
        exact ⟨m, (Function.update_of_ne hne _ _).trans hm, rfl⟩
  rw [onBackEndSocketEvent]
  split_ifs
  · exact hstate _
  · exact hstate _
  · exact .refl h hin
  · exact hstate _
  · exact .refl h hin

theorem nets_tick_of_none (now : Int) (setting : Setting) {p : NetPtr}
    (hp : w.heap.nets p = none) : (w.tick now setting).heap.nets p = none := by
  have hnow : Onward w { w with now := now } :=
    .of_similar h (.of_eq rfl fun side => by cases side <;> rfl) hin
  rw [tick]
  split_ifs
  · have hwalk := walkedOver_walkThrough (harmless_doSomething (γ := γ) setting now).hevent
      hnow.ok hnow.inside
    refine (hwalk.others ?_).trans hp
    rintro ⟨fd, _, hfd⟩
    obtain ⟨n, _, _, hl, _⟩ := h.frontEntry hfd
    cases hl.net.symm.trans hp
  · exact hp

theorem mem_kicked {setting : Setting} {now : Int} {p : NetPtr} :
    p ∈ w.kicked setting now ↔
      w.InFront p ∧ (w.tick now setting).heap.nets p = none := by
  constructor
  · intro hp
    obtain ⟨hnot, hgone⟩ := gone_kicked h hin now hp
    obtain ⟨fd, _, hp⟩ := List.mem_filterMap.mp hp
    obtain ⟨q, hq, hp⟩ := Option.bind_eq_some_iff.mp hp
    obtain ⟨n, hn, hp⟩ := Option.bind_eq_some_iff.mp hp
    split_ifs at hp
    obtain rfl := Option.some.inj hp
    exact ⟨⟨fd, hq⟩, hgone.2⟩
  · rintro ⟨hfront, hnone⟩
    obtain ⟨n, hn⟩ := hfront.alive h
    obtain ⟨⟨fd, hfd, hlookup⟩, hreason⟩ := (nets_tick_eq_none h hin now setting hn).mp hnone
    refine List.mem_filterMap.mpr ⟨fd, hfd, ?_⟩
    rw [hlookup, Option.bind_some, hn, Option.bind_some, doSomething_fst, if_pos hreason]

theorem removes_tick (now : Int) (setting : Setting) :
    Removes (w.kicked setting now) w (w.tick now setting) where
  onward := FrameRun.onward_tick h hin now setting
  were p hp := ((mem_kicked h hin).mp hp).1
  gone p hp := ((mem_kicked h hin).mp hp).2
  stays {p n} hp hn hnot := by
    have hstates := Heap.handlerRule_statesKept.tick w now setting
    cases hn' : (w.tick now setting).heap.nets p with
    | none => exact absurd ((mem_kicked h hin).mpr ⟨hp, hn'⟩) hnot
    | some n' =>
      obtain ⟨m, hm, hs⟩ := hstates.state (h.heap.netLt hn) hn'
      obtain rfl := Option.some.inj (hn.symm.trans hm)
      exact ⟨n', rfl, hs⟩
  old {p} hp := by
    have hw := FrameRun.onward_tick h hin now setting
    obtain ⟨n', hn'⟩ := hp.alive hw.ok
    cases hn : w.heap.nets p with
    | some n => exact hw.inFront_back h hn hp
    | none => cases (nets_tick_of_none h hin now setting hn).symm.trans hn'

end Operations

/-- Accepting a connection leaves the objects there are alone, and a new one is established. -/
theorem nets_onFrontEndConnect [Inhabited γ] {w : World σ γ} (h : Ok w) {fd : Int}
    (hfd : w.FreshFd fd) (bevOk callocOk : Bool) {w' : World σ γ}
    (hw' : w.onFrontEndConnect (fun _ w => w) fd bevOk callocOk = w') :
    (∀ q, q ≠ w.heap.nextNet → w'.heap.nets q = w.heap.nets q) ∧
      ∀ n, w'.heap.nets w.heap.nextNet = some n → n.state = .netEstablished := by
  have hneg : ¬ fd < 0 := not_lt.mpr hfd.1
  cases bevOk with
  | false =>
    simp only [onFrontEndConnect, NetHandlerMgr.addHandlerBySocket, hneg, if_false,
      Bool.false_eq_true] at hw'
    subst hw'
    refine ⟨fun q _ => nets_newDelete h q, fun n hn => ?_⟩
    have hnone := (nets_newDelete h w.heap.nextNet).symm.trans hn
    exact absurd (h.heap.netLt hnone) (lt_irrefl _)
  | true =>
    have hopen := h.openAt .frontEnd hfd 0 .netEstablished
    have hnets := w.nets_openAt .frontEnd fd 0 .netEstablished
    have hlookup := w.lookup_openAt .frontEnd .frontEnd fd fd 0 .netEstablished
    have hp := (w.live_openAt .frontEnd fd 0 .netEstablished).net
    have hadd : w.frontendHandlerMgr.addHandlerBySocket w.heap fd 0 true =
        (some w.heap.nextNet, (w.openAt .frontEnd fd 0 .netEstablished).frontendHandlerMgr,
          (w.openAt .frontEnd fd 0 .netEstablished).heap) := by
      simp only [NetHandlerMgr.addHandlerBySocket, hneg, if_false]
      rfl
    have hworld : ∀ r, w.setMgr .frontEnd r =
        (w.openAt .frontEnd fd 0 .netEstablished).setMgr .frontEnd r := fun _ => rfl
    have hothers : ∀ q, q ≠ w.heap.nextNet →
        (w.openAt .frontEnd fd 0 .netEstablished).heap.nets q = w.heap.nets q := by
      intro q hq
      rw [hnets]
      exact Function.update_of_ne hq _ _
    generalize w.openAt .frontEnd fd 0 .netEstablished = w₁ at *
    cases callocOk with
    | false =>
      have hrun : w₁.destroyFrontEnd (some w.heap.nextNet) = w' := by
        simp only [onFrontEndConnect, hadd, Heap.createUserContext, hp, Bool.false_eq_true,
          if_false, hworld] at hw'
        exact hw'
      subst hrun
      have hfront : w₁.InFront w.heap.nextNet := ⟨fd, hlookup.trans (if_pos ⟨rfl, rfl⟩)⟩
      refine ⟨fun q hq => ?_, fun n hn => ?_⟩
      · exact (leftAlone_destroyNet hopen .frontEnd hq).net.trans (hothers q hq)
      · cases (nets_destroyFrontEnd hopen hfront).symm.trans hn
    | true =>
      simp only [onFrontEndConnect, hadd, Heap.createUserContext, hp, if_true, Heap.setNet,
        Function.update_self, Function.update_idem] at hw'
      subst hw'
      refine ⟨fun q hq => (Function.update_of_ne hq _ _).trans (hothers q hq), fun n hn => ?_⟩
      simp only [heap_setMgr, Function.update_self] at hn
      obtain rfl := Option.some.inj hn
      rfl

end World

end Rapidapp
