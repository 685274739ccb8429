import Rapidapp.Connector.Handshake

/-!
# Whom a message of a backend server reaches

A message of a backend names a frontend by the pair `(fd, nid)`. The kernel gives a
descriptor out again, `nid` is never given out twice as long as fewer than `2 ^ 31` objects
were made; so the pair names one connection for the whole run of the process.
-/

namespace Rapidapp.Connector

open World

variable {c : ConnectorApp} {w w' : ConnectorWorld}

/-! ## Objects are only ever added -/

theorem nextNet_setUserContext (w : ConnectorWorld) (p : NetPtr) (s : ConnectorSession) :
    (w.setUserContext p s).heap.nextNet = w.heap.nextNet := by
  unfold World.setUserContext
  cases w.heap.nets p with
  | none => rfl
  | some n =>
    cases hctx : n.userContext with
    | none => simp only [hctx]
    | some _ => simp only [hctx]; rfl

theorem nextNet_onInitBackEnd (w : ConnectorWorld) (connect : Option Int) :
    w.heap.nextNet ≤ (ConnectorApp.onInitBackEnd connect w).heap.nextNet := by
  unfold ConnectorApp.onInitBackEnd
  obtain ⟨_, heq⟩ | ⟨fd, n, _, _, heq⟩ := createBackEnd_cases w 0 connect
  · rw [heq]; exact Nat.le_succ _
  · rw [heq]
    change w.heap.nextNet ≤ (w.openAt .backEnd fd 0 .netConnecting).heap.nextNet
    rw [nextNet_openAt]
    exact Nat.le_succ _

theorem nextNet_le_step (h : Inv w) {e : Event} (hstep : c.step w e = some w') :
    w.heap.nextNet ≤ w'.heap.nextNet := by
  cases e with
  | backEnd connect =>
    rw [ConnectorApp.step] at hstep
    split_ifs at hstep
    cases hstep
    exact nextNet_onInitBackEnd w connect
  | connect fd bevOk callocOk =>
    rw [ConnectorApp.step] at hstep
    split_ifs at hstep with hfd
    cases hstep
    obtain hcalm | ⟨w₁, hacc, heq⟩ := onFrontEndConnect_cases h.ok h.nid
      ConnectorApp.onFrontEndConnect (hfd.freshFd h.ok) bevOk callocOk
    · exact hcalm.nextNet
    · have hold : w.heap.nextNet ≤ w₁.heap.nextNet := hacc.nextNet ▸ Nat.le_succ _
      rw [heq, ConnectorApp.onFrontEndConnect]
      split
      · exact hold
      · rwa [nextNet_setUserContext]
  | frontEndSocket b events =>
    cases hstep
    have hclose : w.heap.nextNet ≤
        (w.closeFrontEnd ConnectorApp.onFrontEndClose b).heap.nextNet := by
      unfold closeFrontEnd
      cases w.frontendHandlerMgr.getHandlerByEvent w.heap b with
      | none => exact (calm_removeHandlerByEvent h b).nextNet
      | some p =>
        have he := (onFrontEndClose_spec h p).1
        exact he.kept.stable.nextNet.trans (calm_removeHandlerByEvent (he.inv h) b).nextNet
    unfold onFrontEndSocketEvent
    split_ifs
    all_goals first | exact hclose | exact le_refl _
  | frontEndMsg net msg size =>
    cases hstep
    cases hs : w.getUserContext net with
    | none => rw [ConnectorApp.onRecvFrontEnd, hs]
    | some s => exact (onRecvFrontEnd_spec c h hs msg size).1.kept.stable.nextNet
  | backEndMsg msg size =>
    cases hstep
    obtain heq | ⟨net, s, _, hs, _, heq⟩ := onRecvBackEnd_spec c h msg size
    · rw [heq]
    · rw [heq]
      exact (relayToFrontEnd_spec c h hs (c.pb.parseSSMsg msg size)).1.kept.stable.nextNet
  | backEndSocket b events =>
    cases hstep; exact (calm_onBackEndSocketEvent h.ok h.nid b events).nextNet
  | tick now setting => cases hstep; exact (calm_tick h.ok h.nid now setting).nextNet
  | input b chunk => cases hstep; exact (calm_evbufferAdd h.ok h.nid b chunk).nextNet
  | countPkg p =>
    cases hstep
    have hcalm : Calm w (w.modifyNet p countPkg) :=
      calm_modifyNet h.ok h.nid p (fun _ => rfl) (fun _ => rfl) fun _ => rfl
    exact hcalm.nextNet
  | drain b len => cases hstep; exact (calm_evbufferDrain h.ok h.nid b len).nextNet
  | countTraffic p elapsed =>
    cases hstep
    have hcalm : Calm w (w.modifyNet p (countTraffic elapsed w.now)) :=
      calm_modifyNet h.ok h.nid p (fun _ => rfl) (fun _ => rfl) fun _ => rfl
    exact hcalm.nextNet

theorem nextNet_le_run (h : Inv w) {es : List Event} (hrun : Run.run c.step w es = some w') :
    w.heap.nextNet ≤ w'.heap.nextNet := by
  have hboth := Run.run_preserves (I := fun v => Inv v ∧ w.heap.nextNet ≤ v.heap.nextNet)
    (fun v e v' hv hstep => ⟨(step_spec hv.1 hstep).1, hv.2.trans (nextNet_le_step hv.1 hstep)⟩)
    ⟨h, le_refl _⟩ hrun
  exact hboth.2

/-! ## The pair names one connection -/

/-- Two connections with the same ids are the same one, whenever in the run they exist. -/
theorem getNetIds_inj (h : Inv w) (h' : Inv w') (hlt : (w'.heap.nextNet : Int) < 2 ^ 31)
    (hle : w.heap.nextNet ≤ w'.heap.nextNet) {p q : NetPtr}
    {n m : EasyNet ConnectorSession} (hp : w'.heap.nets p = some n)
    (hq : w.heap.nets q = some m) (hids : w.getNetIds q = w'.getNetIds p) : q = p := by
  have hlt' : (w.heap.nextNet : Int) < 2 ^ 31 := lt_of_le_of_lt (Int.ofNat_le.mpr hle) hlt
  have hsnd := congrArg Prod.snd hids
  rw [h'.nid.getNetIds_snd h'.ok hlt hp, h.nid.getNetIds_snd h.ok hlt' hq] at hsnd
  exact Nat.succ_injective hsnd

/-- A message of a backend only has an effect on the frontend with the ids in it, if on any. -/
theorem onRecvBackEnd_others (h : Inv w) (msg : List UInt8) (size : Nat) {p : NetPtr}
    (hp : w.InFront p) (htouched : ¬ LeftAlone w (c.onRecvBackEnd msg size w).2 p) :
    w.getNetIds p = ((c.pb.parseSSMsg msg size).head.session.fd.toNat,
      (c.pb.parseSSMsg msg size).head.session.nid.toNat) := by
  obtain heq | ⟨q, s, _, hs, hids, heq⟩ := onRecvBackEnd_spec c h msg size
  · rw [heq] at htouched
    exact absurd (LeftAlone.refl w p) htouched
  · by_cases hpq : p = q
    · rw [hpq, hids]
    · have he := (relayToFrontEnd_spec c h hs (c.pb.parseSSMsg msg size)).1
      rw [heq] at htouched
      exact absurd (he.others hpq fun hb => (h.backEnds p hb).2 hp) htouched

/-- A message of a backend that writes to a frontend, drives its session or destroys it carries
the ids of this frontend, and no other connection of the run ever had them. -/
theorem backEndMsg_addressed (c : ConnectorApp) (fate : Nat → Bool)
    (frontRecv backRecv : RapBuffer) (now : Int) {es : List Event}
    (hrun : Run.run c.step (ConnectorWorld.start fate frontRecv backRecv now) es = some w)
    (hfew : (w.heap.nextNet : Int) < 2 ^ 31) (msg : List UInt8) (size : Nat) {p : NetPtr}
    (hp : w.InFront p) (htouched : ¬ LeftAlone w (c.onRecvBackEnd msg size w).2 p) :
    w.getNetIds p = ((c.pb.parseSSMsg msg size).head.session.fd.toNat,
        (c.pb.parseSSMsg msg size).head.session.nid.toNat) ∧
      ∀ es' w' q n, es' <+: es →
        Run.run c.step (ConnectorWorld.start fate frontRecv backRecv now) es' = some w' →
        w'.heap.nets q = some n →
        w'.getNetIds q = ((c.pb.parseSSMsg msg size).head.session.fd.toNat,
          (c.pb.parseSSMsg msg size).head.session.nid.toNat) → q = p := by
  have hstart := Inv.start fate frontRecv backRecv now
  have hinv := run_inv hstart hrun
  have hids := onRecvBackEnd_others hinv msg size hp htouched
  refine ⟨hids, ?_⟩
  rintro es' w' q n ⟨rest, rfl⟩ hrun' hq hids'
  obtain ⟨w'', hrun'', hrest⟩ := Run.run_append_some.mp hrun
  obtain rfl : w' = w'' := Option.some.inj (hrun'.symm.trans hrun'')
  have hinv' := run_inv hstart hrun'
  obtain ⟨fd, hfd⟩ := hp
  obtain ⟨m, b, e, hl, _⟩ := hinv.ok.frontEntry hfd
  exact getNetIds_inj hinv' hinv hfew (nextNet_le_run hinv' hrest) hl.net hq
    (hids'.trans hids.symm)

/-- A client that was authenticated and waits for the server. -/
def waiting : List Event :=
  connected ++ [.frontEndMsg 1 (Wire.encodeCSMsg synMsg) (Wire.encodeCSMsg synMsg).length,
    .frontEndMsg 1 (Wire.encodeCSMsg authenticationMsg)
      (Wire.encodeCSMsg authenticationMsg).length]

theorem backEndMsg_addressed_waiting :
    ∃ w, Run.run ConnectorApp.greeting.step
        (ConnectorWorld.start (fun _ => true) .small .small 0) waiting = some w ∧
      w.getNetIds 1 = (7, 2) ∧ ∀ es' w' q n, es' <+: waiting →
        Run.run ConnectorApp.greeting.step
          (ConnectorWorld.start (fun _ => true) .small .small 0) es' = some w' →
        w'.heap.nets q = some n → w'.getNetIds q = (7, 2) → q = 1 := by
  have hseen : ((Run.run ConnectorApp.greeting.step
      (ConnectorWorld.start (fun _ => true) .small .small 0) waiting).map fun w =>
        (w.heap.nextNet, w.frontendHandlerMgr.handlerPool.lookup 7,
          (w.getUserContext 1).map (·.state),
          ((ConnectorApp.greeting.onRecvBackEnd (Wire.encodeSSMsg ackMsg) 0 w).2.getUserContext
            1).map (·.state))) =
      some (2, some 1, some .stateSynack, some .stateOk) := by decide +kernel
  obtain ⟨w, hw, hseen⟩ := Option.map_eq_some_iff.mp hseen
  simp only [Prod.mk.injEq] at hseen
  obtain ⟨hnext, hpool, hbefore, hafter⟩ := hseen
  have hparse : ConnectorApp.greeting.pb.parseSSMsg (Wire.encodeSSMsg ackMsg) 0 = ackMsg := by
    decide +kernel
  have haddressed := backEndMsg_addressed .greeting (fun _ => true) .small .small 0 hw
    (by rw [hnext]; decide) (Wire.encodeSSMsg ackMsg) 0 ⟨7, hpool⟩ (fun hleft => by
      rw [hleft.getUserContext, hbefore] at hafter
      cases hafter)
  rw [hparse] at haddressed
  exact ⟨w, hw, haddressed⟩

end Rapidapp.Connector
