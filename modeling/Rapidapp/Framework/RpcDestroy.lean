import Rapidapp.Framework.RpcProcessTables

/-!
# DestroyRpc in a callback of the same EasyRpc

When a callback is being run, its coroutine, `EasyRpc::Resume` and the loop of `OnBackEndMsg` all
wait for its return, and go on with what they hold: the context, on whose stack the callback runs,
the `EasyRpc` and the `EasyNet`. `DestroyRpc` destroys all three and nobody is told. So no callback
can destroy its own `EasyRpc` without a use of what is gone (`unsafe_in_own_callback`).
-/

namespace Rapidapp

variable {υ Msg γ : Type}

/-- An object of the process that can be destroyed. -/
inductive RpcObject where
  | coroutine (cid : Int)
  | easyRpc (r : RpcPtr)
  | easyNet (p : NetPtr)
  deriving DecidableEq, Repr

namespace RpcProcess

/-- The object has not been destroyed. -/
def alive (P : RpcProcess υ Msg γ) : RpcObject → Bool
  | .coroutine cid => (P.world.app.scheduler.find cid).isSome
  | .easyRpc r => (P.world.app.rpcs r).isSome
  | .easyNet p => (P.world.heap.nets p).isSome

/-- The objects that code which is already running goes on to use when this happens. A callback runs
on the stack in the context of its coroutine. After its return `ScheduleFunction` writes and
`ResumeCoroutine` reads the state in that context, and `Resume` goes on with `scheduler_` and
`crid_list_`. For the next frame the loop asks its `EasyNet` for the `EasyRpc`, and that whether it
is active. What the application passes itself is not counted. -/
def uses (P : RpcProcess υ Msg γ) (e : RpcProcessEvent υ Msg γ) : List RpcObject :=
  match P.callback with
  | some c =>
    match e with
    | .callbackReturns => [.coroutine c.crid, .easyRpc c.rpc]
    | _ => [.coroutine c.crid]
  | none =>
    match e, P.loop with
    | .nextFrame, some l =>
      match l.next with
      | none => []
      | some _ =>
        .easyNet l.net ::
          (((P.world.heap.nets l.net).bind (·.rpcBinded)).map RpcObject.easyRpc).toList
    | _, _ => []

/-- Whatever happens until `OnBackEndMsg` returns, nothing is used that has been destroyed. -/
def SafeToReturn (proto : RpcProto Msg) (P : RpcProcess υ Msg γ) : Prop :=
  ∀ es Q, Run.run (rpcProcessStep proto) P es = some Q →
    Run.Along (rpcProcessStep proto) (fun P _ => P.loop.isSome) P es →
    Run.Along (rpcProcessStep proto) (fun P e => ∀ o ∈ P.uses e, P.alive o = true) P es

/-- When the callback `c` returns, the context it has run in and its `EasyRpc` are used and are not
there, and the loop does not stop: where there is another frame, it asks its `EasyNet`, be that
there or not. -/
def ReturnsToDestroyed (proto : RpcProto Msg) (c : RpcCallback) (P : RpcProcess υ Msg γ) : Prop :=
  ∀ es R S, Run.run (rpcProcessStep proto) P es = some R →
    Run.Along (rpcProcessStep proto) (fun P _ => P.callback.isSome) P es →
    rpcProcessStep proto R .callbackReturns = some S → R.callback.isSome →
    (∀ o ∈ [RpcObject.coroutine c.crid, .easyRpc c.rpc],
      o ∈ R.uses .callbackReturns ∧ R.alive o = false) ∧
    ∃ l, S.loop = some l ∧ ∀ msglen, l.next = some msglen →
      .easyNet l.net ∈ S.uses .nextFrame ∧ S.alive (.easyNet l.net) = R.alive (.easyNet l.net)

end RpcProcess

/-! ## Coroutines in any run -/

namespace CoroutineScheduler.Coroutines

variable {α : Type} {s s' : CoroutineScheduler α}

/-- Some coroutines are destroyed. -/
theorem of_find (h : s.Coroutines)
    (hfind : ∀ cid, s'.find cid = none ∨ s'.find cid = s.find cid) : s'.Coroutines := by
  have hold : ∀ cid ctx, s'.find cid = some ctx → s.find cid = some ctx := by
    intro cid ctx hctx
    rcases hfind cid with hnone | hsame
    · rw [hnone] at hctx
      cases hctx
    · rwa [hsame] at hctx
  exact ⟨fun cid ctx hctx => h.idx cid ctx (hold cid ctx hctx),
    fun cid ctx hctx => h.ready cid ctx (hold cid ctx hctx),
    fun cid ctx hctx => h.done cid ctx (hold cid ctx hctx)⟩

/-- One coroutine is created or changes its state. -/
theorem put (h : s.Coroutines) {cid : Int} {ctx : CoroutineCtx α}
    (hself : s'.find cid = some ctx) (hother : ∀ c, c ≠ cid → s'.find c = s.find c)
    (hidx : ctx.idx = cid) (hready : ctx.state = .ready ↔ cid < 0) (hdone : ctx.state ≠ .done) :
    s'.Coroutines := by
  have hcases : ∀ c d, s'.find c = some d → (c = cid ∧ d = ctx) ∨ s.find c = some d := by
    intro c d hd
    by_cases hc : c = cid
    · rw [hc, hself] at hd
      cases hd
      exact .inl ⟨hc, rfl⟩
    · rw [hother c hc] at hd
      exact .inr hd
  refine ⟨fun c d hd => ?_, fun c d hd => ?_, fun c d hd => ?_⟩
  · obtain ⟨rfl, rfl⟩ | hold := hcases c d hd
    · exact hidx
    · exact h.idx c d hold
  · obtain ⟨rfl, rfl⟩ | hold := hcases c d hd
    · exact hready
    · exact h.ready c d hold
  · obtain ⟨rfl, rfl⟩ | hold := hcases c d hd
    · exact hdone
    · exact h.done c d hold

end CoroutineScheduler.Coroutines

namespace RpcProcess

theorem call_loop {proto : RpcProto Msg} {P Q : RpcProcess υ Msg γ} {r : RpcPtr}
    {args : World.RpcArgs} (hs : P.call proto r args = some Q) : Q.loop = P.loop := by
  obtain ⟨⟨ret, w⟩, _, rfl⟩ := Option.map_eq_some_iff.mp hs
  dsimp only
  split_ifs <;> rfl

/-- What holds in every run: a callback is run in the loop, and as long as its `EasyRpc` is there, its
coroutine is in the list. -/
structure Running (P : RpcProcess υ Msg γ) : Prop where
  coroutines : P.world.app.scheduler.Coroutines
  bounded : ∀ r rpc, P.world.app.rpcs r = some rpc → r < P.world.app.nextRpc
  callback : ∀ c ∈ P.callback, P.loop.isSome ∧ c.idx = c.crid ∧ 0 ≤ c.crid ∧
    c.rpc < P.world.app.nextRpc ∧
    ∀ rpc, P.world.app.rpcs c.rpc = some rpc → c.crid ∈ rpc.cridList.map (·.crid)

namespace Running

variable {proto : RpcProto Msg} {P Q : RpcProcess υ Msg γ}

theorem start (user : υ) (messages : Nat → Msg) (cocurrentNum : Int)
    (fate : Nat → Bool) (frontRecv backRecv : RapBuffer) (svcMode : SvcMode) (now : Int) :
    Running (.start (.start (.init user messages cocurrentNum) fate frontRecv backRecv
      svcMode now) : RpcProcess υ Msg γ) where
  coroutines := by refine ⟨?_, ?_, ?_⟩ <;> intro _ _ h <;> cases h
  bounded _ _ h := by cases h
  callback _ h := by cases h

theorem same (h : Running P) (hs : P.world.app.SameTables Q.world.app)
    (hcallback : Q.callback = P.callback) (hloop : Q.callback.isSome → Q.loop = P.loop) :
    Running Q := by
  refine ⟨hs.scheduler ▸ h.coroutines, fun r rpc hr => ?_, fun c hc => ?_⟩
  · rcases lt_or_ge r P.world.app.nextRpc with hlt | hge
    · exact lt_of_lt_of_le hlt hs.nextRpc
    · rcases hs.created r rpc hge hr with hold | hnew
      · exact absurd (h.bounded r rpc hold) (not_lt.mpr hge)
      · exact hnew.1
  · rw [hloop (Option.isSome_iff_exists.mpr ⟨c, hc⟩)]
    obtain ⟨hsome, hidx, hpos, hlt, hlist⟩ := h.callback c (hcallback ▸ hc)
    refine ⟨hsome, hidx, hpos, lt_of_lt_of_le hlt hs.nextRpc, fun rpc hrpc => ?_⟩
    rw [hs.rpcs c.rpc hlt] at hrpc
    exact hlist rpc hrpc

theorem call (h : Running P) {r : RpcPtr} {args : World.RpcArgs}
    (hs : P.call proto r args = some Q) : Running Q := by
  have hloop := call_loop hs
  obtain ⟨hsame, hcallback, _, _⟩ | ⟨hneg, ctx, hsched, hrpcs, hnext, hcallback⟩ |
      ⟨ctx, rpc, buf, _, rfl, hrpc, hpos, _, happ, hcallback, _, _⟩ := call_cases hs
  · exact h.same hsame hcallback fun _ => hloop
  · refine ⟨?_, by rw [hrpcs, hnext]; exact h.bounded, ?_⟩
    · rw [hsched]
      exact h.coroutines.put (P.world.app.scheduler.find_enroll_self ctx)
        (fun c hc => P.world.app.scheduler.find_enroll_ne hc ctx) rfl
        (iff_of_true rfl hneg) nofun
    · rw [hcallback, hloop, hrpcs, hnext]
      exact h.callback
  · refine ⟨?_, fun r' rpc' hr => ?_, fun c hc => ?_⟩
    · rw [happ, RpcState.register_scheduler]
      exact h.coroutines.put (P.world.app.scheduler.find_started_self ctx hpos)
        (fun c hc => P.world.app.scheduler.find_started_ne ctx hpos hc) rfl
        (iff_of_false nofun (not_lt.mpr hpos)) nofun
    · rw [happ, RpcState.register_rpcs] at hr
      rw [happ, RpcState.register_nextRpc]
      by_cases hr' : r' = ctx.rpcStub
      · rw [hr']; exact h.bounded _ rpc hrpc
      · rw [Function.update_of_ne hr'] at hr
        exact h.bounded r' rpc' hr
    · rw [hcallback, Option.mem_map] at hc
      obtain ⟨c', hc', rfl⟩ := hc
      rw [hloop, happ, RpcState.register_nextRpc, RpcState.register_rpcs]
      obtain ⟨hsome, hidx, hpos', hlt, hlist⟩ := h.callback c' hc'
      refine ⟨hsome, hidx, hpos', hlt, fun rpc' hr => ?_⟩
      dsimp only at hr ⊢
      by_cases hstub : c'.rpc = ctx.rpcStub
      · rw [hstub, Function.update_self] at hr
        cases hr
        rw [List.map_append]
        exact List.mem_append_left _ (hlist rpc (hstub ▸ hrpc))
      · rw [Function.update_of_ne hstub] at hr
        exact hlist rpc' hr

theorem nextFrame (h : Running P) {l : BackEndLoop} (hnone : P.callback = none)
    (hs : P.nextFrame proto l = some Q) : Running Q := by
  obtain ⟨_, _, ⟨hsame, hcallback⟩ |
      ⟨r, rpc, crid, w, hrpc, hwsame, hwrpcs, hcrid, hcase⟩⟩ :=
    nextFrame_cases h.coroutines hnone hs
  · exact h.same hsame (hcallback.trans hnone.symm) fun hsome => by
      rw [hcallback] at hsome
      cases hsome
  obtain ⟨hcallback, hworld, _⟩ |
      ⟨task, status, hfind, hcallback, hloop, hsched, _, hnext, hrpcs⟩ := hcase
  · obtain ⟨hsched, _, hnext, hsome⟩ := w.forget_app r crid
    rw [← hworld] at hsched hnext hsome
    refine ⟨by rw [hsched, hwsame.scheduler]; exact h.coroutines, fun r' rpc' hr => ?_,
      fun c hc => ?_⟩
    · have hold : (P.world.app.rpcs r').isSome = true := by
        rw [← hwrpcs, ← hsome r', hr]
        rfl
      obtain ⟨rpc'', hrpc''⟩ := Option.isSome_iff_exists.mp hold
      rw [hnext]
      exact lt_of_lt_of_le (h.bounded r' rpc'' hrpc'') hwsame.nextRpc
    · rw [hcallback] at hc
      cases hc
  · have hpos : ¬ crid < 0 := fun hneg => nomatch (h.coroutines.ready crid _ hfind).mpr hneg
    refine ⟨?_, by rw [hrpcs, hnext]; exact h.bounded, fun c hc => ?_⟩
    · rw [hsched]
      exact h.coroutines.put (P.world.app.scheduler.find_enter_self crid _)
        (fun c hc => P.world.app.scheduler.find_enter_ne hc _) rfl (iff_of_false nofun hpos) nofun
    · rw [hcallback, Option.mem_some_iff] at hc
      subst hc
      rw [hnext, hrpcs]
      refine ⟨hloop, rfl, not_lt.mp hpos, h.bounded r rpc hrpc, fun rpc' hr => ?_⟩
      obtain rfl := Option.some.inj (hr.symm.trans hrpc)
      refine hcrid.resolve_left ?_
      rintro rfl
      exact hpos (by decide)

theorem callbackReturns (h : Running P) {c : RpcCallback} (hc : P.callback = some c)
    (hs : P.callbackReturns c = some Q) : Running Q := by
  obtain ⟨_, hidx, _, _, _⟩ := h.callback c hc
  unfold RpcProcess.callbackReturns at hs
  split_ifs at hs
  obtain ⟨hsched, _, hnext, hrpcs⟩ := resumeReturn_app hidx P.world
  cases hs
  refine ⟨?_, fun r rpc hr => ?_, fun c' hc' => by cases hc'⟩
  · dsimp only
    rw [hsched]
    refine h.coroutines.of_find fun cid => ?_
    by_cases hcid : cid = c.crid
    · rw [hcid]
      exact .inl (CoroutineScheduler.find_conclude_reap_self _ _)
    · exact .inr (CoroutineScheduler.find_conclude_reap_ne _ hcid)
  · dsimp only at hr ⊢
    rw [hnext]
    rw [hrpcs, RpcState.modifyRpc] at hr
    cases hold : P.world.app.rpcs c.rpc with
    | none =>
      rw [hold] at hr
      exact h.bounded r rpc hr
    | some rpc' =>
      rw [hold] at hr
      dsimp only at hr
      by_cases hr' : r = c.rpc
      · rw [hr']; exact h.bounded _ rpc' hold
      · rw [Function.update_of_ne hr'] at hr
        exact h.bounded r rpc hr

theorem destroyRpc (h : Running P) {r : RpcPtr} {rpc : EasyRpc}
    (happ : Q.world.app = P.world.app.deleteRpc r rpc) (hcallback : Q.callback = P.callback)
    (hloop : Q.loop = P.loop) : Running Q := by
  have hold : ∀ r' rpc', Q.world.app.rpcs r' = some rpc' → P.world.app.rpcs r' = some rpc' := by
    intro r' rpc' hr
    rw [happ, RpcState.deleteRpc_rpcs] at hr
    by_cases hr' : r' = r
    · rw [hr', Function.update_self] at hr
      cases hr
    · rwa [Function.update_of_ne hr'] at hr
  have hnext : Q.world.app.nextRpc = P.world.app.nextRpc := by rw [happ]; rfl
  refine ⟨?_, fun r' rpc' hr => ?_, fun c hc => ?_⟩
  · rw [happ]
    refine h.coroutines.of_find fun cid => ?_
    have hfind := CoroutineScheduler.find_foldl_destroy rpc.cridList P.world.app.scheduler cid
    by_cases hmem : cid ∈ rpc.cridList.map (·.crid)
    · rw [if_pos hmem] at hfind
      exact .inl hfind
    · rw [if_neg hmem] at hfind
      exact .inr hfind
  · rw [hnext]
    exact h.bounded r' rpc' (hold r' rpc' hr)
  · rw [hcallback] at hc
    obtain ⟨hsome, hidx, hpos, hlt, hlist⟩ := h.callback c hc
    rw [hloop, hnext]
    exact ⟨hsome, hidx, hpos, hlt, fun rpc' hr => hlist rpc' (hold _ rpc' hr)⟩

theorem step (h : Running P) {e : RpcProcessEvent υ Msg γ}
    (hs : rpcProcessStep proto P e = some Q) : Running Q := by
  cases e with
  | createRpc type connect newOk =>
    cases hs
    exact h.same (P.world.createRpc_keeps type connect newOk).sameTables rfl fun _ => rfl
  | destroyRpc rpc =>
    obtain ⟨_, rfl⟩ | ⟨r, easyRpc, _, _, happ, hcallback, hloop, _, _⟩ := destroyRpc_cases hs
    · exact h
    · exact h.destroyRpc happ hcallback hloop
  | call r args => exact h.call hs
  | onBackEndMsg b =>
    obtain ⟨hnone, _, hworld, hcallback, _, _⟩ := onBackEndMsg_cases hs
    refine h.same (.of_eq (by rw [hworld]) (by rw [hworld]) (by rw [hworld]) (by rw [hworld]))
      hcallback fun hsome => ?_
    rw [hcallback, hnone] at hsome
    cases hsome
  | nextFrame =>
    cases hcallback : P.callback with
    | some c => simp [rpcProcessStep, hcallback] at hs
    | none =>
      cases hloop : P.loop with
      | none => simp [rpcProcessStep, hcallback, hloop] at hs
      | some l =>
        simp only [rpcProcessStep, hcallback, hloop] at hs
        exact h.nextFrame hcallback hs
  | callbackReturns =>
    cases hcallback : P.callback with
    | none => simp [rpcProcessStep, hcallback] at hs
    | some c =>
      simp only [rpcProcessStep, hcallback] at hs
      exact h.callbackReturns hcallback hs
  | application user messages =>
    cases hs
    exact h.same (.of_eq rfl rfl rfl rfl) rfl fun _ => rfl
  | connections heap frontend backend =>
    cases hs
    exact h.same (.of_eq rfl rfl rfl rfl) rfl fun _ => rfl

end Running

/-- In every run. -/
theorem running_run {proto : RpcProto Msg} {user : υ} {messages : Nat → Msg} {cocurrentNum : Int}
    {fate : Nat → Bool} {frontRecv backRecv : RapBuffer} {svcMode : SvcMode} {now : Int}
    {es : List (RpcProcessEvent υ Msg γ)} {P : RpcProcess υ Msg γ}
    (hrun : Run.run (rpcProcessStep proto)
      (.start (.start (.init user messages cocurrentNum) fate frontRecv backRecv svcMode now)) es =
        some P) : Running P :=
  Run.run_preserves (fun _ _ _ h hs => h.step hs) (.start user messages cocurrentNum fate
    frontRecv backRecv svcMode now) hrun

/-! ## After DestroyRpc in the callback -/

/-- The callback `c` goes on, and its `EasyRpc` has been destroyed. Its context is gone too, and does
not come back as long as the callback makes no calls. -/
structure Orphaned (c : RpcCallback) (P : RpcProcess υ Msg γ) : Prop where
  here : ∃ c', P.callback = some c' ∧ c'.rpc = c.rpc ∧ c'.crid = c.crid ∧
    (c'.nested = false → P.world.app.scheduler.find c.crid = none)
  loop : P.loop.isSome
  pos : 0 ≤ c.crid
  bound : c.rpc < P.world.app.nextRpc
  gone : P.world.app.rpcs c.rpc = none

namespace Orphaned

variable {proto : RpcProto Msg} {c : RpcCallback} {P Q : RpcProcess υ Msg γ}

/-- `DestroyRpc` on the `EasyRpc` of the callback destroys the coroutine the callback runs in. -/
theorem of_destroyRpc (h : Running P) (hc : P.callback = some c)
    (hs : rpcProcessStep proto P (.destroyRpc (some c.rpc)) = some Q) :
    Orphaned c Q ∧ Q.callback = some c ∧ Q.world.app.scheduler.find c.crid = none := by
  obtain ⟨hnone, _⟩ | ⟨r, rpc, heq, hrpc, happ, hcallback, hloop, _, _⟩ := destroyRpc_cases hs
  · cases hnone
  cases heq
  obtain ⟨hsome, _, hpos, hlt, hlist⟩ := h.callback c hc
  have hfind : Q.world.app.scheduler.find c.crid = none := by
    have hdestroy := CoroutineScheduler.find_foldl_destroy rpc.cridList P.world.app.scheduler c.crid
    rw [if_pos (hlist rpc hrpc)] at hdestroy
    rw [happ]
    exact hdestroy
  rw [hc] at hcallback
  have hnext : Q.world.app.nextRpc = P.world.app.nextRpc := by rw [happ]; rfl
  refine ⟨⟨⟨c, hcallback, rfl, rfl, fun _ => hfind⟩, hloop ▸ hsome, hpos, hnext ▸ hlt, ?_⟩,
    hcallback, hfind⟩
  rw [happ, RpcState.deleteRpc_rpcs, Function.update_self]

theorem same (h : Orphaned c P) (hs : P.world.app.SameTables Q.world.app)
    (hcallback : Q.callback = P.callback) (hloop : Q.loop = P.loop) : Orphaned c Q := by
  refine ⟨?_, hloop ▸ h.loop, h.pos, lt_of_lt_of_le h.bound hs.nextRpc, ?_⟩
  · rw [hcallback, hs.scheduler]
    exact h.here
  · rw [hs.rpcs c.rpc h.bound]
    exact h.gone

theorem call (h : Orphaned c P) {r : RpcPtr} {args : World.RpcArgs}
    (hs : P.call proto r args = some Q) : Orphaned c Q := by
  have hloop := call_loop hs
  obtain ⟨hsame, hcallback, _, _⟩ | ⟨hneg, ctx, hsched, hrpcs, hnext, hcallback⟩ |
      ⟨ctx, rpc, buf, _, rfl, hrpc, _, _, happ, hcallback, _, _⟩ := call_cases hs
  · exact h.same hsame hcallback hloop
  · refine ⟨?_, hloop ▸ h.loop, h.pos, hnext ▸ h.bound, hrpcs ▸ h.gone⟩
    have hne : c.crid ≠ P.world.app.scheduler.cidSeed := by
      have hpos := h.pos
      omega
    rw [hcallback, hsched, P.world.app.scheduler.find_enroll_ne hne]
    exact h.here
  · obtain ⟨c', hc', hr', hcrid', _⟩ := h.here
    refine ⟨⟨{ c' with nested := true }, ?_, hr', hcrid', fun hnested => by cases hnested⟩,
      hloop ▸ h.loop, h.pos, ?_, ?_⟩
    · rw [hcallback, hc']
      rfl
    · rw [happ, RpcState.register_nextRpc]
      exact h.bound
    · have hne : c.rpc ≠ ctx.rpcStub := by
        intro heq
        rw [← heq, h.gone] at hrpc
        cases hrpc
      rw [happ, RpcState.register_rpcs, Function.update_of_ne hne]
      exact h.gone

theorem destroyRpc (h : Orphaned c P) {r : RpcPtr} {rpc : EasyRpc}
    (happ : Q.world.app = P.world.app.deleteRpc r rpc) (hcallback : Q.callback = P.callback)
    (hloop : Q.loop = P.loop) : Orphaned c Q := by
  have hnext : Q.world.app.nextRpc = P.world.app.nextRpc := by rw [happ]; rfl
  refine ⟨?_, hloop ▸ h.loop, h.pos, hnext ▸ h.bound, ?_⟩
  · obtain ⟨c', hc', hr', hcrid', hfind'⟩ := h.here
    refine ⟨c', hcallback.trans hc', hr', hcrid', fun hnested => ?_⟩
    have hdestroy := CoroutineScheduler.find_foldl_destroy rpc.cridList P.world.app.scheduler c.crid
    rw [hfind' hnested, ite_self] at hdestroy
    rw [happ]
    exact hdestroy
  · rw [happ, RpcState.deleteRpc_rpcs]
    by_cases hr : c.rpc = r
    · rw [hr, Function.update_self]
    · rw [Function.update_of_ne hr]
      exact h.gone

/-- Whatever the callback does, short of returning. -/
theorem step (h : Orphaned c P) {e : RpcProcessEvent υ Msg γ}
    (hs : rpcProcessStep proto P e = some Q) (hQ : Q.callback.isSome) : Orphaned c Q := by
  obtain ⟨c', hc', _⟩ := h.here
  cases e with
  | createRpc type connect newOk =>
    cases hs
    exact h.same (P.world.createRpc_keeps type connect newOk).sameTables rfl rfl
  | destroyRpc rpc =>
    obtain ⟨_, rfl⟩ | ⟨r, easyRpc, _, _, happ, hcallback, hloop, _, _⟩ := destroyRpc_cases hs
    · exact h
    · exact h.destroyRpc happ hcallback hloop
  | call r args => exact h.call hs
  | onBackEndMsg b => simp [rpcProcessStep, hc'] at hs
  | nextFrame => simp [rpcProcessStep, hc'] at hs
  | callbackReturns =>
    simp only [rpcProcessStep, hc', RpcProcess.callbackReturns] at hs
    split_ifs at hs
    cases hs
    cases hQ
  | application user messages =>
    cases hs
    exact h.same (.of_eq rfl rfl rfl rfl) rfl rfl
  | connections heap frontend backend =>
    cases hs
    exact h.same (.of_eq rfl rfl rfl rfl) rfl rfl

/-- Until the callback returns. -/
theorem run (h : Orphaned c P) {es : List (RpcProcessEvent υ Msg γ)} {R : RpcProcess υ Msg γ}
    (hrun : Run.run (rpcProcessStep proto) P es = some R)
    (hin : Run.Along (rpcProcessStep proto) (fun P _ => P.callback.isSome) P es)
    (hR : R.callback.isSome) : Orphaned c R := by
  induction es generalizing P with
  | nil =>
    cases hrun
    exact h
  | cons e es ih =>
    obtain ⟨Q, hQ, hrest⟩ := Run.run_cons_some.mp hrun
    have hinQ := hin.2 Q hQ
    have hQsome : Q.callback.isSome := by
      cases es with
      | nil =>
        cases hrest
        exact hR
      | cons e' es' => exact hinQ.1
    exact ih (h.step hQ hQsome) hrest hinQ

/-- The callback returns to what has been destroyed. -/
theorem returnsToDestroyed (h : Orphaned c P) : ReturnsToDestroyed proto c P := by
  intro es R S hrun hin hs hR
  obtain ⟨⟨c', hc', hr', hcrid', hfind'⟩, hloop, _, _, hgone⟩ := h.run hrun hin hR
  have huses : R.uses .callbackReturns = [.coroutine c.crid, .easyRpc c.rpc] := by
    unfold uses
    rw [hc', ← hr', ← hcrid']
  simp only [rpcProcessStep, hc', RpcProcess.callbackReturns] at hs
  split_ifs at hs with hnested
  have hfind := hfind' (Bool.eq_false_iff.mpr hnested)
  obtain ⟨l, hl⟩ := Option.isSome_iff_exists.mp hloop
  have hheap : ∀ w : RpcWorld υ Msg γ, (World.resumeReturn c' w).heap = w.heap := by
    intro w
    unfold World.resumeReturn World.forget
    split_ifs <;> rfl
  cases hs
  refine ⟨fun o ho => ⟨huses ▸ ho, ?_⟩, l, hl, fun msglen hnext => ⟨?_, ?_⟩⟩
  · simp only [List.mem_cons, List.not_mem_nil, or_false] at ho
    rcases ho with rfl | rfl
    · unfold alive
      dsimp only
      rw [hfind]
      rfl
    · unfold alive
      dsimp only
      rw [hgone]
      rfl
  · unfold uses
    simp only [hl, hnext]
    exact List.mem_cons_self
  · unfold alive
    dsimp only
    rw [hheap]

/-- The next thing the callback does, be it its return, is done on a stack that is gone. -/
theorem not_safeToReturn (h : Orphaned c P) (hc : P.callback = some c)
    (hfind : P.world.app.scheduler.find c.crid = none) : ¬ SafeToReturn proto P := by
  intro hsafe
  -- the least a callback can do
  obtain ⟨e, Q, hs⟩ : ∃ e Q, rpcProcessStep proto P e = some Q := by
    cases hnested : c.nested with
    | false =>
      refine ⟨.callbackReturns, { P with
        world := World.resumeReturn c P.world
        callback := none
        finished := P.finished ++ [c.crid] }, ?_⟩
      simp only [rpcProcessStep, hc, RpcProcess.callbackReturns, hnested, Bool.false_eq_true,
        if_false]
    | true => exact ⟨.application P.world.app.user P.world.app.messages, _, rfl⟩
  have halong := hsafe [e] Q (Run.run_cons_some.mpr ⟨Q, hs, rfl⟩) ⟨h.loop, fun _ _ => trivial⟩
  have huses : .coroutine c.crid ∈ P.uses e := by
    unfold uses
    rw [hc]
    cases e <;> exact List.mem_cons_self
  have halive := halong.1 _ huses
  unfold alive at halive
  dsimp only at halive
  rw [hfind] at halive
  cases halive

end Orphaned

end RpcProcess

open RpcProcess

/-- In every state in which `OnBackEndMsg` runs the callback of a reply, whose `EasyRpc` is there: when
the callback calls `DestroyRpc` on it, something is used after it was destroyed, and the return of
the callback uses its context and its `EasyRpc`, and does not stop the loop. -/
theorem unsafe_in_own_callback {proto : RpcProto Msg} {user : υ} {messages : Nat → Msg}
    {cocurrentNum : Int} {fate : Nat → Bool} {frontRecv backRecv : RapBuffer} {svcMode : SvcMode}
    {now : Int} {es : List (RpcProcessEvent υ Msg γ)} {P Q : RpcProcess υ Msg γ}
    (hrun : Run.run (rpcProcessStep proto)
      (.start (.start (.init user messages cocurrentNum) fate frontRecv backRecv svcMode now)) es =
        some P)
    {c : RpcCallback} (hc : P.callback = some c)
    (hdestroy : rpcProcessStep proto P (.destroyRpc (some c.rpc)) = some Q) :
    ¬ SafeToReturn proto Q ∧ ReturnsToDestroyed proto c Q := by
  obtain ⟨horphaned, hcallback, hfind⟩ := Orphaned.of_destroyRpc (running_run hrun) hc hdestroy
  exact ⟨horphaned.not_safeToReturn hcallback hfind, horphaned.returnsToDestroyed⟩

/-- What is used and has been destroyed. -/
def RpcProcess.usesDestroyed (P : RpcProcess υ Msg γ) (e : RpcProcessEvent υ Msg γ) :
    List RpcObject :=
  (P.uses e).filter fun o => !P.alive o

/-- The callback of the first call destroys its `EasyRpc`, where two answers have come in. -/
theorem replying_twice : ∃ P c Q S,
    Run.run (rpcProcessStep .plain) (.start .idle) (replying (answerFrame ++ answerFrame)) = some P ∧
      P.callback = some c ∧ rpcProcessStep .plain P (.destroyRpc (some c.rpc)) = some Q ∧
      rpcProcessStep .plain Q .callbackReturns = some S ∧ Q.loop.isSome ∧
      Q.usesDestroyed .callbackReturns = [.coroutine 0, .easyRpc 0] ∧
      S.usesDestroyed .nextFrame = [.easyNet 0] := by
  have hfacts : (Run.run (rpcProcessStep .plain) (.start .idle)
      (replying (answerFrame ++ answerFrame))).bind (fun P => P.callback.bind fun c =>
        (rpcProcessStep .plain P (.destroyRpc (some c.rpc))).bind fun Q =>
          (rpcProcessStep .plain Q .callbackReturns).map fun S =>
            (Q.loop.isSome, Q.usesDestroyed .callbackReturns, S.usesDestroyed .nextFrame)) =
      some (true, [.coroutine 0, .easyRpc 0], [.easyNet 0]) := by decide +kernel
  obtain ⟨P, hP, hfacts⟩ := Option.bind_eq_some_iff.mp hfacts
  obtain ⟨c, hc, hfacts⟩ := Option.bind_eq_some_iff.mp hfacts
  obtain ⟨Q, hQ, hfacts⟩ := Option.bind_eq_some_iff.mp hfacts
  obtain ⟨S, hS, heq⟩ := Option.map_eq_some_iff.mp hfacts
  simp only [Prod.mk.injEq] at heq
  exact ⟨P, c, Q, S, hP, hc, hQ, hS, heq.1, heq.2.1, heq.2.2⟩

theorem replying_twice_unsafe : ∃ P c Q,
    Run.run (rpcProcessStep .plain) (.start .idle) (replying (answerFrame ++ answerFrame)) = some P ∧
      P.callback = some c ∧ rpcProcessStep .plain P (.destroyRpc (some c.rpc)) = some Q ∧
      ¬ SafeToReturn .plain Q ∧ ReturnsToDestroyed .plain c Q := by
  obtain ⟨P, c, Q, _, hrun, hc, hdestroy, _⟩ := replying_twice
  exact ⟨P, c, Q, hrun, hc, hdestroy, unsafe_in_own_callback hrun hc hdestroy⟩

/-- There all three are used after `DestroyRpc`: the context and the `EasyRpc` when the callback
returns, and the `EasyNet` for the second answer. -/
theorem replying_twice_uses_destroyed : ∃ P c Q S,
    Run.run (rpcProcessStep .plain) (.start .idle) (replying (answerFrame ++ answerFrame)) = some P ∧
      P.callback = some c ∧ rpcProcessStep .plain P (.destroyRpc (some c.rpc)) = some Q ∧
      rpcProcessStep .plain Q .callbackReturns = some S ∧
      Q.usesDestroyed .callbackReturns = [.coroutine 0, .easyRpc 0] ∧
      S.usesDestroyed .nextFrame = [.easyNet 0] ∧ ¬ SafeToReturn .plain Q := by
  obtain ⟨P, c, Q, S, hrun, hc, hdestroy, hS, hloop, hreturn, hnext⟩ := replying_twice
  refine ⟨P, c, Q, S, hrun, hc, hdestroy, hS, hreturn, hnext, fun hsafe => ?_⟩
  have halong := hsafe [.callbackReturns] S (Run.run_cons_some.mpr ⟨S, hS, rfl⟩)
    ⟨hloop, fun _ _ => trivial⟩
  have hdead : .coroutine 0 ∈ Q.usesDestroyed .callbackReturns := by
    rw [hreturn]
    exact List.mem_cons_self
  obtain ⟨hmem, hnot⟩ := List.mem_filter.mp hdead
  rw [halong.1 _ hmem] at hnot
  cases hnot

end Rapidapp
