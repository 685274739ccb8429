import Rapidapp.Framework.RpcLedger

/-!
# EasyRpc: what the events of a process do to the tables

One lemma for each event that can change the tables: `call_cases`, `nextFrame_cases`,
`callbackReturns_app` and `destroyRpc_cases`. Frames need that coroutines wait or run, and only
those with an id that was taken for an error are still ready (`Coroutines`).
-/

namespace Rapidapp

variable {υ Msg γ : Type}

namespace RpcState

/-- Nothing the tables are made of changes, but there may be new `EasyRpc` objects. -/
structure SameTables (s s' : RpcState υ Msg) : Prop where
  scheduler : s'.scheduler = s.scheduler
  asyncidSeed : s'.asyncidSeed = s.asyncidSeed
  nextRpc : s.nextRpc ≤ s'.nextRpc
  rpcs : ∀ r, r < s.nextRpc → s'.rpcs r = s.rpcs r
  created : ∀ r rpc, s.nextRpc ≤ r → s'.rpcs r = some rpc →
    s.rpcs r = some rpc ∨ (r < s'.nextRpc ∧ rpc.cridList = [])

theorem Keeps.sameTables {s s' : RpcState υ Msg} (h : s.Keeps s') : s.SameTables s' :=
  ⟨h.scheduler, h.asyncidSeed, h.nextRpc, h.rpcs, h.created⟩

theorem SameTables.of_eq {s s' : RpcState υ Msg} (hscheduler : s'.scheduler = s.scheduler)
    (hseed : s'.asyncidSeed = s.asyncidSeed) (hnext : s'.nextRpc = s.nextRpc)
    (hrpcs : s'.rpcs = s.rpcs) : s.SameTables s' :=
  ⟨hscheduler, hseed, hnext.ge, fun r _ => by rw [hrpcs],
    fun r rpc _ h => .inl (by rwa [hrpcs] at h)⟩

end RpcState

/-- Every coroutine is known by its id. It is ready when its id is negative, and else it waits or
runs. -/
structure CoroutineScheduler.Coroutines {α : Type} (s : CoroutineScheduler α) : Prop where
  idx : ∀ cid ctx, s.find cid = some ctx → ctx.idx = cid
  ready : ∀ cid ctx, s.find cid = some ctx → (ctx.state = .ready ↔ cid < 0)
  done : ∀ cid ctx, s.find cid = some ctx → ctx.state ≠ .done

namespace World

/-- `DestroyRpc` changes nothing of the application but the tables. -/
theorem destroyBackEnd_app (w : RpcWorld υ Msg γ) (binding : Option NetPtr) :
    (w.destroyBackEnd binding).app = w.app := by
  cases binding <;> rfl

/-- What is left of `w` when `Resume` forgets a coroutine. -/
theorem forget_app (w : RpcWorld υ Msg γ) (r : RpcPtr) (crid : Int) :
    (w.forget r crid).app.scheduler = w.app.scheduler ∧
      (w.forget r crid).app.asyncidSeed = w.app.asyncidSeed ∧
      (w.forget r crid).app.nextRpc = w.app.nextRpc ∧
      ∀ r', ((w.forget r crid).app.rpcs r').isSome = (w.app.rpcs r').isSome := by
  unfold forget
  split_ifs
  · exact ⟨rfl, rfl, rfl, fun _ => rfl⟩
  · unfold RpcState.modifyRpc
    dsimp only
    cases hrpc : w.app.rpcs r with
    | none => exact ⟨rfl, rfl, rfl, fun _ => rfl⟩
    | some rpc =>
      refine ⟨rfl, rfl, rfl, fun r' => ?_⟩
      dsimp only
      by_cases hr : r' = r
      · rw [hr, Function.update_self, hrpc]; rfl
      · rw [Function.update_of_ne hr]

/-- The callback of a coroutine that waits is started, and otherwise there is none. -/
theorem wakeStart_cases {proto : RpcProto Msg} {r : RpcPtr} {crid : Int}
    {w w' : RpcWorld υ Msg γ} {callback : Option RpcCallback}
    (hc : w.app.scheduler.Coroutines) (hs : wakeStart proto r crid w = some (callback, w')) :
    (callback = none ∧ w' = w.forget r crid ∧
      ∀ ctx, w.app.scheduler.find crid = some ctx → ctx.state ≠ .suspend) ∨
    ∃ task status, w.app.scheduler.find crid = some ⟨crid, .suspend, task⟩ ∧
      callback = some ⟨r, crid, crid, task, status, false⟩ ∧
      w'.app.scheduler = w.app.scheduler.enter crid ⟨crid, .suspend, task⟩ ∧
      w'.app.asyncidSeed = w.app.asyncidSeed ∧ w'.app.nextRpc = w.app.nextRpc ∧
      w'.app.rpcs = w.app.rpcs := by
  unfold wakeStart at hs
  cases hfind : w.app.scheduler.find crid with
  | none =>
    rw [hfind] at hs
    have halive : w.app.scheduler.coroutineBeenAlive crid = false := by
      rw [CoroutineScheduler.coroutineBeenAlive, hfind]
    simp only [halive, Bool.false_eq_true, if_false, Option.some.injEq, Prod.mk.injEq] at hs
    refine .inl ⟨hs.1.symm, hs.2.symm, ?_⟩
    intro ctx h
    cases h
  | some ctx =>
    obtain ⟨idx, state, task⟩ := ctx
    have hidx : idx = crid := hc.idx crid _ hfind
    have hready := hc.ready crid _ hfind
    have hdone := hc.done crid _ hfind
    subst hidx
    rw [hfind] at hs
    have halive : w.app.scheduler.coroutineBeenAlive idx = true := by
      rw [CoroutineScheduler.coroutineBeenAlive, hfind]
      exact decide_eq_true hdone
    cases state with
    | suspend =>
      dsimp only at hs
      obtain ⟨w₁, hreply, heq⟩ := Option.map_eq_some_iff.mp hs
      obtain ⟨rfl, rfl⟩ := Prod.mk.inj heq
      refine .inr ⟨task, _, rfl, rfl, ?_⟩
      unfold rpcFunctionReply at hreply
      split at hreply
      · cases hreply
      · cases hreply
        exact ⟨rfl, rfl, rfl, rfl⟩
    | running =>
      have hres : resumeCoroutine proto .quiet w idx = some w := by
        unfold resumeCoroutine
        rw [hfind]
      simp only [halive, if_true, hres, Option.map_some, Option.some.injEq, Prod.mk.injEq] at hs
      refine .inl ⟨hs.1.symm, hs.2.symm, ?_⟩
      intro ctx h hsuspend
      cases h
      cases hsuspend
    | ready =>
      -- such a coroutine has a negative id, and `ScheduleFunction` asserts that it has not
      have hneg : idx < 0 := hready.mp rfl
      have hres : resumeCoroutine proto .quiet w idx = none := by
        unfold resumeCoroutine
        rw [hfind]
        exact if_pos hneg
      simp only [halive, if_true, hres, Option.map_none] at hs
      cases hs
    | done => exact absurd rfl hdone

end World

namespace RpcProcess

/-- What `RpcCall` does to the process: nothing to the tables, or it has made a coroutine with an id
that is taken for an error and that stays ready, or the call is made. -/
theorem call_cases {proto : RpcProto Msg} {P Q : RpcProcess υ Msg γ} {r : RpcPtr}
    {args : World.RpcArgs} (hs : P.call proto r args = some Q) :
    (P.world.app.SameTables Q.world.app ∧ Q.callback = P.callback ∧ Q.calls = P.calls ∧
      Q.finished = P.finished) ∨
    (P.world.app.scheduler.cidSeed < 0 ∧ ∃ ctx,
      Q.world.app.scheduler = P.world.app.scheduler.enroll ctx ∧
      Q.world.app.rpcs = P.world.app.rpcs ∧ Q.world.app.nextRpc = P.world.app.nextRpc ∧
      Q.callback = P.callback) ∨
    ∃ ctx rpc buf, args.request = some ctx.request ∧ ctx.rpcStub = r ∧
      P.world.app.rpcs ctx.rpcStub = some rpc ∧ 0 ≤ P.world.app.scheduler.cidSeed ∧
      buf = P.world.requestBuf proto ctx ∧
      Q.world.app = P.world.app.register (P.world.app.scheduler.started ctx) buf rpc ctx ∧
      Q.callback = P.callback.map (fun c => { c with nested := true }) ∧
      Q.calls = P.calls ++ [⟨ctx.rpcStub, P.world.app.scheduler.cidSeed, buf⟩] ∧
      Q.finished = P.finished := by
  unfold RpcProcess.call at hs
  obtain ⟨_, n, _, heq⟩ |
      ⟨_, request, callback, rpc, net, hrequest, _, hrpc, _, ⟨hneg, heq⟩ | ⟨hpos, heq⟩⟩ :=
    P.world.rpcCall_cases proto .quiet r args
  · obtain ⟨w, hw⟩ : ∃ w : RpcWorld υ Msg γ,
      { P.world with app := { P.world.app with nextCtx := n } } = w := ⟨_, rfl⟩
    have hsame : P.world.app.SameTables w.app := by
      rw [← hw]
      exact .of_eq rfl rfl rfl rfl
    rw [heq, hw, Option.map_some, Option.some.injEq] at hs
    rw [← hs]
    exact .inl ⟨hsame, rfl, rfl, rfl⟩
  · obtain ⟨ctx, hctx⟩ : ∃ ctx, P.world.contextOf r request callback args = ctx := ⟨_, rfl⟩
    obtain ⟨w, hw⟩ : ∃ w : RpcWorld υ Msg γ, { P.world with app := { P.world.app with
      scheduler := P.world.app.scheduler.enroll ctx
      nextCtx := P.world.app.nextCtx + 1 } } = w := ⟨_, rfl⟩
    have hkept : w.app.scheduler = P.world.app.scheduler.enroll ctx ∧
        w.app.rpcs = P.world.app.rpcs ∧ w.app.nextRpc = P.world.app.nextRpc := by
      rw [← hw]
      exact ⟨rfl, rfl, rfl⟩
    rw [heq, hctx, hw, Option.map_some, Option.some.injEq] at hs
    rw [← hs]
    exact .inr (.inl ⟨hneg, ctx, hkept.1, hkept.2.1, hkept.2.2, rfl⟩)
  · obtain ⟨ctx, hctx⟩ : ∃ ctx, P.world.contextOf r request callback args = ctx := ⟨_, rfl⟩
    have hstub : ctx.rpcStub = r := by rw [← hctx]; rfl
    have hreq : ctx.request = request := by rw [← hctx]; rfl
    obtain ⟨w, hw⟩ : ∃ w, P.world.called proto rpc net ctx = w := ⟨_, rfl⟩
    have happ : w.app = P.world.app.register (P.world.app.scheduler.started ctx)
        (P.world.requestBuf proto ctx) rpc ctx := by rw [← hw]; rfl
    have hbuf : w.app.buf = P.world.requestBuf proto ctx := by rw [happ]; rfl
    rw [heq, hctx, hw, Option.map_some, Option.some.injEq] at hs
    rw [← hs]
    refine .inr (.inr ⟨ctx, rpc, w.app.buf, by rw [hreq]; exact hrequest, hstub,
      by rw [hstub]; exact hrpc, hpos, hbuf, by rw [hbuf]; exact happ, rfl, ?_, rfl⟩)
    rw [hstub]
    rfl

/-- `OnBackEndMsg` begins in the main context, with the loop at its start. -/
theorem onBackEndMsg_cases {proto : RpcProto Msg} {P Q : RpcProcess υ Msg γ} {b : BevPtr}
    (hs : rpcProcessStep proto P (.onBackEndMsg b) = some Q) :
    P.callback = none ∧ P.loop = none ∧ Q.world = P.world ∧ Q.callback = P.callback ∧
      Q.calls = P.calls ∧ Q.finished = P.finished := by
  cases hcallback : P.callback with
  | some c => simp [rpcProcessStep, hcallback] at hs
  | none =>
    cases hloop : P.loop with
    | some l => simp [rpcProcessStep, hcallback, hloop] at hs
    | none =>
      simp only [rpcProcessStep, hcallback, hloop, onBackEndMsg] at hs
      split at hs
      · cases hs
      · split at hs
        · cases hs
          exact ⟨rfl, rfl, rfl, hcallback, rfl, rfl⟩
        · cases hs
          exact ⟨rfl, rfl, rfl, rfl, rfl, rfl⟩

/-- A round of the loop of `OnBackEndMsg` does nothing to the tables, or `Resume` forgets a coroutine
that does not wait, or it starts the callback of one that does. -/
theorem nextFrame_cases {proto : RpcProto Msg} {P Q : RpcProcess υ Msg γ} {l : BackEndLoop}
    (hc : P.world.app.scheduler.Coroutines) (hnone : P.callback = none)
    (hs : P.nextFrame proto l = some Q) :
    Q.calls = P.calls ∧ Q.finished = P.finished ∧
    ((P.world.app.SameTables Q.world.app ∧ Q.callback = none) ∨
      ∃ r rpc crid, ∃ w : RpcWorld υ Msg γ, P.world.app.rpcs r = some rpc ∧
        P.world.app.SameTables w.app ∧
        w.app.rpcs = P.world.app.rpcs ∧
        (crid = -1 ∨ crid ∈ rpc.cridList.map (·.crid)) ∧
        ((Q.callback = none ∧ Q.world = w.forget r crid ∧
          ∀ ctx, P.world.app.scheduler.find crid = some ctx → ctx.state ≠ .suspend) ∨
        ∃ task status, P.world.app.scheduler.find crid = some ⟨crid, .suspend, task⟩ ∧
          Q.callback = some ⟨r, crid, crid, task, status, false⟩ ∧ Q.loop.isSome ∧
          Q.world.app.scheduler = P.world.app.scheduler.enter crid ⟨crid, .suspend, task⟩ ∧
          Q.world.app.asyncidSeed = P.world.app.asyncidSeed ∧
          Q.world.app.nextRpc = P.world.app.nextRpc ∧ Q.world.app.rpcs = P.world.app.rpcs)) := by
  unfold nextFrame at hs
  cases hnext : l.next with
  | none =>
    rw [hnext] at hs
    have hdrain : (P.world.evbufferDrain l.bev l.elapsed).app = P.world.app := by
      unfold World.evbufferDrain
      split <;> rfl
    simp only [Option.some.injEq] at hs
    subst hs
    exact ⟨rfl, rfl, .inl ⟨.of_eq (by rw [hdrain]) (by rw [hdrain]) (by rw [hdrain])
      (by rw [hdrain]), hnone⟩⟩
  | some msglen =>
    rw [hnext] at hs
    dsimp only at hs
    have hsame : P.world.app.SameTables P.world.app := .of_eq rfl rfl rfl rfl
    cases hbound : (P.world.heap.nets l.net).bind (·.rpcBinded) with
    | none =>
      simp only [hbound, Option.some.injEq] at hs
      subst hs
      exact ⟨rfl, rfl, .inl ⟨hsame, hnone⟩⟩
    | some r =>
      simp only [hbound] at hs
      split_ifs at hs
      · obtain ⟨⟨callback, w'⟩, hres, rfl⟩ := Option.map_eq_some_iff.mp hs
        refine ⟨rfl, rfl, ?_⟩
        dsimp only
        unfold World.resumeStart at hres
        cases hrpc : P.world.app.rpcs r with
        | none =>
          simp only [hrpc, Option.some.injEq, Prod.mk.injEq] at hres
          obtain ⟨rfl, rfl⟩ := hres
          exact .inl ⟨hsame, rfl⟩
        | some rpc =>
          rcases hun : proto.unpackToRpcMsg (payloadBytes l.buf l.elapsed msglen)
            (payloadSize msglen) P.world.app.rpcMsg with ⟨ret, msg⟩
          simp only [hrpc, hun] at hres
          by_cases hret : ret = 0
          · rw [if_neg (not_not.mpr hret)] at hres
            obtain ⟨w, hw⟩ : ∃ w : RpcWorld υ Msg γ,
              { P.world with app := P.world.app.heard r msg } = w := ⟨_, rfl⟩
            have hwapp : w.app = P.world.app.heard r msg := by rw [← hw]
            have hwsched : w.app.scheduler = P.world.app.scheduler := by rw [hwapp]; rfl
            have hwrpcs : w.app.rpcs = P.world.app.rpcs := by rw [hwapp]; rfl
            rw [hw] at hres
            have hcrid : EasyRpc.getCoroutineIdxByAsyncId msg.asyncid rpc.cridList = -1 ∨
                EasyRpc.getCoroutineIdxByAsyncId msg.asyncid rpc.cridList ∈
                  rpc.cridList.map (·.crid) :=
              (EasyRpc.getCoroutineIdxByAsyncId_cases msg.asyncid rpc.cridList).imp_right
                List.mem_map.mpr
            generalize EasyRpc.getCoroutineIdxByAsyncId msg.asyncid rpc.cridList = crid at hres hcrid
            have hwsame : P.world.app.SameTables w.app := by
              rw [hwapp]
              exact .of_eq rfl rfl rfl rfl
            refine .inr ⟨r, rpc, crid, w, hrpc, hwsame, hwrpcs, hcrid, ?_⟩
            have hcases := World.wakeStart_cases (hwsched ▸ hc) hres
            rw [hwsched, hwrpcs, hwsame.asyncidSeed] at hcases
            obtain hnot | ⟨task, status, hfind, hcb, hsched, hseed, hnextRpc, hrpcs⟩ := hcases
            · exact .inl hnot
            · refine .inr ⟨task, status, hfind, hcb, rfl, hsched, hseed, ?_, hrpcs⟩
              rw [hnextRpc, hwapp]
              rfl
          · rw [if_pos hret] at hres
            simp only [Option.some.injEq, Prod.mk.injEq] at hres
            obtain ⟨rfl, rfl⟩ := hres
            exact .inl ⟨.of_eq rfl rfl rfl rfl, rfl⟩
      · simp only [Option.some.injEq] at hs
        subst hs
        exact ⟨rfl, rfl, .inl ⟨hsame, hnone⟩⟩

/-- When a callback returns, its coroutine goes, and its `EasyRpc` forgets it. -/
theorem resumeReturn_app {c : RpcCallback} (hidx : c.idx = c.crid) (w : RpcWorld υ Msg γ) :
    (World.resumeReturn c w).app.scheduler = (w.app.scheduler.conclude c.crid).reap c.crid ∧
      (World.resumeReturn c w).app.asyncidSeed = w.app.asyncidSeed ∧
      (World.resumeReturn c w).app.nextRpc = w.app.nextRpc ∧
      (World.resumeReturn c w).app.rpcs = (w.app.modifyRpc c.rpc fun rpc =>
        { rpc with cridList := EasyRpc.removeByCoroutineId c.crid rpc.cridList }).rpcs := by
  have hgone : ((w.app.scheduler.conclude c.crid).reap c.crid).coroutineBeenAlive c.crid =
      false := by
    rw [CoroutineScheduler.coroutineBeenAlive, CoroutineScheduler.find_conclude_reap_self]
  unfold World.resumeReturn World.forget World.setScheduler
  rw [hidx]
  dsimp only
  rw [hgone]
  unfold RpcState.modifyRpc
  dsimp only
  cases w.app.rpcs c.rpc with
  | none => exact ⟨rfl, rfl, rfl, rfl⟩
  | some rpc => exact ⟨rfl, rfl, rfl, rfl⟩

/-- `DestroyRpc` destroys an `EasyRpc`, unless its argument is null. -/
theorem destroyRpc_cases {proto : RpcProto Msg} {P Q : RpcProcess υ Msg γ} {rpc : Option RpcPtr}
    (hs : rpcProcessStep proto P (.destroyRpc rpc) = some Q) :
    (rpc = none ∧ Q = P) ∨ ∃ r easyRpc, rpc = some r ∧ P.world.app.rpcs r = some easyRpc ∧
      Q.world.app = P.world.app.deleteRpc r easyRpc ∧ Q.callback = P.callback ∧
      Q.loop = P.loop ∧ Q.calls = P.calls ∧ Q.finished = P.finished := by
  cases rpc with
  | none =>
    cases hs
    exact .inl ⟨rfl, rfl⟩
  | some r =>
    obtain ⟨⟨ret, w⟩, hw, rfl⟩ := Option.map_eq_some_iff.mp hs
    unfold World.destroyRpc at hw
    cases hr : P.world.app.rpcs r with
    | none => simp only [hr, reduceCtorEq] at hw
    | some easyRpc =>
      simp only [hr, Option.some.injEq, Prod.mk.injEq] at hw
      refine .inr ⟨r, easyRpc, rfl, hr, ?_, rfl, rfl, rfl, rfl⟩
      rw [RpcProcess.goTo, ← hw.2]
      dsimp only
      rw [World.destroyBackEnd_app]

end RpcProcess

end Rapidapp
