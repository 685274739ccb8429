import Rapidapp.Misc.Run
import Rapidapp.Framework.RpcCalls
import Rapidapp.Framework.RpcProcessEvents

/-!
# EasyRpc: the tables of a whole process

In every run the lists, the coroutine table and the asyncids of all `EasyRpc` objects are those
of the ledger of open calls (`Tables`), as long as calls are made outside coroutines, with type
names that fit and fewer than 2^31 of them, and no callback destroys its own `EasyRpc`.
-/

namespace Rapidapp

variable {υ Msg γ : Type}

namespace RpcProcess

/-- The calls whose `RpcFunction` has not returned and whose `EasyRpc` has not been destroyed. -/
def openCalls (P : RpcProcess υ Msg γ) : List RpcCallRecord :=
  P.calls.filter fun x => x.crid ∉ P.finished ∧ (P.world.app.rpcs x.rpc).isSome

theorem mem_openCalls {P : RpcProcess υ Msg γ} {x : RpcCallRecord} :
    x ∈ P.openCalls ↔ x ∈ P.calls ∧ x.crid ∉ P.finished ∧ (P.world.app.rpcs x.rpc).isSome := by
  unfold openCalls
  rw [List.mem_filter, decide_eq_true_eq]

/-- The invariant of the process. -/
structure Tables (proto : RpcProto Msg) (P : RpcProcess υ Msg γ) : Prop where
  seed : P.world.app.asyncidSeed = P.world.app.scheduler.created
  few : P.world.app.scheduler.created ≤ 2 ^ 31
  bounded : ∀ r rpc, P.world.app.rpcs r = some rpc → r < P.world.app.nextRpc
  issued : ∀ x ∈ P.calls, x.rpc < P.world.app.nextRpc ∧ 0 ≤ x.crid ∧
    x.crid < P.world.app.scheduler.created ∧
    ∃ m, x.frame = proto.serializeRpc m ∧ (m.asyncid : Int) = x.crid
  distinct : (P.calls.map RpcCallRecord.crid).Nodup
  finished : ∀ crid ∈ P.finished, crid < P.world.app.scheduler.created
  ledger : Ledgered P.world.app (P.callback.map (·.crid)) P.openCalls
  callback : ∀ c, P.callback = some c → c.nested = false ∧ c.idx = c.crid ∧
    ∃ x ∈ P.openCalls, x.rpc = c.rpc ∧ x.crid = c.crid

/-- What the application keeps to: it calls `RpcCall` outside coroutines, with a type name that
fits, and not for more coroutines than there are ids, and no callback destroys the `EasyRpc` it
is run for. -/
def Proper (P : RpcProcess υ Msg γ) : RpcProcessEvent υ Msg γ → Prop
  | .call _ args => P.callback = none ∧
      (∀ request ∈ args.request, request.typeName.length < maxMessageName) ∧
      P.world.app.scheduler.created < 2 ^ 31
  | .destroyRpc rpc => ∀ c ∈ P.callback, rpc ≠ some c.rpc
  | _ => True

instance Proper.decidable (P : RpcProcess υ Msg γ) :
    ∀ e : RpcProcessEvent υ Msg γ, Decidable (P.Proper e)
  | .call _ args => inferInstanceAs (Decidable (P.callback = none ∧
      (∀ request ∈ args.request, request.typeName.length < maxMessageName) ∧
      P.world.app.scheduler.created < 2 ^ 31))
  | .destroyRpc rpc => inferInstanceAs (Decidable (∀ c ∈ P.callback, rpc ≠ some c.rpc))
  | .createRpc _ _ _ | .onBackEndMsg _ | .nextFrame | .callbackReturns | .application _ _
  | .connections _ _ _ => isTrue trivial

namespace Tables

variable {proto : RpcProto Msg} {P Q : RpcProcess υ Msg γ}

theorem start (proto : RpcProto Msg) (user : υ) (messages : Nat → Msg) (cocurrentNum : Int)
    (fate : Nat → Bool) (frontRecv backRecv : RapBuffer) (svcMode : SvcMode) (now : Int) :
    Tables proto (.start (.start (.init user messages cocurrentNum) fate frontRecv backRecv
      svcMode now) : RpcProcess υ Msg γ) where
  seed := rfl
  few := Nat.zero_le _
  bounded _ _ h := by cases h
  issued _ h := by cases h
  distinct := .nil
  finished _ h := by cases h
  ledger := ⟨.nil, fun _ => rfl, fun _ _ h => by cases h⟩
  callback _ h := by cases h

/-- A number that is next is new. -/
theorem crid_ne_seed (h : Tables proto P) {x : RpcCallRecord} (hx : x ∈ P.calls) :
    x.crid ≠ P.world.app.asyncidSeed := by
  have hlt := (h.issued x hx).2.2.1
  rw [h.seed]
  omega

/-- A step that changes nothing the tables are made of. -/
theorem same (h : Tables proto P) (hs : P.world.app.SameTables Q.world.app)
    (hcallback : Q.callback = P.callback) (hcalls : Q.calls = P.calls)
    (hfinished : Q.finished = P.finished) : Tables proto Q := by
  have hopen : Q.openCalls = P.openCalls := by
    unfold openCalls
    rw [hcalls, hfinished]
    refine List.filter_congr fun x hx => ?_
    rw [hs.rpcs x.rpc (h.issued x hx).1]
  refine ⟨?_, ?_, fun r rpc hr => ?_, ?_, ?_, ?_, ⟨?_, ?_, fun r rpc hr => ?_⟩, ?_⟩
  · rw [hs.asyncidSeed, hs.scheduler]
    exact h.seed
  · rw [hs.scheduler]
    exact h.few
  · rcases lt_or_ge r P.world.app.nextRpc with hlt | hge
    · exact lt_of_lt_of_le hlt hs.nextRpc
    · rcases hs.created r rpc hge hr with hold | hnew
      · exact absurd (h.bounded r rpc hold) (not_lt.mpr hge)
      · exact hnew.1
  · rw [hcalls, hs.scheduler]
    intro x hx
    obtain ⟨hrpc, hrest⟩ := h.issued x hx
    exact ⟨lt_of_lt_of_le hrpc hs.nextRpc, hrest⟩
  · rw [hcalls]
    exact h.distinct
  · rw [hfinished, hs.scheduler]
    exact h.finished
  · rw [hopen]
    exact h.ledger.distinct
  · rw [hopen, hcallback, hs.scheduler]
    exact h.ledger.table
  · rw [hopen]
    rcases lt_or_ge r P.world.app.nextRpc with hlt | hge
    · exact h.ledger.lists r rpc ((hs.rpcs r hlt).symm.trans hr)
    · rcases hs.created r rpc hge hr with hold | hnew
      · exact h.ledger.lists r rpc hold
      · have hnone : Ledger.ofOwner RpcCallRecord.rpc P.openCalls r = [] := by
          refine List.eq_nil_iff_forall_not_mem.mpr fun x hx => ?_
          obtain ⟨hx, hxr⟩ := Ledger.mem_ofOwner.mp hx
          have hlt := (h.issued x (mem_openCalls.mp hx).1).1
          rw [hxr] at hlt
          exact absurd hlt (not_lt.mpr hge)
        rw [hnew.2, hnone]
        rfl
  · rw [hopen, hcallback]
    exact h.callback

/-! ## Each event -/

/-- The bytes a call passes to `Send` are a message with the next asyncid. -/
theorem requestBuf_asyncid (w : RpcWorld υ Msg γ) {ctx : RpcContext}
    (hname : ctx.request.typeName.length < maxMessageName) :
    ∃ m, w.requestBuf proto ctx = proto.serializeRpc m ∧ m.asyncid = w.app.asyncidSeed := by
  unfold World.requestBuf RpcProto.messageToBinary
  rw [if_neg (not_le.mpr hname)]
  exact ⟨_, rfl, rfl⟩

theorem call (h : Tables proto P) {r : RpcPtr} {args : World.RpcArgs}
    (hproper : P.Proper (.call r args)) (hs : P.call proto r args = some Q) : Tables proto Q := by
  obtain ⟨hcallback, hname, hcount⟩ := hproper
  have hcid : P.world.app.scheduler.cidSeed = P.world.app.asyncidSeed := by
    rw [CoroutineScheduler.cidSeed_eq hcount, h.seed]
  obtain ⟨hsame, hQcallback, hQcalls, hQfinished⟩ | ⟨hneg, _⟩ |
      ⟨ctx, rpc, buf, hrequest, rfl, hrpc, hpos, hbuf, happ, hQcallback, hQcalls, hQfinished⟩ :=
    call_cases hs
  · exact h.same hsame hQcallback hQcalls hQfinished
  · omega
  have hcreated := P.world.app.scheduler.created_started ctx hpos
  obtain ⟨m, hm, hasyncid⟩ := requestBuf_asyncid P.world
    (hname ctx.request hrequest)
  obtain ⟨x, hx⟩ : ∃ x : RpcCallRecord,
    ⟨ctx.rpcStub, P.world.app.scheduler.cidSeed, buf⟩ = x := ⟨_, rfl⟩
  rw [hx] at hQcalls
  have hxc : x.crid = P.world.app.asyncidSeed := by rw [← hx]; exact hcid
  have hxr : x.rpc = ctx.rpcStub := by rw [← hx]
  have hopen : Q.openCalls = P.openCalls ++ [x] := by
    unfold openCalls
    rw [hQcalls, hQfinished, List.filter_append, happ, RpcState.register_rpcs]
    congr 1
    · refine List.filter_congr fun y _ => ?_
      by_cases hy : y.rpc = ctx.rpcStub
      · rw [hy, Function.update_self, hrpc]; rfl
      · rw [Function.update_of_ne hy]
    · have hfin : x.crid ∉ P.finished := by
        intro hmem
        have hlt := h.finished _ hmem
        rw [hxc, h.seed] at hlt
        exact absurd hlt (lt_irrefl _)
      simp [hfin, hxr]
  have hledger := h.ledger.register buf hrpc hcid
    (fun y hy => h.crid_ne_seed (mem_openCalls.mp hy).1) (by rw [hcallback]; exact nofun)
  rw [← happ, hx, ← hopen] at hledger
  have hnone : Q.callback = none := by rw [hQcallback, hcallback]; rfl
  refine ⟨?_, ?_, fun r' rpc' hr => ?_, ?_, ?_, ?_, ?_, ?_⟩
  · have hlt : P.world.app.asyncidSeed + 1 < 2 ^ 64 := by rw [h.seed]; omega
    rw [happ, RpcState.register_asyncidSeed, RpcState.register_scheduler, hcreated, ← h.seed,
      ← Int.natCast_succ, CInt.uint64_natCast hlt]
  · rw [happ, RpcState.register_scheduler, hcreated]
    omega
  · rw [happ, RpcState.register_rpcs] at hr
    rw [happ, RpcState.register_nextRpc]
    by_cases hr' : r' = ctx.rpcStub
    · rw [hr']; exact h.bounded _ rpc hrpc
    · rw [Function.update_of_ne hr'] at hr
      exact h.bounded r' rpc' hr
  · rw [hQcalls, happ, RpcState.register_nextRpc, RpcState.register_scheduler, hcreated]
    intro y hy
    rcases List.mem_append.mp hy with hy | hy
    · obtain ⟨h₁, h₂, h₃, h₄⟩ := h.issued y hy
      exact ⟨h₁, h₂, by omega, h₄⟩
    · rw [List.mem_singleton.mp hy, hxc, hxr, h.seed]
      refine ⟨h.bounded _ rpc hrpc, by omega, by omega, m, ?_, ?_⟩
      · rw [← hx, hbuf]; exact hm
      · rw [hasyncid, h.seed]
  · rw [hQcalls, List.map_append, List.nodup_append]
    refine ⟨h.distinct, List.nodup_singleton _, fun a ha b hb => ?_⟩
    obtain ⟨y, hy, rfl⟩ := List.mem_map.mp ha
    rw [List.map_singleton, List.mem_singleton] at hb
    rw [hb, hxc]
    exact h.crid_ne_seed hy
  · rw [hQfinished, happ, RpcState.register_scheduler, hcreated]
    intro crid hcrid
    have hlt := h.finished crid hcrid
    omega
  · rw [hcallback] at hledger
    rw [hnone]
    exact hledger
  · rw [hnone]
    exact nofun

theorem destroyRpc (h : Tables proto P) {r : RpcPtr} {rpc : EasyRpc}
    (hrpc : P.world.app.rpcs r = some rpc) (hown : ∀ c ∈ P.callback, c.rpc ≠ r)
    (happ : Q.world.app = P.world.app.deleteRpc r rpc) (hcallback : Q.callback = P.callback)
    (hcalls : Q.calls = P.calls) (hfinished : Q.finished = P.finished) : Tables proto Q := by
  have hcreated : Q.world.app.scheduler.created = P.world.app.scheduler.created := by
    rw [happ]
    exact CoroutineScheduler.created_foldl_destroy rpc.cridList P.world.app.scheduler
  have hnext : Q.world.app.nextRpc = P.world.app.nextRpc := by rw [happ]; rfl
  have hopen : Q.openCalls = Ledger.close RpcCallRecord.rpc P.openCalls r := by
    unfold openCalls Ledger.close
    rw [hcalls, hfinished, happ, RpcState.deleteRpc_rpcs, List.filter_filter]
    refine List.filter_congr fun x _ => ?_
    by_cases hx : x.rpc = r
    · simp [hx]
    · simp [hx]
  refine ⟨?_, ?_, fun r' rpc' hr => ?_, ?_, ?_, ?_, ?_, fun c hc => ?_⟩
  · rw [hcreated, ← h.seed, happ]
    rfl
  · rw [hcreated]; exact h.few
  · rw [happ, RpcState.deleteRpc_rpcs] at hr
    rw [hnext]
    by_cases hr' : r' = r
    · rw [hr', Function.update_self] at hr
      cases hr
    · rw [Function.update_of_ne hr'] at hr
      exact h.bounded r' rpc' hr
  · rw [hcalls, hcreated, hnext]; exact h.issued
  · rw [hcalls]; exact h.distinct
  · rw [hfinished, hcreated]; exact h.finished
  · rw [happ, hcallback, hopen]
    exact h.ledger.delete hrpc
  · rw [hcallback] at hc
    obtain ⟨hnested, hidx, x, hx, hxr, hxc⟩ := h.callback c hc
    refine ⟨hnested, hidx, x, ?_, hxr, hxc⟩
    rw [hopen]
    exact Ledger.mem_close.mpr ⟨hx, hxr ▸ hown c hc⟩

/-- The coroutines of open calls have ids that are not negative, and wait or run. -/
theorem coroutines (h : Tables proto P) : P.world.app.scheduler.Coroutines := by
  have hopen : ∀ cid ctx, P.world.app.scheduler.find cid = some ctx →
      ctx.idx = cid ∧ 0 ≤ cid ∧ (ctx.state = .running ∨ ctx.state = .suspend) := by
    intro cid ctx hfind
    obtain ⟨x, hx, rfl⟩ := (h.ledger.find_isSome cid).mp (by rw [hfind]; rfl)
    obtain ⟨task, hfind'⟩ := h.ledger.find_open hx
    rw [hfind] at hfind'
    cases hfind'
    refine ⟨rfl, (h.issued x (mem_openCalls.mp hx).1).2.1, ?_⟩
    split_ifs
    · exact .inl rfl
    · exact .inr rfl
  refine ⟨fun cid ctx hfind => (hopen cid ctx hfind).1, fun cid ctx hfind => ?_,
    fun cid ctx hfind => ?_⟩
  · obtain ⟨_, hcid, hstate | hstate⟩ := hopen cid ctx hfind
    · simp [hstate, hcid]
    · simp [hstate, hcid]
  · obtain ⟨_, _, hstate | hstate⟩ := hopen cid ctx hfind
    · simp [hstate]
    · simp [hstate]

theorem nextFrame (h : Tables proto P) {l : BackEndLoop} (hnone : P.callback = none)
    (hs : P.nextFrame proto l = some Q) : Tables proto Q := by
  obtain ⟨hcalls, hfinished, ⟨hsame, hcallback⟩ |
      ⟨r, rpc, crid, w, hrpc, hwsame, hwrpcs, hcrid, hcase⟩⟩ :=
    nextFrame_cases h.coroutines hnone hs
  · exact h.same hsame (hcallback.trans hnone.symm) hcalls hfinished
  have hledger := h.ledger
  rw [hnone] at hledger
  -- an id of the list is the id of an open call, whose coroutine waits
  have hopen : crid = -1 ∨ ∃ x ∈ P.openCalls, x.rpc = r ∧ x.crid = crid :=
    hcrid.imp_right (hledger.mem_list hrpc crid).mp
  obtain ⟨hcallback, hworld, hstate⟩ |
      ⟨task, status, hfind, hcallback, _, hsched, hseed, hnext, hrpcs⟩ := hcase
  · -- there is no such coroutine, and nothing to forget
    have hneg : crid = -1 := by
      refine hopen.resolve_right ?_
      rintro ⟨x, hx, _, rfl⟩
      obtain ⟨task, hfind⟩ := hledger.find_open hx
      exact hstate _ hfind rfl
    subst hneg
    have hforget : w.forget r (-1) = w := by
      have hgone : w.app.scheduler.find (-1) = none := by
        rw [hwsame.scheduler]
        cases hfind : P.world.app.scheduler.find (-1) with
        | none => rfl
        | some ctx =>
          obtain ⟨x, hx, hneg⟩ := (h.ledger.find_isSome (-1)).mp (by rw [hfind]; rfl)
          have hpos := (h.issued x (mem_openCalls.mp hx).1).2.1
          omega
      have hlist : EasyRpc.removeByCoroutineId (-1) rpc.cridList = rpc.cridList := by
        have hnodup : ((Ledger.ofOwner RpcCallRecord.rpc P.openCalls r).map
            RpcCallRecord.crid).Nodup :=
          hledger.distinct.sublist (List.filter_sublist.map _)
        rw [hledger.lists r rpc hrpc, EasyRpc.removeByCoroutineId_settle hnodup]
        refine congrArg _ (Ledger.settle_of_forall_ne fun x hx => ?_)
        have hpos := (h.issued x (mem_openCalls.mp (Ledger.mem_ofOwner.mp hx).1).1).2.1
        omega
      have hrpc' : w.app.rpcs r = some rpc := by rw [hwrpcs]; exact hrpc
      rw [World.forget_of_gone hgone hrpc', hlist, ← hrpc', Function.update_eq_self]
    rw [hforget] at hworld
    exact h.same (hworld ▸ hwsame) (hcallback.trans hnone.symm) hcalls hfinished
  · -- the callback of an open call
    obtain ⟨x, hx, hxr, hxc⟩ : ∃ x ∈ P.openCalls, x.rpc = r ∧ x.crid = crid := by
      refine hopen.resolve_left ?_
      rintro rfl
      have hpos := (h.coroutines.ready (-1) _ hfind).mpr (by decide)
      cases hpos
    have hQopen : Q.openCalls = P.openCalls := by
      unfold openCalls
      rw [hcalls, hfinished, hrpcs]
    have hcreated : Q.world.app.scheduler.created = P.world.app.scheduler.created := by
      rw [hsched]; rfl
    refine ⟨?_, ?_, ?_, ?_, ?_, ?_, ?_, fun c hc => ?_⟩
    · rw [hseed, hcreated]; exact h.seed
    · rw [hcreated]; exact h.few
    · rw [hrpcs, hnext]; exact h.bounded
    · rw [hcalls, hcreated, hnext]; exact h.issued
    · rw [hcalls]; exact h.distinct
    · rw [hfinished, hcreated]; exact h.finished
    · rw [hQopen, hcallback]
      rw [← hxc] at hfind hsched ⊢
      exact hledger.enter hx hfind hsched hrpcs
    · rw [hcallback, Option.some.injEq] at hc
      subst hc
      rw [hQopen]
      exact ⟨rfl, rfl, x, hx, hxr, hxc⟩

theorem callbackReturns (h : Tables proto P) {c : RpcCallback} (hc : P.callback = some c)
    (hs : P.callbackReturns c = some Q) : Tables proto Q := by
  obtain ⟨hnested, hidx, x, hx, hxr, hxc⟩ := h.callback c hc
  unfold RpcProcess.callbackReturns at hs
  rw [hnested, if_neg (by decide), Option.some.injEq] at hs
  obtain ⟨hsched, hseed, hnext, hrpcs⟩ := resumeReturn_app hidx P.world
  obtain ⟨w, hw⟩ : ∃ w, World.resumeReturn c P.world = w := ⟨_, rfl⟩
  rw [hw] at hs hsched hseed hnext hrpcs
  obtain ⟨hxcalls, _, hlive⟩ := mem_openCalls.mp hx
  rw [hxr] at hlive
  obtain ⟨rpc, hrpc⟩ := Option.isSome_iff_exists.mp hlive
  have hrpcs' : w.app.rpcs = Function.update P.world.app.rpcs x.rpc
      (some { rpc with cridList := EasyRpc.removeByCoroutineId x.crid rpc.cridList }) := by
    rw [hrpcs, RpcState.modifyRpc, hrpc, hxr, hxc]
  have hcreated : w.app.scheduler.created = P.world.app.scheduler.created := by
    rw [hsched, CoroutineScheduler.created_reap, CoroutineScheduler.created_conclude]
  have hledger := h.ledger
  rw [hc, Option.map_some, ← hxc] at hledger
  rw [← hxc] at hsched
  have hfinish := hledger.finish (hxr ▸ hrpc) hx hsched hrpcs'
  subst hs
  have hopen : openCalls (γ := γ)
      { P with world := w, callback := none, finished := P.finished ++ [c.crid] } =
        Ledger.settle RpcCallRecord.crid P.openCalls x.crid := by
    unfold openCalls Ledger.settle
    rw [List.filter_filter, hrpcs', ← hxc]
    refine List.filter_congr fun y _ => ?_
    have hsome : (Function.update P.world.app.rpcs x.rpc (some { rpc with
        cridList := EasyRpc.removeByCoroutineId x.crid rpc.cridList }) y.rpc).isSome =
          (P.world.app.rpcs y.rpc).isSome := by
      by_cases hy : y.rpc = x.rpc
      · rw [hy, Function.update_self, hxr, hrpc]; rfl
      · rw [Function.update_of_ne hy]
    rw [hsome]
    by_cases hy : y.crid = x.crid
    · simp [hy]
    · simp [hy]
  refine ⟨?_, ?_, ?_, ?_, h.distinct, ?_, ?_, fun c hc => ?_⟩
  · rw [hseed, hcreated]; exact h.seed
  · rw [hcreated]; exact h.few
  · intro r rpc' hr
    rw [hnext]
    rw [hrpcs'] at hr
    by_cases hr' : r = x.rpc
    · rw [hr', hxr]; exact h.bounded _ rpc hrpc
    · rw [Function.update_of_ne hr'] at hr
      exact h.bounded r rpc' hr
  · rw [hcreated, hnext]; exact h.issued
  · rw [hcreated]
    intro crid hcrid
    rcases List.mem_append.mp hcrid with hcrid | hcrid
    · exact h.finished crid hcrid
    · rw [List.mem_singleton.mp hcrid, ← hxc]
      exact (h.issued x hxcalls).2.2.1
  · rw [hopen]
    exact hfinish
  · cases hc

/-- Every event of a process that keeps to the conditions keeps the tables. -/
theorem step (h : Tables proto P) {e : RpcProcessEvent υ Msg γ} (hproper : P.Proper e)
    (hs : rpcProcessStep proto P e = some Q) : Tables proto Q := by
  cases e with
  | createRpc type connect newOk =>
    cases hs
    exact h.same (P.world.createRpc_keeps type connect newOk).sameTables rfl rfl rfl
  | destroyRpc rpc =>
    obtain ⟨_, rfl⟩ | ⟨r, easyRpc, rfl, hrpc, happ, hcallback, _, hcalls, hfinished⟩ :=
      destroyRpc_cases hs
    · exact h
    · have hown : ∀ c ∈ P.callback, c.rpc ≠ r := fun c hc heq => hproper c hc (heq ▸ rfl)
      exact h.destroyRpc hrpc hown happ hcallback hcalls hfinished
  | call r args => exact h.call hproper hs
  | onBackEndMsg b =>
    obtain ⟨_, _, hworld, hcallback, hcalls, hfinished⟩ := onBackEndMsg_cases hs
    exact h.same (.of_eq (by rw [hworld]) (by rw [hworld]) (by rw [hworld]) (by rw [hworld]))
      hcallback hcalls hfinished
  | nextFrame =>
    cases hcallback : P.callback with
    | some c => simp [rpcProcessStep, hcallback] at hs
    | none =>
      cases hloop : P.loop with
      | none => simp [rpcProcessStep, hcallback, hloop] at hs
      | some l =>
        simp only [rpcProcessStep, hcallback, hloop] at hs
        exact h.nextFrame hcallback hs
  | callbackReturns =>
    cases hcallback : P.callback with
    | none => simp [rpcProcessStep, hcallback] at hs
    | some c =>
      simp only [rpcProcessStep, hcallback] at hs
      exact h.callbackReturns hcallback hs
  | application user messages =>
    cases hs
    exact h.same (.of_eq rfl rfl rfl rfl) rfl rfl rfl
  | connections heap frontend backend =>
    cases hs
    exact h.same (.of_eq rfl rfl rfl rfl) rfl rfl rfl

end Tables

/-- In every run of a process that keeps to the conditions. -/
theorem tables_run {proto : RpcProto Msg} {user : υ} {messages : Nat → Msg} {cocurrentNum : Int}
    {fate : Nat → Bool} {frontRecv backRecv : RapBuffer} {svcMode : SvcMode} {now : Int}
    {es : List (RpcProcessEvent υ Msg γ)} {P : RpcProcess υ Msg γ}
    (hproper : Run.Along (rpcProcessStep proto) Proper
      (.start (.start (.init user messages cocurrentNum) fate frontRecv backRecv svcMode now)) es)
    (hrun : Run.run (rpcProcessStep proto)
      (.start (.start (.init user messages cocurrentNum) fate frontRecv backRecv svcMode now)) es =
        some P) : Tables proto P :=
  Run.run_inv (fun _ _ _ h hp hs => h.step hp hs) (.start proto user messages cocurrentNum fate
    frontRecv backRecv svcMode now) hproper hrun

/-! ## What the tables say -/

/-- `RpcCall` of the `EasyRpc` has created this coroutine. -/
def CreatedBy (P : RpcProcess υ Msg γ) (r : RpcPtr) (cid : Int) : Prop :=
  ∃ x ∈ P.calls, x.rpc = r ∧ x.crid = cid

/-- The lists of the `EasyRpc` objects. Each has exactly the live coroutines its own `RpcCall` has
created, each once. The asyncids of all of them differ, and are those of the frames the
coroutines have tried to send. `IsActive` says whether a call is unfinished. -/
structure ListsAgree (proto : RpcProto Msg) (P : RpcProcess υ Msg γ) : Prop where
  once : ∀ r rpc, P.world.app.rpcs r = some rpc → (rpc.cridList.map (·.crid)).Nodup
  live : ∀ r rpc, P.world.app.rpcs r = some rpc → ∀ cid, cid ∈ rpc.cridList.map (·.crid) ↔
    P.world.app.scheduler.coroutineBeenAlive cid = true ∧ P.CreatedBy r cid
  asyncids : ∀ r rpc r' rpc', P.world.app.rpcs r = some rpc → P.world.app.rpcs r' = some rpc' →
    ∀ cp ∈ rpc.cridList, ∀ cp' ∈ rpc'.cridList, cp.asyncid = cp'.asyncid → r = r' ∧ cp = cp'
  frames : ∀ r rpc, P.world.app.rpcs r = some rpc → ∀ cp ∈ rpc.cridList,
    ∃ x ∈ P.calls, x.rpc = r ∧ x.crid = cp.crid ∧
      ∃ m, x.frame = proto.serializeRpc m ∧ m.asyncid = cp.asyncid
  active : ∀ r, (P.world.app.rpcs r).isSome → (World.rpcIsActive r P.world = true ↔
    ∃ x ∈ P.calls, x.rpc = r ∧ x.crid ∉ P.finished)

/-- The coroutines in the table wait. -/
def OthersWait (_P Q : RpcProcess υ Msg γ) : Prop :=
  ∀ cid ctx, Q.world.app.scheduler.find cid = some ctx → ctx.state = .suspend

/-- The coroutines in the table wait, except the one whose callback is being run. -/
def OthersWaitOrRun (P Q : RpcProcess υ Msg γ) : Prop :=
  ∀ cid ctx, Q.world.app.scheduler.find cid = some ctx →
    ctx.state = if P.callback.map (·.crid) = some cid then .running else .suspend

/-- `DestroyRpc` of an `EasyRpc` whose callback is not being run removes exactly its coroutines from
the table. The others keep their contexts, and are as `Others` says. -/
def DestroysOwn (proto : RpcProto Msg)
    (Others : RpcProcess υ Msg γ → RpcProcess υ Msg γ → Prop) (P : RpcProcess υ Msg γ) : Prop :=
  ∀ r, (P.world.app.rpcs r).isSome → (∀ c ∈ P.callback, c.rpc ≠ r) →
    ∃ Q, rpcProcessStep proto P (.destroyRpc (some r)) = some Q ∧
      (∀ cid, P.CreatedBy r cid → Q.world.app.scheduler.find cid = none) ∧
      (∀ cid, ¬ P.CreatedBy r cid →
        Q.world.app.scheduler.find cid = P.world.app.scheduler.find cid) ∧
      Others P Q

namespace Tables

variable {proto : RpcProto Msg} {P Q : RpcProcess υ Msg γ}

/-- A call is open as long as its coroutine is in the table. -/
theorem open_iff (h : Tables proto P) (r : RpcPtr) (cid : Int) :
    (∃ x ∈ P.openCalls, x.rpc = r ∧ x.crid = cid) ↔
      P.world.app.scheduler.coroutineBeenAlive cid = true ∧ P.CreatedBy r cid := by
  constructor
  · rintro ⟨x, hx, hxr, rfl⟩
    obtain ⟨task, hfind⟩ := h.ledger.find_open hx
    refine ⟨?_, x, (mem_openCalls.mp hx).1, hxr, rfl⟩
    rw [CoroutineScheduler.coroutineBeenAlive, hfind]
    exact decide_eq_true (h.coroutines.done _ _ hfind)
  · rintro ⟨halive, x, hx, hxr, rfl⟩
    have hsome : (P.world.app.scheduler.find x.crid).isSome := by
      unfold CoroutineScheduler.coroutineBeenAlive at halive
      split at halive
      · cases halive
      · next ctx hfind => rw [hfind]; rfl
    obtain ⟨y, hy, hyc⟩ := (h.ledger.find_isSome x.crid).mp hsome
    obtain rfl := List.inj_on_of_nodup_map h.distinct (mem_openCalls.mp hy).1 hx hyc
    exact ⟨y, hy, hxr, rfl⟩

theorem listsAgree (h : Tables proto P) : ListsAgree proto P where
  once r rpc hrpc := by
    have hpairs : rpc.cridList.map (·.crid) =
        (Ledger.ofOwner RpcCallRecord.rpc P.openCalls r).map RpcCallRecord.crid := by
      rw [h.ledger.lists r rpc hrpc, List.map_map]
      rfl
    rw [hpairs]
    exact h.ledger.distinct.sublist (List.filter_sublist.map _)
  live r rpc hrpc cid := by
    rw [h.ledger.mem_list hrpc]
    exact h.open_iff r cid
  asyncids r rpc r' rpc' hrpc hrpc' cp hcp cp' hcp' heq := by
    rw [h.ledger.lists r rpc hrpc] at hcp
    rw [h.ledger.lists r' rpc' hrpc'] at hcp'
    obtain ⟨x, hx, rfl⟩ := List.mem_map.mp hcp
    obtain ⟨x', hx', rfl⟩ := List.mem_map.mp hcp'
    obtain ⟨hx, hxr⟩ := Ledger.mem_ofOwner.mp hx
    obtain ⟨hx', hxr'⟩ := Ledger.mem_ofOwner.mp hx'
    have hpos := (h.issued x (mem_openCalls.mp hx).1).2.1
    have hpos' := (h.issued x' (mem_openCalls.mp hx').1).2.1
    have hcrid : x.crid = x'.crid := by
      unfold RpcCallRecord.pair at heq
      dsimp only at heq
      omega
    obtain rfl := List.inj_on_of_nodup_map h.ledger.distinct hx hx' hcrid
    exact ⟨hxr.symm.trans hxr', rfl⟩
  frames r rpc hrpc cp hcp := by
    rw [h.ledger.lists r rpc hrpc] at hcp
    obtain ⟨x, hx, rfl⟩ := List.mem_map.mp hcp
    obtain ⟨hx, hxr⟩ := Ledger.mem_ofOwner.mp hx
    obtain ⟨_, _, _, m, hframe, hasyncid⟩ := h.issued x (mem_openCalls.mp hx).1
    refine ⟨x, (mem_openCalls.mp hx).1, hxr, rfl, m, hframe, ?_⟩
    unfold RpcCallRecord.pair
    dsimp only
    omega
  active r hr := by
    obtain ⟨rpc, hrpc⟩ := Option.isSome_iff_exists.mp hr
    have hopen : ∀ x, x ∈ Ledger.ofOwner RpcCallRecord.rpc P.openCalls r ↔
        x ∈ P.calls ∧ x.rpc = r ∧ x.crid ∉ P.finished := by
      intro x
      rw [Ledger.mem_ofOwner, mem_openCalls]
      constructor
      · rintro ⟨⟨hx, hfin, _⟩, hxr⟩
        exact ⟨hx, hxr, hfin⟩
      · rintro ⟨hx, rfl, hfin⟩
        exact ⟨⟨hx, hfin, hr⟩, rfl⟩
    unfold World.rpcIsActive
    rw [hrpc]
    dsimp only
    rw [h.ledger.lists r rpc hrpc, List.isEmpty_map, Bool.not_eq_true',
      List.isEmpty_eq_false_iff_exists_mem]
    exact exists_congr hopen

theorem destroysOwn (h : Tables proto P) : DestroysOwn proto OthersWaitOrRun P := by
  intro r hr hown
  obtain ⟨rpc, hrpc⟩ := Option.isSome_iff_exists.mp hr
  obtain ⟨Q, hQ⟩ : ∃ Q, rpcProcessStep proto P (.destroyRpc (some r)) = some Q := by
    unfold rpcProcessStep World.destroyRpc
    dsimp only
    rw [hrpc]
    exact ⟨_, rfl⟩
  have hproper : P.Proper (.destroyRpc (some r)) :=
    fun c hc heq => hown c hc (Option.some.inj heq).symm
  have htables := h.step hproper hQ
  obtain ⟨hnone, _⟩ | ⟨r', rpc', heq, hrpc', happ, hcallback, _, hcalls, _⟩ := destroyRpc_cases hQ
  · cases hnone
  cases heq
  obtain rfl := Option.some.inj (hrpc'.symm.trans hrpc)
  have hfind : ∀ cid, Q.world.app.scheduler.find cid =
      if cid ∈ rpc'.cridList.map (·.crid) then none else P.world.app.scheduler.find cid := by
    intro cid
    rw [happ]
    exact CoroutineScheduler.find_foldl_destroy rpc'.cridList P.world.app.scheduler cid
  have hlive := h.listsAgree.live r rpc' hrpc'
  refine ⟨Q, hQ, fun cid hcid => ?_, fun cid hcid => ?_, fun cid ctx hctx => ?_⟩
  · rw [hfind]
    split_ifs with hmem
    · rfl
    · cases hctx : P.world.app.scheduler.find cid with
      | none => rfl
      | some ctx =>
        refine absurd ((hlive cid).mpr ⟨?_, hcid⟩) hmem
        rw [CoroutineScheduler.coroutineBeenAlive, hctx]
        exact decide_eq_true (h.coroutines.done _ _ hctx)
  · rw [hfind, if_neg fun hmem => hcid ((hlive cid).mp hmem).2]
  · rw [← hcallback]
    exact htables.ledger.state_of_find hctx

end Tables

/-- What the tables of the process say, where the coroutines that `DestroyRpc` leaves are as
`Others` says. -/
def TablesAgree (proto : RpcProto Msg) (Others : RpcProcess υ Msg γ → RpcProcess υ Msg γ → Prop)
    (P : RpcProcess υ Msg γ) : Prop :=
  ListsAgree proto P ∧ DestroysOwn proto Others P

end RpcProcess

open RpcProcess

/-- In every state that a process gets to under the conditions of `Proper`, the tables of its
`EasyRpc` objects agree, and `DestroyRpc` leaves the coroutines of the others as they are. -/
theorem tablesAgree_run {proto : RpcProto Msg} {user : υ} {messages : Nat → Msg}
    {cocurrentNum : Int} {fate : Nat → Bool} {frontRecv backRecv : RapBuffer} {svcMode : SvcMode}
    {now : Int} {es : List (RpcProcessEvent υ Msg γ)} {P : RpcProcess υ Msg γ}
    (hproper : Run.Along (rpcProcessStep proto) Proper
      (.start (.start (.init user messages cocurrentNum) fate frontRecv backRecv svcMode now)) es)
    (hrun : Run.run (rpcProcessStep proto)
      (.start (.start (.init user messages cocurrentNum) fate frontRecv backRecv svcMode now)) es =
        some P) : TablesAgree proto OthersWaitOrRun P := by
  have h := tables_run hproper hrun
  exact ⟨h.listsAgree, h.destroysOwn⟩

namespace RpcProcess

/-- The frame that answers the call 0. -/
def answerFrame : List UInt8 := [0, 0, 0, 5, 0]

/-- The connections of two `EasyRpc` objects. On the first these bytes have come in. -/
def answered (input : List UInt8) : RpcWorld Unit (List UInt8) Unit :=
  let w := ((RpcWorld.idle.createRpc 0 (some 7) true).2.createRpc 0 (some 8) true).2
  { w with heap := w.heap.setBev 0 ⟨7, input, [], []⟩ }

/-- Two `EasyRpc` objects are made, the first is called, and `OnBackEndMsg` comes to the first of these
bytes. -/
def replying (input : List UInt8) : List (RpcProcessEvent Unit (List UInt8) Unit) :=
  let w := answered input
  [.createRpc 0 (some 7) true, .createRpc 0 (some 8) true, .call 0 .plain,
    .connections w.heap w.frontendHandlerMgr w.backendHandlerMgr, .onBackEndMsg 0, .nextFrame]

/-- The state in which the callback is being run. -/
theorem replying_run :
    ∃ P, Run.run (rpcProcessStep .plain) (.start .idle) (replying answerFrame) = some P ∧
    (P.world.app.scheduler.find 0).map (·.state) = some .running ∧
    P.callback.map (·.rpc) = some 0 ∧ (P.world.app.rpcs 1).isSome ∧
    P.calls.map (fun x => (x.rpc, x.crid)) = [(0, 0)] := by
  have hfacts : (Run.run (rpcProcessStep .plain) (.start .idle) (replying answerFrame)).map (fun P =>
      ((P.world.app.scheduler.find 0).map (·.state), P.callback.map (·.rpc),
        (P.world.app.rpcs 1).isSome, P.calls.map fun x => (x.rpc, x.crid))) =
      some (some .running, some 0, true, [(0, 0)]) := by decide +kernel
  obtain ⟨P, hP, heq⟩ := Option.map_eq_some_iff.mp hfacts
  simp only [Prod.mk.injEq] at heq
  exact ⟨P, hP, heq.1, heq.2.1, heq.2.2.1, heq.2.2.2⟩

theorem replying_proper :
    Run.Along (rpcProcessStep .plain) Proper (.start RpcWorld.idle) (replying answerFrame) := by
  decide +kernel

end RpcProcess

theorem tablesAgree_replying :
    ∃ P, Run.run (rpcProcessStep .plain) (.start .idle) (replying answerFrame) = some P ∧
      TablesAgree .plain OthersWaitOrRun P := by
  obtain ⟨P, hrun, _⟩ := replying_run
  exact ⟨P, hrun, tablesAgree_run replying_proper hrun⟩

/-- A callback destroys another `EasyRpc`. Its own coroutine is not destroyed, and it does not
wait. -/
theorem replying_leaves_running :
    Run.Along (rpcProcessStep .plain) Proper (.start RpcWorld.idle) (replying answerFrame) ∧
      ∃ P, Run.run (rpcProcessStep .plain) (.start .idle) (replying answerFrame) = some P ∧
        ¬ TablesAgree .plain OthersWait P := by
  obtain ⟨P, hrun, hrunning, hcallback, hother, hcalls⟩ := replying_run
  refine ⟨replying_proper, P, hrun, ?_⟩
  rintro ⟨_, hdestroys⟩
  obtain ⟨c, hc, hcr⟩ := Option.map_eq_some_iff.mp hcallback
  have hown : ∀ c' ∈ P.callback, c'.rpc ≠ 1 := by
    intro c' hc'
    obtain rfl := Option.some.inj (hc.symm.trans hc')
    rw [hcr]
    decide
  obtain ⟨Q, _, _, hsame, hwait⟩ := hdestroys 1 hother hown
  have hnot : ¬ P.CreatedBy 1 0 := by
    rintro ⟨x, hx, hxr, _⟩
    have hmem : (x.rpc, x.crid) ∈ P.calls.map fun x => (x.rpc, x.crid) :=
      List.mem_map.mpr ⟨x, hx, rfl⟩
    rw [hcalls, List.mem_singleton, Prod.mk.injEq] at hmem
    rw [hxr] at hmem
    exact absurd hmem.1 (by decide)
  obtain ⟨ctx, hfind, hstate⟩ := Option.map_eq_some_iff.mp hrunning
  have hsuspend := hwait 0 ctx ((hsame 0 hnot).trans hfind)
  rw [hstate] at hsuspend
  cases hsuspend

end Rapidapp
