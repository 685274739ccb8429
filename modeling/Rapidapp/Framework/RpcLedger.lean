import Rapidapp.Misc.Ledger
import Rapidapp.Framework.RpcProcess

/-!
# EasyRpc: the tables as a ledger of open calls

The abstract model of the process is a `Ledger` of its open calls: each has the id of its
coroutine as its number and its `EasyRpc` as its owner. A call opens an item, the return of its
callback settles it, `DestroyRpc` closes the items of its `EasyRpc`. `Ledgered` says how the
coroutine table and the lists are read off the ledger, and each operation of the code keeps it.
-/

namespace Rapidapp

variable {υ Msg γ : Type}

namespace RpcCallRecord

/-- The entry of `crid_list_` for a call. -/
def pair (x : RpcCallRecord) : CoroutinePair := ⟨x.crid, x.crid.toNat⟩

/-- What the coroutine table has for a call: its coroutine waits, or it is running its callback. -/
def status (running : Option Int) (x : RpcCallRecord) : Int × CoroutineState :=
  (x.crid, if running = some x.crid then .running else .suspend)

end RpcCallRecord

/-! ## Lists of pairs -/

namespace EasyRpc

theorem mem_crid_map_pair {l : List RpcCallRecord} {crid : Int} :
    crid ∈ (l.map RpcCallRecord.pair).map (·.crid) ↔ ∃ x ∈ l, x.crid = crid := by
  rw [List.map_map, List.mem_map]
  rfl

/-- Where the ids differ, `RemoveByCoroutineId` removes the one pair that there is. -/
theorem removeByCoroutineId_settle {l : List RpcCallRecord}
    (hl : (l.map RpcCallRecord.crid).Nodup) (crid : Int) :
    removeByCoroutineId crid (l.map RpcCallRecord.pair) =
      (Ledger.settle RpcCallRecord.crid l crid).map RpcCallRecord.pair := by
  induction l with
  | nil => rfl
  | cons x l ih =>
    rw [List.map_cons, List.nodup_cons] at hl
    rw [List.map_cons, removeByCoroutineId]
    by_cases hx : x.crid = crid
    · have hrest : ∀ y ∈ l, y.crid ≠ crid := by
        intro y hy hyc
        exact hl.1 (List.mem_map.mpr ⟨y, hy, hyc.trans hx.symm⟩)
      have hsettle : Ledger.settle RpcCallRecord.crid (x :: l) crid = l := by
        unfold Ledger.settle
        rw [List.filter_cons_of_neg (by simpa using hx)]
        exact Ledger.settle_of_forall_ne hrest
      rw [hsettle]
      exact if_pos hx
    · have hsettle : Ledger.settle RpcCallRecord.crid (x :: l) crid =
          x :: Ledger.settle RpcCallRecord.crid l crid := by
        unfold Ledger.settle
        rw [List.filter_cons_of_pos (by simpa using hx)]
      rw [hsettle, List.map_cons, ← ih hl.2]
      exact if_neg hx

/-- `GetCoroutineIdxByAsyncId` finds the id of an entry, or -1. -/
theorem getCoroutineIdxByAsyncId_cases (asyncid : Nat) (l : List CoroutinePair) :
    getCoroutineIdxByAsyncId asyncid l = -1 ∨
      ∃ cp ∈ l, cp.crid = getCoroutineIdxByAsyncId asyncid l := by
  induction l with
  | nil => exact .inl rfl
  | cons cp l ih =>
    rw [getCoroutineIdxByAsyncId]
    split_ifs with hcp
    · exact .inr ⟨cp, List.mem_cons_self, rfl⟩
    · rcases ih with hneg | ⟨cp', hmem, heq⟩
      · exact .inl hneg
      · exact .inr ⟨cp', List.mem_cons_of_mem _ hmem, heq⟩

end EasyRpc

/-! ## The coroutine table after the operations -/

namespace CoroutineScheduler

variable {α : Type}

theorem find_conclude_reap_self (s : CoroutineScheduler α) (cid : Int) :
    ((s.conclude cid).reap cid).find cid = none := by
  have hset : (s.conclude cid).find cid =
      (s.find cid).map fun ctx => { ctx with state := .done } := find_setState_self s cid .done
  unfold reap
  rw [hset]
  cases hfind : s.find cid with
  | none => exact hset.trans (by rw [hfind]; rfl)
  | some ctx => exact find_destroy_self _ cid

theorem find_conclude_reap_ne (s : CoroutineScheduler α) {cid c : Int} (h : c ≠ cid) :
    ((s.conclude cid).reap cid).find c = s.find c := by
  rw [find_reap_ne _ h]
  exact find_setState_ne s h .done

theorem created_reap (s : CoroutineScheduler α) (cid : Int) : (s.reap cid).created = s.created :=
  (Within.reap s cid).created

theorem created_conclude (s : CoroutineScheduler α) (cid : Int) :
    (s.conclude cid).created = s.created := created_setState s cid .done

/-- `DestroyCoroutine` for each of a list. -/
theorem find_foldl_destroy (l : List CoroutinePair) (s : CoroutineScheduler α) (cid : Int) :
    (l.foldl (fun t cp => t.destroyCoroutine cp.crid) s).find cid =
      if cid ∈ l.map (·.crid) then none else s.find cid := by
  induction l generalizing s with
  | nil => rfl
  | cons cp l ih =>
    rw [List.foldl_cons, ih, List.map_cons]
    by_cases hcid : cid = cp.crid
    · rw [hcid, find_destroy_self, ite_self, if_pos List.mem_cons_self]
    · rw [find_destroy_ne s hcid]
      simp only [List.mem_cons, hcid, false_or]

theorem created_foldl_destroy (l : List CoroutinePair) (s : CoroutineScheduler α) :
    (l.foldl (fun t cp => t.destroyCoroutine cp.crid) s).created = s.created := by
  induction l generalizing s with
  | nil => rfl
  | cons cp l ih => exact ih (s.destroyCoroutine cp.crid)

end CoroutineScheduler

/-! ## The refinement -/

/-- The coroutine table and the lists are those of the ledger of open calls `l`, where the
coroutine `running` runs its callback. -/
structure Ledgered (s : RpcState υ Msg) (running : Option Int) (l : List RpcCallRecord) :
    Prop where
  distinct : (l.map RpcCallRecord.crid).Nodup
  table : ∀ cid, (s.scheduler.find cid).map (fun ctx => (ctx.idx, ctx.state)) =
    (Ledger.find RpcCallRecord.crid l cid).map (RpcCallRecord.status running)
  lists : ∀ r rpc, s.rpcs r = some rpc →
    rpc.cridList = (Ledger.ofOwner RpcCallRecord.rpc l r).map RpcCallRecord.pair

namespace Ledgered

variable {s s' : RpcState υ Msg} {running : Option Int} {l : List RpcCallRecord}

theorem find_isSome (h : Ledgered s running l) (cid : Int) :
    (s.scheduler.find cid).isSome ↔ ∃ x ∈ l, x.crid = cid := by
  have htable := congrArg Option.isSome (h.table cid)
  rw [Option.isSome_map, Option.isSome_map] at htable
  rw [htable]
  constructor
  · intro hsome
    obtain ⟨x, hx⟩ := Option.isSome_iff_exists.mp hsome
    exact ⟨x, Ledger.mem_of_find hx⟩
  · rintro ⟨x, hx, rfl⟩
    rw [Ledger.find_of_mem h.distinct hx]
    rfl

/-- The coroutine of an open call, and what it does. -/
theorem find_open (h : Ledgered s running l) {x : RpcCallRecord} (hx : x ∈ l) :
    ∃ task, s.scheduler.find x.crid =
      some ⟨x.crid, if running = some x.crid then .running else .suspend, task⟩ := by
  have htable := h.table x.crid
  rw [Ledger.find_of_mem h.distinct hx, Option.map_some, Option.map_eq_some_iff] at htable
  obtain ⟨⟨idx, state, task⟩, hfind, heq⟩ := htable
  obtain ⟨rfl, rfl⟩ := Prod.mk.inj heq
  exact ⟨task, hfind⟩

/-- The state of every coroutine in the table. -/
theorem state_of_find (h : Ledgered s running l) {cid : Int} {ctx : CoroutineCtx RpcContext}
    (hfind : s.scheduler.find cid = some ctx) :
    ctx.state = if running = some cid then .running else .suspend := by
  obtain ⟨x, hx, rfl⟩ := (h.find_isSome cid).mp (by rw [hfind]; rfl)
  obtain ⟨task, hfind'⟩ := h.find_open hx
  rw [hfind] at hfind'
  cases hfind'
  rfl

theorem mem_list (h : Ledgered s running l) {r : RpcPtr} {rpc : EasyRpc}
    (hrpc : s.rpcs r = some rpc) (cid : Int) :
    cid ∈ rpc.cridList.map (·.crid) ↔ ∃ x ∈ l, x.rpc = r ∧ x.crid = cid := by
  rw [h.lists r rpc hrpc, EasyRpc.mem_crid_map_pair]
  constructor
  · rintro ⟨x, hx, hcid⟩
    obtain ⟨hx, hr⟩ := Ledger.mem_ofOwner.mp hx
    exact ⟨x, hx, hr, hcid⟩
  · rintro ⟨x, hx, hr, hcid⟩
    exact ⟨x, Ledger.mem_ofOwner.mpr ⟨hx, hr⟩, hcid⟩

/-- A new call is opened. -/
theorem register (h : Ledgered s running l) {ctx : RpcContext} {rpc : EasyRpc}
    (buf : List UInt8) (hrpc : s.rpcs ctx.rpcStub = some rpc)
    (hseed : s.scheduler.cidSeed = s.asyncidSeed) (hnew : ∀ x ∈ l, x.crid ≠ s.asyncidSeed)
    (hrunning : running ≠ some (s.asyncidSeed : Int)) :
    Ledgered (s.register (s.scheduler.started ctx) buf rpc ctx) running
      (l ++ [⟨ctx.rpcStub, s.scheduler.cidSeed, buf⟩]) := by
  have hcid : 0 ≤ s.scheduler.cidSeed := by rw [hseed]; omega
  rw [← hseed] at hnew hrunning
  obtain ⟨x, hx⟩ : ∃ x : RpcCallRecord, ⟨ctx.rpcStub, s.scheduler.cidSeed, buf⟩ = x := ⟨_, rfl⟩
  have hxc : x.crid = s.scheduler.cidSeed := by rw [← hx]
  have hxr : x.rpc = ctx.rpcStub := by rw [← hx]
  rw [hx]
  refine ⟨?_, ?_, ?_⟩
  · rw [List.map_append, List.nodup_append]
    refine ⟨h.distinct, List.nodup_singleton _, fun a ha b hb => ?_⟩
    obtain ⟨y, hy, rfl⟩ := List.mem_map.mp ha
    rw [List.map_singleton, List.mem_singleton] at hb
    rw [hb, hxc]
    exact hnew y hy
  · intro cid
    rw [RpcState.register_scheduler]
    by_cases hc : cid = s.scheduler.cidSeed
    · have hfind : Ledger.find RpcCallRecord.crid (l ++ [x]) cid = some x := by
        rw [hc, ← hxc]
        exact Ledger.find_append_self fun y hy => by rw [hxc]; exact hnew y hy
      rw [hfind, hc, s.scheduler.find_started_self ctx hcid]
      simp only [Option.map_some, RpcCallRecord.status, hxc, if_neg hrunning]
    · rw [s.scheduler.find_started_ne ctx hcid hc, h.table cid,
        Ledger.find_append_ne l (hxc ▸ hc)]
  · intro r rpc' hr
    rw [RpcState.register_rpcs] at hr
    by_cases hstub : r = ctx.rpcStub
    · rw [hstub, Function.update_self] at hr
      cases hr
      have hpair : x.pair = ⟨s.scheduler.cidSeed, s.asyncidSeed⟩ := by
        rw [RpcCallRecord.pair, hxc, hseed, Int.toNat_natCast]
      rw [hstub, ← hxr, Ledger.ofOwner_append_self, List.map_append, List.map_singleton, hpair,
        hxr, h.lists ctx.rpcStub rpc hrpc]
    · rw [Function.update_of_ne hstub] at hr
      rw [Ledger.ofOwner_append_ne l (hxr ▸ hstub)]
      exact h.lists r rpc' hr

/-- The coroutine of an open call is resumed. -/
theorem enter (h : Ledgered s none l) {x : RpcCallRecord} (hx : x ∈ l)
    {ctx : CoroutineCtx RpcContext} (hfind : s.scheduler.find x.crid = some ctx)
    (hsched : s'.scheduler = s.scheduler.enter x.crid ctx) (hrpcs : s'.rpcs = s.rpcs) :
    Ledgered s' (some x.crid) l := by
  refine ⟨h.distinct, fun cid => ?_, fun r rpc hr => ?_⟩
  · have htable := h.table cid
    rw [hsched]
    by_cases hc : cid = x.crid
    · subst hc
      rw [hfind, Ledger.find_of_mem h.distinct hx] at htable
      rw [CoroutineScheduler.find_enter_self, Ledger.find_of_mem h.distinct hx]
      have hidx := congrArg Prod.fst (Option.some.inj htable)
      simp only [RpcCallRecord.status] at hidx
      simp [RpcCallRecord.status, hidx]
    · rw [CoroutineScheduler.find_enter_ne _ hc, htable]
      refine Option.map_congr fun y hy => ?_
      have hyc := (Ledger.mem_of_find hy).2
      have hne : ¬ x.crid = y.crid := fun heq => hc (heq.trans hyc).symm
      simp [RpcCallRecord.status, hne]
  · rw [hrpcs] at hr
    exact h.lists r rpc hr

/-- The callback of an open call returns. -/
theorem finish {x : RpcCallRecord} (h : Ledgered s (some x.crid) l) {rpc : EasyRpc}
    (hrpc : s.rpcs x.rpc = some rpc) (hx : x ∈ l)
    (hsched : s'.scheduler = (s.scheduler.conclude x.crid).reap x.crid)
    (hrpcs : s'.rpcs = Function.update s.rpcs x.rpc
      (some { rpc with cridList := EasyRpc.removeByCoroutineId x.crid rpc.cridList })) :
    Ledgered s' none (Ledger.settle RpcCallRecord.crid l x.crid) := by
  have hsub : ∀ r, ((Ledger.ofOwner RpcCallRecord.rpc l r).map RpcCallRecord.crid).Nodup :=
    fun r => h.distinct.sublist (List.filter_sublist.map _)
  refine ⟨h.distinct.sublist (List.filter_sublist.map _), fun cid => ?_, fun r rpc' hr => ?_⟩
  · rw [hsched]
    by_cases hc : cid = x.crid
    · rw [hc, CoroutineScheduler.find_conclude_reap_self, Ledger.find_settle_self]
      rfl
    · rw [CoroutineScheduler.find_conclude_reap_ne _ hc, Ledger.find_settle_ne l hc, h.table cid]
      refine Option.map_congr fun y hy => ?_
      have hyc := (Ledger.mem_of_find hy).2
      have hne : ¬ x.crid = y.crid := fun heq => hc (heq.trans hyc).symm
      simp [RpcCallRecord.status, hne]
  · rw [hrpcs] at hr
    rw [Ledger.ofOwner_settle]
    by_cases hr' : r = x.rpc
    · rw [hr', Function.update_self] at hr
      cases hr
      rw [hr', h.lists x.rpc rpc hrpc]
      exact EasyRpc.removeByCoroutineId_settle (hsub x.rpc) x.crid
    · rw [Function.update_of_ne hr'] at hr
      -- the item that is settled has another owner
      have hother : ∀ y ∈ Ledger.ofOwner RpcCallRecord.rpc l r, y.crid ≠ x.crid := by
        intro y hy hyc
        obtain ⟨hy, hyr⟩ := Ledger.mem_ofOwner.mp hy
        obtain rfl := List.inj_on_of_nodup_map h.distinct hy hx hyc
        exact hr' hyr.symm
      rw [Ledger.settle_of_forall_ne hother]
      exact h.lists r rpc' hr

/-- An `EasyRpc` is destroyed. -/
theorem delete (h : Ledgered s running l) {r : RpcPtr} {rpc : EasyRpc}
    (hrpc : s.rpcs r = some rpc) :
    Ledgered (s.deleteRpc r rpc) running (Ledger.close RpcCallRecord.rpc l r) := by
  refine ⟨h.distinct.sublist (List.filter_sublist.map _), fun cid => ?_, fun r' rpc' hr => ?_⟩
  · have hfind : (s.deleteRpc r rpc).scheduler.find cid =
        if cid ∈ rpc.cridList.map (·.crid) then none else s.scheduler.find cid :=
      CoroutineScheduler.find_foldl_destroy rpc.cridList s.scheduler cid
    rw [hfind, Ledger.find_close h.distinct]
    split_ifs with hmem
    · obtain ⟨x, hx, hxr, rfl⟩ := (h.mem_list hrpc cid).mp hmem
      rw [Ledger.find_of_mem h.distinct hx, Option.filter_some_neg (by simpa using hxr)]
      rfl
    · rw [h.table cid]
      cases hx : Ledger.find RpcCallRecord.crid l cid with
      | none => rfl
      | some x =>
        obtain ⟨hxl, hxc⟩ := Ledger.mem_of_find hx
        have hxr : x.rpc ≠ r := fun hxr => hmem ((h.mem_list hrpc cid).mpr ⟨x, hxl, hxr, hxc⟩)
        rw [Option.filter_some_pos (by simpa using hxr)]
  · have hne : r' ≠ r := by
      rintro rfl
      rw [RpcState.deleteRpc_rpcs, Function.update_self] at hr
      cases hr
    rw [RpcState.deleteRpc_rpcs, Function.update_of_ne hne] at hr
    rw [Ledger.ofOwner_close_ne l hne]
    exact h.lists r' rpc' hr

end Ledgered

end Rapidapp
