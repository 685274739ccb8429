import Rapidapp.Coroutine.Machine
import Rapidapp.Framework.EasyRpc

/-!
# EasyRpc: what a call and a reply do to the tables

A call of `RpcCall` is refused and leaves the tables alone, or it registers a suspended coroutine
under the id and the asyncid that are next (`rpcCall_cases`). Three tables have to stay in step:
the `crid_list_` of each `EasyRpc`, the coroutine table and the requests that wait for an answer,
as `Exchange` has it. `RpcInv` says how they belong together, and a message passed to `Resume`
does to them what it does at the desk of `Exchange` (`resume_cases`).
-/

namespace Rapidapp

variable {υ Msg γ : Type}

/-! ## RpcCall -/

namespace RpcState

/-- A call is in the tables: the scheduler is `scheduler`, the bytes of its request are `buf`. -/
def register (s : RpcState υ Msg) (scheduler : CoroutineScheduler RpcContext) (buf : List UInt8)
    (rpc : EasyRpc) (ctx : RpcContext) : RpcState υ Msg :=
  { s with
    scheduler := scheduler
    asyncidSeed := CInt.uint64 (s.asyncidSeed + 1)
    buf := buf
    nextCtx := s.nextCtx + 1
    rpcs := Function.update s.rpcs ctx.rpcStub (some { rpc with
      cridList := rpc.cridList ++ [⟨s.scheduler.cidSeed, s.asyncidSeed⟩] })
    log := s.log ++ [.issue ⟨ctx.rpcStub, s.asyncidSeed, ctx⟩] }

section Register

variable (s : RpcState υ Msg) (scheduler : CoroutineScheduler RpcContext) (buf : List UInt8)
  (rpc : EasyRpc) (ctx : RpcContext)

theorem register_scheduler : (s.register scheduler buf rpc ctx).scheduler = scheduler := rfl

theorem register_asyncidSeed :
    (s.register scheduler buf rpc ctx).asyncidSeed = CInt.uint64 (s.asyncidSeed + 1) := rfl

theorem register_nextCtx : (s.register scheduler buf rpc ctx).nextCtx = s.nextCtx + 1 := rfl

theorem register_nextRpc : (s.register scheduler buf rpc ctx).nextRpc = s.nextRpc := rfl

theorem register_replies : (s.register scheduler buf rpc ctx).replies = s.replies := rfl

theorem register_rpcs : (s.register scheduler buf rpc ctx).rpcs =
    Function.update s.rpcs ctx.rpcStub (some { rpc with
      cridList := rpc.cridList ++ [⟨s.scheduler.cidSeed, s.asyncidSeed⟩] }) := rfl

theorem register_log : (s.register scheduler buf rpc ctx).log =
    s.log ++ [.issue ⟨ctx.rpcStub, s.asyncidSeed, ctx⟩] := rfl

end Register

end RpcState

namespace World

/-- What `RpcCall` checks before it starts a coroutine. -/
def RpcRefused (w : RpcWorld υ Msg γ) (r : RpcPtr) (a : RpcArgs) : Prop :=
  a.request = none ∨ a.callback = none ∨ (w.app.rpcs r).bind (·.binding) = none ∨
    a.newOk = false ∨
    w.app.scheduler.coroutineTable.entries.length ≥
      CInt.uint64 w.app.scheduler.coroutineMax ∨
    a.callocOk = false

/-- The request of a call as bytes: `MessageToBinary`, and the contents of `buf` before it. -/
def requestBuf (proto : RpcProto Msg) (w : RpcWorld υ Msg γ) (ctx : RpcContext) : List UInt8 :=
  (proto.messageToBinary rpcTypeRequest w.app.asyncidSeed ctx.request.typeName
    (w.app.messages ctx.request.addr) w.app.buf).2

/-- The state in which `RpcCall` returns 0. -/
def called (proto : RpcProto Msg) (w : RpcWorld υ Msg γ) (rpc : EasyRpc) (net : NetPtr)
    (ctx : RpcContext) : RpcWorld υ Msg γ :=
  { w with
    heap := (w.heap.send net (w.requestBuf proto ctx)).2
    app := w.app.register (w.app.scheduler.started ctx) (w.requestBuf proto ctx) rpc ctx }

/-- The context of a call. -/
def contextOf (w : RpcWorld υ Msg γ) (r : RpcPtr) (request : MessageRef) (callback : Nat)
    (a : RpcArgs) : RpcContext :=
  ⟨w.app.nextCtx, callback, r, request, a.response, a.arg⟩

/-- The coroutine of a call runs up to its first yield. -/
theorem resumeCoroutine_ready {proto : RpcProto Msg} {user : RpcUser υ Msg γ}
    {w : RpcWorld υ Msg γ} {ctx : RpcContext} {rpc : EasyRpc} {net : NetPtr} {cid : Int}
    (hfind : w.app.scheduler.find cid = some ⟨cid, .ready, ctx⟩) (hcid : 0 ≤ cid)
    (hrpc : w.app.rpcs ctx.rpcStub = some rpc) (hnet : rpc.binding = some net) :
    resumeCoroutine proto user w cid = some
      { w with
        heap := (w.heap.send net (w.requestBuf proto ctx)).2
        app := { w.app with
          scheduler :=
            (w.app.scheduler.enter cid ⟨cid, .ready, ctx⟩).yieldCoroutine.reap cid
          asyncidSeed := CInt.uint64 (w.app.asyncidSeed + 1)
          buf := w.requestBuf proto ctx
          log := w.app.log ++ [.issue ⟨ctx.rpcStub, w.app.asyncidSeed, ctx⟩] } } := by
  have hbind : (w.app.rpcs ctx.rpcStub).bind (·.binding) = some net := by
    rw [hrpc, Option.bind_some, hnet]
  unfold resumeCoroutine
  rw [hfind]
  simp only [if_neg (not_lt.mpr hcid), rpcFunctionRequest, setScheduler, hbind, requestBuf]

/-- The same for a coroutine that was created just before. -/
theorem resumeCoroutine_created {proto : RpcProto Msg} {user : RpcUser υ Msg γ}
    {w : RpcWorld υ Msg γ} {s : CoroutineScheduler RpcContext} {ctx : RpcContext}
    {rpc : EasyRpc} {net : NetPtr} (hs : w.app.scheduler = s.enroll ctx)
    (hrpc : w.app.rpcs ctx.rpcStub = some rpc) (hnet : rpc.binding = some net)
    (hcid : 0 ≤ s.cidSeed) :
    resumeCoroutine proto user w s.cidSeed = some
      { w with
        heap := (w.heap.send net (w.requestBuf proto ctx)).2
        app := { w.app with
          scheduler := s.started ctx
          asyncidSeed := CInt.uint64 (w.app.asyncidSeed + 1)
          buf := w.requestBuf proto ctx
          log := w.app.log ++ [.issue ⟨ctx.rpcStub, w.app.asyncidSeed, ctx⟩] } } := by
  have hfind : w.app.scheduler.find s.cidSeed = some ⟨s.cidSeed, .ready, ctx⟩ := by
    rw [hs, CoroutineScheduler.find_enroll_self]
  rw [resumeCoroutine_ready hfind hcid hrpc hnet, hs, CoroutineScheduler.started]

theorem rpcCall_cases (proto : RpcProto Msg) (user : RpcUser υ Msg γ) (w : RpcWorld υ Msg γ)
    (r : RpcPtr) (a : RpcArgs) :
    (RpcRefused w r a ∧ ∃ n, w.app.nextCtx ≤ n ∧
      w.rpcCall proto user r a = some (-1, { w with app := { w.app with nextCtx := n } })) ∨
    (¬ RpcRefused w r a ∧ ∃ request callback rpc net, a.request = some request ∧
      a.callback = some callback ∧ w.app.rpcs r = some rpc ∧ rpc.binding = some net ∧
      ((w.app.scheduler.cidSeed < 0 ∧ w.rpcCall proto user r a = some (-1,
          { w with app := { w.app with
              scheduler := w.app.scheduler.enroll (w.contextOf r request callback a)
              nextCtx := w.app.nextCtx + 1 } })) ∨
        (0 ≤ w.app.scheduler.cidSeed ∧ w.rpcCall proto user r a =
          some (0, w.called proto rpc net (w.contextOf r request callback a))))) := by
  obtain ⟨request, response, callback, arg, newOk, callocOk⟩ := a
  cases request with
  | none => exact .inl ⟨.inl rfl, w.app.nextCtx, le_rfl, rfl⟩
  | some request =>
    cases callback with
    | none => exact .inl ⟨.inr (.inl rfl), w.app.nextCtx, le_rfl, rfl⟩
    | some callback =>
      cases hbind : (w.app.rpcs r).bind (·.binding) with
      | none =>
        exact .inl ⟨.inr (.inr (.inl hbind)), w.app.nextCtx, le_rfl, by simp only [rpcCall, hbind]⟩
      | some net =>
        obtain ⟨rpc, hrpc, hnet⟩ := Option.bind_eq_some_iff.mp hbind
        cases newOk with
        | false =>
          exact .inl ⟨.inr (.inr (.inr (.inl rfl))), w.app.nextCtx, le_rfl,
            by simp [rpcCall, hbind]⟩
        | true =>
          obtain ⟨ret, hneg, heq, hwhy⟩ | ⟨t, ht, hroom, hcalloc, heq⟩ :=
            w.app.scheduler.createCoroutine_cases
              (some ⟨w.app.nextCtx, callback, r, request, response, arg⟩) callocOk
          · refine .inl ⟨?_, w.app.nextCtx + 1, Nat.le_succ _, ?_⟩
            · rcases hwhy with hwhy | hwhy | hwhy
              · cases hwhy
              · exact .inr (.inr (.inr (.inr (.inl hwhy))))
              · exact .inr (.inr (.inr (.inr (.inr hwhy))))
            · simp only [rpcCall, hbind, heq, if_pos hneg]
              rfl
          · cases ht
            have hgo : ¬ RpcRefused w r ⟨some request, response, some callback, arg, true,
                callocOk⟩ := by
              rintro (h | h | h | h | h | h)
              · cases h
              · cases h
              · rw [hbind] at h; cases h
              · cases h
              · exact absurd h (not_le.mpr hroom)
              · rw [hcalloc] at h; cases h
            refine .inr ⟨hgo, request, callback, rpc, net, rfl, rfl, hrpc, hnet, ?_⟩
            rcases lt_or_ge w.app.scheduler.cidSeed 0 with hcid | hcid
            · refine .inl ⟨hcid, ?_⟩
              simp only [rpcCall, hbind, heq, if_pos hcid]
              rfl
            · refine .inr ⟨hcid, ?_⟩
              obtain ⟨binding, cridList⟩ := rpc
              obtain rfl : binding = some net := hnet
              simp only [rpcCall, heq, if_neg (not_lt.mpr hcid), RpcState.modifyRpc, hrpc,
                Option.bind_some, Bool.not_true, Bool.false_eq_true, if_false]
              rw [resumeCoroutine_created rfl (Function.update_self r _ _) rfl hcid]
              simp only [called, RpcState.register, contextOf, requestBuf, Option.map_some]

end World

/-! ## The invariant of the tables -/

/-- A call as a request of `Exchange`: the `EasyRpc` issues it under its asyncid. -/
abbrev RpcTicket := Exchange.Request RpcPtr Nat RpcContext

/-- The entry of `crid_list_` for a call. -/
def RpcTicket.pair (q : RpcTicket) : CoroutinePair := ⟨q.id, q.id⟩

/-- The entry of the coroutine table for a call. -/
def RpcTicket.coroutine (q : RpcTicket) : CoroutineCtx RpcContext := ⟨q.id, .suspend, q.val⟩

/-- What the callback of a call is to be given for a message. -/
def RpcTicket.reply (proto : RpcProto Msg) (q : RpcTicket) (msg : RpcMessage) : RpcReply where
  ctx := q.val
  status := q.val.response.elim 0 fun response => replyStatus proto response msg

/-- The tables and the requests that wait for an answer say the same. Ids and asyncids are the
number of the call, and grow with the calls. -/
structure RpcInv (proto : RpcProto Msg) (s : RpcState υ Msg) : Prop where
  seed : s.asyncidSeed = s.scheduler.created
  table : ∀ cid, s.scheduler.find cid =
    ((Exchange.after s.log).waiting.find? fun q => (q.id : Int) = cid).map RpcTicket.coroutine
  lists : ∀ {r rpc}, s.rpcs r = some rpc →
    rpc.cridList = ((Exchange.after s.log).waiting.filter (·.owner = r)).map RpcTicket.pair
  bounded : ∀ {r rpc}, s.rpcs r = some rpc → r < s.nextRpc
  issued : ∀ q ∈ Exchange.issues s.log, q.id < s.scheduler.created ∧ q.val.addr < s.nextCtx ∧
    q.owner < s.nextRpc ∧ q.owner = q.val.rpcStub
  ordered : (Exchange.issues s.log).Pairwise fun a b => a.id < b.id ∧ a.val.addr < b.val.addr
  replies : s.replies = (Exchange.after s.log).answered.map fun a => RpcTicket.reply proto a.1 a.2

namespace EasyRpc

theorem getCoroutineIdxByAsyncId_pair (asyncid : Nat) (qs : List RpcTicket) :
    getCoroutineIdxByAsyncId asyncid (qs.map RpcTicket.pair) =
      (qs.find? fun q => q.id = asyncid).elim (-1) fun q => (q.id : Int) := by
  induction qs with
  | nil => rfl
  | cons q qs ih =>
    by_cases hq : q.id = asyncid
    · simp [getCoroutineIdxByAsyncId, RpcTicket.pair, hq]
    · rw [List.find?_cons_of_neg (by simpa using hq), ← ih]
      simp [getCoroutineIdxByAsyncId, RpcTicket.pair, hq]

/-- Where the ids are in order, all pairs with the id are removed. -/
theorem removeByCoroutineId_pair {id : Nat} {qs : List RpcTicket}
    (h : qs.Pairwise fun a b => a.id < b.id) :
    removeByCoroutineId id (qs.map RpcTicket.pair) =
      (qs.filter fun q => q.id ≠ id).map RpcTicket.pair := by
  induction qs with
  | nil => rfl
  | cons q qs ih =>
    obtain ⟨hlater, hqs⟩ := List.pairwise_cons.mp h
    by_cases hq : q.id = id
    · have hall : qs.filter (fun q => q.id ≠ id) = qs := by
        refine List.filter_eq_self.mpr fun x hx => ?_
        have hlt := hlater x hx
        rw [decide_eq_true_eq]
        omega
      rw [List.filter_cons_of_neg (by simpa using hq), hall]
      simp [removeByCoroutineId, RpcTicket.pair, hq]
    · rw [List.filter_cons_of_pos (by simpa using hq), List.map_cons, List.map_cons, ← ih hqs]
      simp [removeByCoroutineId, RpcTicket.pair, hq]

/-- No pair has a negative id. -/
theorem removeByCoroutineId_neg (qs : List RpcTicket) :
    removeByCoroutineId (-1) (qs.map RpcTicket.pair) = qs.map RpcTicket.pair := by
  induction qs with
  | nil => rfl
  | cons q qs ih =>
    have hq : ¬ ((q.id : Int) = -1) := by omega
    rw [List.map_cons, removeByCoroutineId]
    exact (if_neg hq).trans (congrArg _ ih)

end EasyRpc

namespace RpcInv

variable {proto : RpcProto Msg} {s s' : RpcState υ Msg}

theorem init (proto : RpcProto Msg) (user : υ) (messages : Nat → Msg) (cocurrentNum : Int) :
    RpcInv proto (RpcState.init user messages cocurrentNum) where
  seed := rfl
  table _ := rfl
  lists h := by cases h
  bounded h := by cases h
  issued := nofun
  ordered := .nil
  replies := rfl

/-- Calls differ in their asyncids. -/
theorem distinct (h : RpcInv proto s) : Exchange.Distinct s.log := by
  refine h.ordered.imp fun {a b} hab htakes => ?_
  have hid := (Exchange.Request.takes_iff.mp htakes).2
  omega

theorem waiting_ordered (h : RpcInv proto s) :
    (Exchange.after s.log).waiting.Pairwise fun a b => a.id < b.id :=
  (h.ordered.sublist (Exchange.waiting_sublist s.log)).imp And.left

theorem eq_of_id (h : RpcInv proto s) {q q' : RpcTicket}
    (hq : q ∈ (Exchange.after s.log).waiting) (hq' : q' ∈ (Exchange.after s.log).waiting)
    (hid : q.id = q'.id) : q = q' := by
  have hnodup : ((Exchange.after s.log).waiting.map (·.id)).Nodup :=
    List.pairwise_map.mpr (h.waiting_ordered.imp fun hlt => Nat.ne_of_lt hlt)
  exact List.inj_on_of_nodup_map hnodup hq hq' hid

theorem waiting_issued (h : RpcInv proto s) {q : RpcTicket}
    (hq : q ∈ (Exchange.after s.log).waiting) : q.id < s.scheduler.created ∧
      q.val.addr < s.nextCtx ∧ q.owner < s.nextRpc ∧ q.owner = q.val.rpcStub :=
  h.issued q ((Exchange.waiting_sublist s.log).subset hq)

/-- The coroutine of a call that waits is in the table. -/
theorem find_waiting (h : RpcInv proto s) {q : RpcTicket}
    (hq : q ∈ (Exchange.after s.log).waiting) :
    s.scheduler.find q.id = some q.coroutine := by
  rw [h.table]
  have hsome : ((Exchange.after s.log).waiting.find? fun x => (x.id : Int) = q.id).isSome :=
    List.find?_isSome.mpr ⟨q, hq, decide_eq_true rfl⟩
  obtain ⟨q', hfind⟩ := Option.isSome_iff_exists.mp hsome
  have hid : (q'.id : Int) = q.id := by
    have hp := List.find?_some hfind
    exact of_decide_eq_true hp
  obtain rfl := h.eq_of_id (List.mem_of_find?_eq_some hfind) hq (by omega)
  rw [hfind]
  rfl

/-- No coroutine has a negative id. -/
theorem find_neg (h : RpcInv proto s) : s.scheduler.find (-1) = none := by
  rw [h.table, Option.map_eq_none_iff, List.find?_eq_none]
  intro q _
  rw [decide_eq_true_eq]
  omega

/-- `GetCoroutineIdxByAsyncId` finds the call that waits for the message. -/
theorem getCoroutineIdx (h : RpcInv proto s) {r : RpcPtr} {rpc : EasyRpc}
    (hrpc : s.rpcs r = some rpc) (asyncid : Nat) :
    EasyRpc.getCoroutineIdxByAsyncId asyncid rpc.cridList =
      ((Exchange.after s.log).waiting.find? (·.takes r asyncid)).elim (-1)
        fun q => (q.id : Int) := by
  rw [h.lists hrpc, EasyRpc.getCoroutineIdxByAsyncId_pair, List.find?_filter]
  congr 2
  funext q
  simp [Exchange.Request.takes]

/-- The application's own code. -/
theorem keeps (h : RpcInv proto s) (hk : s.Keeps s') : RpcInv proto s' where
  seed := by rw [hk.asyncidSeed, hk.scheduler]; exact h.seed
  table cid := by rw [hk.scheduler, hk.log]; exact h.table cid
  lists := by
    intro r rpc hr
    rw [hk.log]
    rcases lt_or_ge r s.nextRpc with hlt | hge
    · exact h.lists ((hk.rpcs r hlt).symm.trans hr)
    · have hnew := hk.created r rpc hge hr
      rw [or_iff_right fun hold => absurd (h.bounded hold) (not_lt.mpr hge)] at hnew
      rw [hnew.2]
      have hnone : (Exchange.after s.log).waiting.filter (·.owner = r) = [] := by
        refine List.filter_eq_nil_iff.mpr fun q hq => ?_
        have hlt := (h.waiting_issued hq).2.2.1
        rw [decide_eq_true_eq]
        rintro rfl
        exact absurd hlt (not_lt.mpr hge)
      rw [hnone]
      rfl
  bounded := by
    intro r rpc hr
    rcases lt_or_ge r s.nextRpc with hlt | hge
    · exact lt_of_lt_of_le hlt hk.nextRpc
    · rcases hk.created r rpc hge hr with hold | hnew
      · exact lt_of_lt_of_le (h.bounded hold) hk.nextRpc
      · exact hnew.1
  issued := by
    rw [hk.log, hk.scheduler, hk.nextCtx]
    intro q hq
    obtain ⟨h₁, h₂, h₃, h₄⟩ := h.issued q hq
    exact ⟨h₁, h₂, lt_of_lt_of_le h₃ hk.nextRpc, h₄⟩
  ordered := by rw [hk.log]; exact h.ordered
  replies := by rw [hk.replies, hk.log]; exact h.replies

/-- A call that is not refused. -/
theorem register (h : RpcInv proto s) {ctx : RpcContext} {rpc : EasyRpc} (buf : List UInt8)
    (hrpc : s.rpcs ctx.rpcStub = some rpc) (haddr : ctx.addr = s.nextCtx)
    (hcount : s.scheduler.created < 2 ^ 31) :
    RpcInv proto (s.register (s.scheduler.started ctx) buf rpc ctx) := by
  have hseed : s.scheduler.cidSeed = s.asyncidSeed := by
    rw [CoroutineScheduler.cidSeed_eq hcount, h.seed]
  have hcid : 0 ≤ s.scheduler.cidSeed := by rw [hseed]; omega
  obtain ⟨q, hq⟩ : ∃ q : RpcTicket, (⟨ctx.rpcStub, s.asyncidSeed, ctx⟩ : RpcTicket) = q :=
    ⟨_, rfl⟩
  have hlog : (s.register (s.scheduler.started ctx) buf rpc ctx).log = s.log ++ [.issue q] := by
    rw [RpcState.register_log, hq]
  have hafter : Exchange.after (s.log ++ [.issue q]) =
      { Exchange.after s.log with waiting := (Exchange.after s.log).waiting ++ [q] } := by
    rw [Exchange.after_concat]; rfl
  have hissues : Exchange.issues (s.log ++ [.issue q]) =
      Exchange.issues s.log ++ [q] := Exchange.issues_append _ _
  have hcreated := s.scheduler.created_started ctx hcid
  refine ⟨?_, ?_, ?_, ?_, ?_, ?_, ?_⟩
  · have hlt : s.asyncidSeed + 1 < 2 ^ 64 := by rw [h.seed]; omega
    have hnext : CInt.uint64 (s.asyncidSeed + 1) = s.asyncidSeed + 1 := by
      rw [← Int.natCast_succ, CInt.uint64_natCast hlt]
    rw [RpcState.register_asyncidSeed, RpcState.register_scheduler, hnext, hcreated, h.seed]
  · intro cid
    rw [hlog, hafter, List.find?_append, RpcState.register_scheduler]
    by_cases hc : cid = s.scheduler.cidSeed
    · have hnone : (Exchange.after s.log).waiting.find? (fun q => (q.id : Int) = cid) =
          none := by
        refine List.find?_eq_none.mpr fun x hx => ?_
        have hlt := (h.waiting_issued hx).1
        have hs := h.seed
        rw [decide_eq_true_eq]
        omega
      rw [hnone, hc, s.scheduler.find_started_self ctx hcid, hseed, ← hq]
      simp [RpcTicket.coroutine]
    · have hother : List.find? (fun q : RpcTicket => (q.id : Int) = cid) [q] = none := by
        rw [hseed] at hc
        rw [← hq]
        simp [Ne.symm hc]
      rw [hother, Option.or_none, s.scheduler.find_started_ne ctx hcid hc]
      exact h.table cid
  · intro r rpc' hr
    rw [RpcState.register_rpcs] at hr
    rw [hlog, hafter]
    dsimp only
    rw [List.filter_append, List.map_append]
    by_cases hstub : r = ctx.rpcStub
    · rw [hstub, Function.update_self] at hr
      cases hr
      rw [hstub, h.lists hrpc, hseed, ← hq]
      simp [RpcTicket.pair]
    · rw [Function.update_of_ne hstub] at hr
      rw [h.lists hr, ← hq]
      simp [Ne.symm hstub]
  · intro r rpc' hr
    rw [RpcState.register_rpcs] at hr
    rw [RpcState.register_nextRpc]
    by_cases hstub : r = ctx.rpcStub
    · rw [hstub]; exact h.bounded hrpc
    · rw [Function.update_of_ne hstub] at hr
      exact h.bounded hr
  · rw [hlog, hissues, RpcState.register_scheduler, hcreated, RpcState.register_nextCtx,
      RpcState.register_nextRpc]
    intro x hx
    rcases List.mem_append.mp hx with hx | hx
    · obtain ⟨h₁, h₂, h₃, h₄⟩ := h.issued x hx
      exact ⟨by omega, Nat.lt_succ_of_lt h₂, h₃, h₄⟩
    · rw [List.mem_singleton.mp hx, ← hq]
      exact ⟨by rw [h.seed]; exact Nat.lt_succ_self _, haddr ▸ Nat.lt_succ_self _,
        h.bounded hrpc, rfl⟩
  · rw [hlog, hissues, List.pairwise_append]
    refine ⟨h.ordered, List.pairwise_singleton _ _, fun x hx y hy => ?_⟩
    obtain ⟨h₁, h₂, _, _⟩ := h.issued x hx
    rw [List.mem_singleton.mp hy, ← hq]
    exact ⟨by rw [h.seed]; exact h₁, by rw [haddr]; exact h₂⟩
  · rw [hlog, hafter, RpcState.register_replies]
    exact h.replies

end RpcInv

/-! ## Resume -/

namespace RpcState

/-- A message that is no answer has been passed to `Resume`. -/
def heard (s : RpcState υ Msg) (r : RpcPtr) (msg : RpcMessage) : RpcState υ Msg :=
  { s with
    rpcMsg := msg
    log := s.log ++ [.hear r msg.asyncid msg] }

/-- A call has been answered: the scheduler is `scheduler`, the callback was given `reply`. -/
def answer (s : RpcState υ Msg) (scheduler : CoroutineScheduler RpcContext) (r : RpcPtr)
    (rpc : EasyRpc) (q : RpcTicket) (msg : RpcMessage) (reply : RpcReply) : RpcState υ Msg :=
  { s with
    scheduler := scheduler
    rpcMsg := msg
    rpcs := Function.update s.rpcs r (some { rpc with
      cridList := EasyRpc.removeByCoroutineId q.id rpc.cridList })
    log := s.log ++ [.hear r msg.asyncid msg]
    replies := s.replies ++ [reply] }

section Answer

variable (s : RpcState υ Msg) (scheduler : CoroutineScheduler RpcContext) (r : RpcPtr)
  (rpc : EasyRpc) (q : RpcTicket) (msg : RpcMessage) (reply : RpcReply)

theorem answer_scheduler : (s.answer scheduler r rpc q msg reply).scheduler = scheduler := rfl

theorem answer_rpcs : (s.answer scheduler r rpc q msg reply).rpcs =
    Function.update s.rpcs r (some { rpc with
      cridList := EasyRpc.removeByCoroutineId q.id rpc.cridList }) := rfl

theorem answer_log : (s.answer scheduler r rpc q msg reply).log =
    s.log ++ [.hear r msg.asyncid msg] := rfl

theorem answer_replies :
    (s.answer scheduler r rpc q msg reply).replies = s.replies ++ [reply] := rfl

end Answer

end RpcState

namespace RpcInv

variable {proto : RpcProto Msg} {s : RpcState υ Msg} {r : RpcPtr} {msg : RpcMessage}

theorem heard (h : RpcInv proto s)
    (hnone : (Exchange.after s.log).waiting.find? (·.takes r msg.asyncid) = none) :
    RpcInv proto (s.heard r msg) := by
  have hlog : (s.heard r msg).log = s.log ++ [.hear r msg.asyncid msg] := rfl
  have hafter : Exchange.after (s.log ++ [.hear r msg.asyncid msg]) = Exchange.after s.log := by
    rw [Exchange.after_concat, Exchange.Desk.step_hear_of_none msg hnone]
  have hissues : Exchange.issues (s.log ++ [.hear r msg.asyncid msg]) =
      Exchange.issues s.log := by
    rw [Exchange.issues_append]; exact List.append_nil _
  refine ⟨h.seed, ?_, ?_, h.bounded, ?_, ?_, ?_⟩
  · rw [hlog, hafter]; exact h.table
  · rw [hlog, hafter]; exact h.lists
  · rw [hlog, hissues]; exact h.issued
  · rw [hlog, hissues]; exact h.ordered
  · rw [hlog, hafter]; exact h.replies

theorem answer (h : RpcInv proto s) {rpc : EasyRpc} {q : RpcTicket} (hrpc : s.rpcs r = some rpc)
    (hq : (Exchange.after s.log).waiting.find? (·.takes r msg.asyncid) = some q) :
    RpcInv proto (s.answer (s.scheduler.finished q.id q.coroutine) r rpc q msg
      (q.reply proto msg)) := by
  obtain ⟨howner, hid⟩ := Exchange.Request.takes_iff.mp (Exchange.Request.takes_of_find? hq)
  have hmem := List.mem_of_find?_eq_some hq
  have hafter : Exchange.after (s.log ++ [.hear r msg.asyncid msg]) =
      { waiting := (Exchange.after s.log).waiting.filter (!·.takes r msg.asyncid)
        answered := (Exchange.after s.log).answered ++ [(q, msg)] } := by
    rw [Exchange.after_concat, Exchange.Desk.step_hear_of_some msg hq]
  have hissues : Exchange.issues (s.log ++ [.hear r msg.asyncid msg]) =
      Exchange.issues s.log := by
    rw [Exchange.issues_append]; exact List.append_nil _
  -- of the requests that wait, exactly those with another asyncid go on waiting
  have htakes : ∀ x ∈ (Exchange.after s.log).waiting,
      (!x.takes r msg.asyncid) = decide (x.id ≠ q.id) := by
    intro x hx
    by_cases hxid : x.id = q.id
    · obtain rfl := h.eq_of_id hx hmem hxid
      simp [howner, hid, Exchange.Request.takes]
    · have hxne : x.id ≠ msg.asyncid := by rw [← hid]; exact hxid
      simp [Exchange.Request.takes, hxid, hxne]
  have hwaiting : (Exchange.after s.log).waiting.filter (!·.takes r msg.asyncid) =
      (Exchange.after s.log).waiting.filter fun x => x.id ≠ q.id := List.filter_congr htakes
  have hidx : (RpcTicket.coroutine q).idx = q.id := rfl
  refine ⟨?_, ?_, ?_, ?_, ?_, ?_, ?_⟩
  · exact h.seed.trans (s.scheduler.created_finished hidx).symm
  · intro cid
    rw [RpcState.answer_scheduler, RpcState.answer_log, hafter]
    dsimp only
    rw [hwaiting, List.find?_filter]
    by_cases hc : cid = q.id
    · rw [hc, s.scheduler.find_finished_self hidx]
      refine (Option.map_eq_none_iff.mpr (List.find?_eq_none.mpr fun x _ => ?_)).symm
      simp only [decide_eq_true_eq, not_and]
      omega
    · rw [s.scheduler.find_finished_ne hidx hc, h.table cid]
      congr 2
      funext x
      by_cases hx : (x.id : Int) = cid
      · have hne : x.id ≠ q.id := by omega
        simp [hx, hne]
      · simp [hx]
  · intro r' rpc' hr
    rw [RpcState.answer_rpcs] at hr
    rw [RpcState.answer_log, hafter]
    dsimp only
    rw [hwaiting, List.filter_filter]
    by_cases hr' : r' = r
    · rw [hr', Function.update_self] at hr
      cases hr
      have hordered := h.waiting_ordered.filter (·.owner = r)
      rw [hr', h.lists hrpc, EasyRpc.removeByCoroutineId_pair hordered, List.filter_filter]
      exact congrArg _ (List.filter_congr fun x _ => Bool.and_comm _ _)
    · rw [Function.update_of_ne hr'] at hr
      rw [h.lists hr]
      congr 1
      refine List.filter_congr fun x hx => ?_
      by_cases hxo : x.owner = r'
      · have hne : x.id ≠ q.id := by
          intro hxid
          obtain rfl := h.eq_of_id hx hmem hxid
          exact hr' (hxo.symm.trans howner)
        simp [hxo, hne]
      · simp [hxo]
  · intro r' rpc' hr
    rw [RpcState.answer_rpcs] at hr
    by_cases hr' : r' = r
    · rw [hr']; exact h.bounded hrpc
    · rw [Function.update_of_ne hr'] at hr
      exact h.bounded hr
  · rw [RpcState.answer_log, hissues, RpcState.answer_scheduler,
      s.scheduler.created_finished hidx]
    exact h.issued
  · rw [RpcState.answer_log, hissues]
    exact h.ordered
  · rw [RpcState.answer_log, hafter, RpcState.answer_replies, h.replies]
    dsimp only
    rw [List.map_append]
    rfl

end RpcInv

namespace World

variable {proto : RpcProto Msg} {user : RpcUser υ Msg γ} {w : RpcWorld υ Msg γ}

variable (proto user) in
/-- `RpcFunction` goes on to its end: the callback is called. -/
theorem rpcFunctionReply_eq {q : RpcTicket} {response : MessageRef}
    (hresponse : q.val.response = some response) :
    ∃ w', rpcFunctionReply proto user q.val w = some w' ∧
      RpcState.Keeps { w.app with replies := w.app.replies ++ [q.reply proto w.app.rpcMsg] }
        w'.app := by
  have hreply : q.reply proto w.app.rpcMsg =
      ⟨q.val, replyStatus proto response w.app.rpcMsg⟩ := by
    rw [RpcTicket.reply, hresponse, Option.elim_some]
  rw [hreply]
  have hk := fun messages => user.onReply_keeps q.val (replyStatus proto response w.app.rpcMsg)
    { w with app := { w.app with
        messages := messages
        replies := w.app.replies ++ [⟨q.val, replyStatus proto response w.app.rpcMsg⟩] } }
  simp only [rpcFunctionReply, hresponse]
  exact ⟨_, rfl, (hk _).of_messages⟩

variable (proto user) in
/-- A coroutine that waits for its reply runs to its end. -/
theorem resumeCoroutine_suspend {q : RpcTicket} {response : MessageRef}
    (hfind : w.app.scheduler.find q.id = some q.coroutine)
    (hresponse : q.val.response = some response) :
    ∃ w', resumeCoroutine proto user w q.id = some w' ∧
      RpcState.Keeps { w.app with
        scheduler := w.app.scheduler.finished q.id q.coroutine
        replies := w.app.replies ++ [q.reply proto w.app.rpcMsg] } w'.app := by
  obtain ⟨w₁, hw₁, hk⟩ := rpcFunctionReply_eq proto user
    (w := w.setScheduler (w.app.scheduler.enter q.id q.coroutine)) hresponse
  refine ⟨w₁.setScheduler ((w₁.app.scheduler.conclude q.id).reap q.id), ?_, ?_⟩
  · have hstate : (q.coroutine).state = .suspend := rfl
    have htask : (q.coroutine).task = q.val := rfl
    have hidx : (q.coroutine).idx = q.id := rfl
    simp only [resumeCoroutine, hfind, hstate, htask, hidx, hw₁]
  · have hsched : w₁.app.scheduler = w.app.scheduler.enter q.id q.coroutine := hk.scheduler
    rw [hsched]
    exact hk.setScheduler (w.app.scheduler.finished q.id q.coroutine)

/-- The end of `Resume` after a coroutine is gone. -/
theorem forget_of_gone {r : RpcPtr} {crid : Int} {rpc : EasyRpc}
    (hgone : w.app.scheduler.find crid = none) (hrpc : w.app.rpcs r = some rpc) :
    w.forget r crid = { w with app := { w.app with
      rpcs := Function.update w.app.rpcs r (some { rpc with
        cridList := EasyRpc.removeByCoroutineId crid rpc.cridList }) } } := by
  simp only [forget, CoroutineScheduler.coroutineBeenAlive, hgone, Bool.false_eq_true, if_false,
    RpcState.modifyRpc, hrpc]

/-- `Resume` once the buffer has been read as a message. -/
theorem resume_of_read {r : RpcPtr} {rpc : EasyRpc} {data : List UInt8} {size : Nat}
    {msg : RpcMessage} (hrpc : w.app.rpcs r = some rpc)
    (hread : proto.unpackToRpcMsg data size w.app.rpcMsg = (0, msg)) {crid : Int}
    (hcrid : EasyRpc.getCoroutineIdxByAsyncId msg.asyncid rpc.cridList = crid) :
    resume proto user r data size w =
      if w.app.scheduler.coroutineBeenAlive crid then
        (resumeCoroutine proto user { w with app := w.app.heard r msg } crid).map
          fun w' => (0, w'.forget r crid)
      else some (0, { w with app := w.app.heard r msg }.forget r crid) := by
  subst hcrid
  simp only [resume, hrpc, hread, ne_eq, not_true_eq_false, if_false, RpcState.heard]
  split_ifs
  · split <;> simp_all
  · rfl

/-- The assertion that the response is not null. -/
theorem resumeCoroutine_null {q : RpcTicket} (hfind : w.app.scheduler.find q.id = some q.coroutine)
    (hresponse : q.val.response = none) : resumeCoroutine proto user w q.id = none := by
  have hstate : (q.coroutine).state = .suspend := rfl
  have htask : (q.coroutine).task = q.val := rfl
  simp only [resumeCoroutine, hfind, hstate, htask, rpcFunctionReply, hresponse]

variable (user) in
/-- What `Resume` does with a buffer: it does not read as a message, or the message is for no
call that waits, or it is for one, and the callback of that call is called. -/
theorem resume_cases (h : RpcInv proto w.app) {r : RpcPtr} {rpc : EasyRpc}
    (hrpc : w.app.rpcs r = some rpc) (data : List UInt8) (size : Nat) :
    ∃ ret msg, proto.unpackToRpcMsg data size w.app.rpcMsg = (ret, msg) ∧
      ((ret ≠ 0 ∧ resume proto user r data size w =
          some (-1, { w with app := { w.app with rpcMsg := msg } })) ∨
        (ret = 0 ∧ (Exchange.after w.app.log).waiting.find? (·.takes r msg.asyncid) = none ∧
          resume proto user r data size w = some (0, { w with app := w.app.heard r msg })) ∨
        ∃ q : RpcTicket, ret = 0 ∧
          (Exchange.after w.app.log).waiting.find? (·.takes r msg.asyncid) = some q ∧
          ((q.val.response = none ∧ resume proto user r data size w = none) ∨
            ∃ w', resume proto user r data size w = some (0, w') ∧
              (w.app.answer (w.app.scheduler.finished q.id q.coroutine) r rpc q msg
                (q.reply proto msg)).Keeps w'.app)) := by
  rcases hun : proto.unpackToRpcMsg data size w.app.rpcMsg with ⟨ret, msg⟩
  refine ⟨ret, msg, rfl, ?_⟩
  by_cases hret : ret ≠ 0
  · exact .inl ⟨hret, by simp only [resume, hrpc, hun, if_pos hret]⟩
  have hcrid := h.getCoroutineIdx hrpc msg.asyncid
  refine .inr ?_
  rw [ne_eq, not_not] at hret
  subst hret
  obtain ⟨w₁, hw₁⟩ : ∃ w₁ : RpcWorld υ Msg γ, { w with app := w.app.heard r msg } = w₁ := ⟨_, rfl⟩
  have hrpc₁ : w₁.app.rpcs r = some rpc := by rw [← hw₁]; exact hrpc
  rcases hq : (Exchange.after w.app.log).waiting.find? (·.takes r msg.asyncid) with _ | q
  · rw [hq, Option.elim_none] at hcrid
    refine .inl ⟨rfl, hq, ?_⟩
    have hsame : EasyRpc.removeByCoroutineId (-1) rpc.cridList = rpc.cridList := by
      rw [h.lists hrpc, EasyRpc.removeByCoroutineId_neg]
    have hgone : w₁.app.scheduler.find (-1) = none := by rw [← hw₁]; exact h.find_neg
    have halive : w.app.scheduler.coroutineBeenAlive (-1) = false := by
      rw [CoroutineScheduler.coroutineBeenAlive, h.find_neg]
    rw [resume_of_read hrpc hun hcrid, halive, hw₁, forget_of_gone hgone hrpc₁, hsame, ← hrpc₁,
      Function.update_eq_self]
    rfl
  · rw [hq, Option.elim_some] at hcrid
    have hfind := h.find_waiting (List.mem_of_find?_eq_some hq)
    have hfind₁ : w₁.app.scheduler.find q.id = some (RpcTicket.coroutine q) := by
      rw [← hw₁]; exact hfind
    have halive : w.app.scheduler.coroutineBeenAlive q.id = true := by
      rw [CoroutineScheduler.coroutineBeenAlive, hfind]
      rfl
    refine .inr ⟨q, rfl, hq, ?_⟩
    rw [resume_of_read hrpc hun hcrid, halive, hw₁, if_pos rfl]
    cases hresponse : q.val.response with
    | none => exact .inl ⟨rfl, by rw [resumeCoroutine_null hfind₁ hresponse]; rfl⟩
    | some response =>
      obtain ⟨w₂, hw₂, hk⟩ := resumeCoroutine_suspend proto user hfind₁ hresponse
      have hgone : w₂.app.scheduler.find q.id = none := by
        rw [hk.scheduler]
        exact w₁.app.scheduler.find_finished_self rfl
      have hlt : r < w₁.app.nextRpc := by rw [← hw₁]; exact h.bounded hrpc
      have hrpc₂ : w₂.app.rpcs r = some rpc := (hk.rpcs r hlt).trans hrpc₁
      refine .inr ⟨w₂.forget r q.id, by rw [hw₂]; rfl, ?_⟩
      rw [forget_of_gone hgone hrpc₂]
      rw [← hw₁] at hk hlt
      exact hk.setRpc hlt { rpc with cridList := EasyRpc.removeByCoroutineId q.id rpc.cridList }

/-! ## Every event -/

/-- `CreateRpc` makes an `EasyRpc` without calls, at an address not in use, or none. -/
theorem createRpc_keeps (w : RpcWorld υ Msg γ) (type : Int) (connect : Option Int) (newOk : Bool) :
    w.app.Keeps (w.createRpc type connect newOk).2.app := by
  have happ : (w.createBackEnd type connect).2.app = w.app := by
    unfold createBackEnd
    split
    · rfl
    · split <;> rfl
  unfold createRpc
  rcases hb : w.createBackEnd type connect with ⟨net, w₁⟩
  rw [hb] at happ
  cases net with
  | none => exact happ ▸ .refl _
  | some net =>
    cases newOk with
    | false =>
      have hdestroy : (w₁.destroyBackEnd (some net)).app = w₁.app := rfl
      exact happ ▸ hdestroy ▸ .refl _
    | true =>
      have hbind : (w₁.setRpcBinded net w₁.app.nextRpc).app = w₁.app := by
        unfold setRpcBinded
        split <;> rfl
      dsimp only
      rw [hbind, happ]
      exact .create w.app (some net)

/-- In any state `ResumeCoroutine` only runs and ends coroutines. -/
theorem resumeCoroutine_within {w' : RpcWorld υ Msg γ} {cid : Int}
    (h : resumeCoroutine proto user w cid = some w') :
    w'.app.scheduler.Within w.app.scheduler ∧ w'.app.nextCtx = w.app.nextCtx := by
  unfold resumeCoroutine at h
  split at h
  · cases h; exact ⟨.refl _, rfl⟩
  · next ctx hfind =>
    obtain ⟨w₁, hw₁⟩ : ∃ w₁, w.setScheduler (w.app.scheduler.enter cid ctx) = w₁ := ⟨_, rfl⟩
    have henter : w₁.app.scheduler.Within w.app.scheduler := hw₁ ▸ .enter hfind
    have hctx : w₁.app.nextCtx = w.app.nextCtx := by rw [← hw₁]; rfl
    simp only [hw₁] at h
    split at h
    · split_ifs at h
      have hkeep : (rpcFunctionRequest proto ctx.task w₁).2.app.scheduler = w₁.app.scheduler ∧
          (rpcFunctionRequest proto ctx.task w₁).2.app.nextCtx = w₁.app.nextCtx := by
        unfold rpcFunctionRequest
        split <;> exact ⟨rfl, rfl⟩
      rcases hr : rpcFunctionRequest proto ctx.task w₁ with ⟨yields, w₂⟩
      rw [hr] at h hkeep
      have hw₂ : w₂.app.scheduler.Within w.app.scheduler := hkeep.1 ▸ henter
      cases yields <;> cases h
      · exact ⟨(CoroutineScheduler.Within.reap _ _).trans
          ((CoroutineScheduler.Within.conclude _ _).trans hw₂), hkeep.2.trans hctx⟩
      · exact ⟨(CoroutineScheduler.Within.reap _ _).trans
          ((CoroutineScheduler.Within.yieldCoroutine _).trans hw₂), hkeep.2.trans hctx⟩
    · rcases hr : rpcFunctionReply proto user ctx.task w₁ with _ | w₂
      · rw [hr] at h; cases h
      · have hkeep : w₂.app.scheduler = w₁.app.scheduler ∧ w₂.app.nextCtx = w₁.app.nextCtx := by
          unfold rpcFunctionReply at hr
          split at hr
          · cases hr
          · cases hr
            exact ⟨(user.onReply_keeps _ _ _).scheduler, (user.onReply_keeps _ _ _).nextCtx⟩
        rw [hr] at h
        cases h
        have hw₂ : w₂.app.scheduler.Within w.app.scheduler := hkeep.1 ▸ henter
        exact ⟨(CoroutineScheduler.Within.reap _ _).trans
          ((CoroutineScheduler.Within.conclude _ _).trans hw₂), hkeep.2.trans hctx⟩
    · cases h; exact ⟨.refl _, rfl⟩
    · cases h

theorem resume_within {w' : RpcWorld υ Msg γ} {r : RpcPtr} {data : List UInt8} {size : Nat}
    {ret : Int} (h : resume proto user r data size w = some (ret, w')) :
    w'.app.scheduler.Within w.app.scheduler ∧ w'.app.nextCtx = w.app.nextCtx := by
  have hforget : ∀ (w : RpcWorld υ Msg γ) crid, (w.forget r crid).app.scheduler = w.app.scheduler ∧
      (w.forget r crid).app.nextCtx = w.app.nextCtx := by
    intro w crid
    unfold forget
    split_ifs
    · exact ⟨rfl, rfl⟩
    · dsimp only
      unfold RpcState.modifyRpc
      split <;> exact ⟨rfl, rfl⟩
  cases hrpc : w.app.rpcs r with
  | none =>
    simp only [resume, hrpc] at h
    cases h
    exact ⟨.refl _, rfl⟩
  | some rpc =>
    rcases hun : proto.unpackToRpcMsg data size w.app.rpcMsg with ⟨ret₁, msg⟩
    by_cases hret : ret₁ = 0
    · subst hret
      rw [resume_of_read hrpc hun rfl] at h
      split_ifs at h
      · obtain ⟨w₁, hres, heq⟩ := Option.map_eq_some_iff.mp h
        cases heq
        obtain ⟨hwithin, hctx⟩ := resumeCoroutine_within hres
        exact ⟨(hforget w₁ _).1 ▸ hwithin, (hforget w₁ _).2.trans hctx⟩
      · cases h
        obtain ⟨h₁, h₂⟩ := hforget { w with app := w.app.heard r msg }
          (EasyRpc.getCoroutineIdxByAsyncId msg.asyncid rpc.cridList)
        exact ⟨h₁ ▸ .refl _, h₂⟩
    · simp only [resume, hrpc, hun, ne_eq, hret, not_false_eq_true, if_true] at h
      cases h
      exact ⟨.refl _, rfl⟩

end World

/-- An event that is not a call creates no coroutine and keeps the tasks of those there are. -/
theorem rpcStep_within {proto : RpcProto Msg} {user : RpcUser υ Msg γ} {w w' : RpcWorld υ Msg γ}
    {e : RpcEvent γ} (he : ∀ r a, e ≠ .call r a) (h : rpcStep proto user w e = some w') :
    w'.app.scheduler.Within w.app.scheduler ∧ w'.app.nextCtx = w.app.nextCtx := by
  have hkept : ∀ {s : RpcState υ Msg}, w.app.Keeps s →
      s.scheduler.Within w.app.scheduler ∧ s.nextCtx = w.app.nextCtx :=
    fun hk => ⟨hk.scheduler ▸ .refl _, hk.nextCtx⟩
  cases e with
  | createRpc type connect newOk =>
    cases h
    exact hkept (w.createRpc_keeps type connect newOk)
  | call r a => exact absurd rfl (he r a)
  | frame p data size =>
    simp only [rpcStep, World.serveBackEnd] at h
    split at h
    · split_ifs at h
      · obtain ⟨⟨ret, w₁⟩, hres, rfl⟩ := Option.map_eq_some_iff.mp h
        exact World.resume_within hres
      · cases h
        exact hkept (user.onRecvBackEnd_keeps _ _ _ _ _)
    · cases h
      exact hkept (user.onRecvBackEnd_keeps _ _ _ _ _)
  | user k =>
    cases h
    exact hkept (user.act_keeps k w)
  | connections heap frontend backend =>
    cases h
    exact ⟨.refl _, rfl⟩

namespace World

variable {proto : RpcProto Msg} {user : RpcUser υ Msg γ} {w : RpcWorld υ Msg γ}

/-- `ResumeCoroutine` leaves the scheduler the machine of contexts arrives at when the coroutine
yields or its function returns, and control is back in the main context then. -/
theorem resumeCoroutine_machine {w' : RpcWorld υ Msg γ} {m : Machine RpcContext} (hm : m.OneDeep)
    (hcur : m.cur = .main) (hsched : m.sched = w.app.scheduler) {cid : Int}
    {ctx : CoroutineCtx RpcContext} (hfind : w.app.scheduler.find cid = some ctx) (hcid : 0 ≤ cid)
    (hstate : ctx.state = .ready ∨ ctx.state = .suspend)
    (h : resumeCoroutine proto user w cid = some w') :
    ∃ stop m', Run.run Machine.step m [.resume cid, stop] = some m' ∧ m'.cur = .main ∧
      m'.sched = w'.app.scheduler := by
  have hidx : ctx.idx = cid := hm.idx (by rw [hsched]; exact hfind)
  have hyield := Machine.run_resume_yield hm hcur (by rw [hsched]; exact hfind) hcid hstate
  have hfinish := Machine.run_resume_finish hm hcur (by rw [hsched]; exact hfind) hcid hstate
  rw [hsched] at hyield hfinish
  obtain ⟨w₁, hw₁⟩ : ∃ w₁, w.setScheduler (w.app.scheduler.enter cid ctx) = w₁ := ⟨_, rfl⟩
  have hw₁_sched : w₁.app.scheduler = w.app.scheduler.enter cid ctx := by rw [← hw₁]; rfl
  unfold resumeCoroutine at h
  rw [hfind] at h
  simp only [hw₁] at h
  rcases hstate with hready | hsuspend
  · simp only [hready, hidx, if_neg (not_lt.mpr hcid)] at h
    rcases hr : rpcFunctionRequest proto ctx.task w₁ with ⟨yields, w₂⟩
    have hw₂ : w₂.app.scheduler = w₁.app.scheduler := by
      have hkeep : (rpcFunctionRequest proto ctx.task w₁).2.app.scheduler = w₁.app.scheduler := by
        unfold rpcFunctionRequest
        split <;> rfl
      rwa [hr] at hkeep
    rw [hr] at h
    cases yields with
    | true =>
      cases h
      obtain ⟨m', hrun, hcur', hsched'⟩ := hyield
      exact ⟨.yield, m', hrun, hcur', by rw [hsched', ← hw₁_sched, ← hw₂]; rfl⟩
    | false =>
      cases h
      obtain ⟨m', hrun, hcur', hsched'⟩ := hfinish
      exact ⟨.finish, m', hrun, hcur', by rw [hsched', ← hw₁_sched, ← hw₂, hidx]; rfl⟩
  · simp only [hsuspend, hidx] at h
    rcases hr : rpcFunctionReply proto user ctx.task w₁ with _ | w₂
    · rw [hr] at h; cases h
    · have hw₂ : w₂.app.scheduler = w₁.app.scheduler := by
        unfold rpcFunctionReply at hr
        split at hr
        · cases hr
        · cases hr
          exact (user.onReply_keeps _ _ _).scheduler
      rw [hr] at h
      cases h
      obtain ⟨m', hrun, hcur', hsched'⟩ := hfinish
      exact ⟨.finish, m', hrun, hcur', by rw [hsched', ← hw₁_sched, ← hw₂, hidx]; rfl⟩

end World

end Rapidapp
