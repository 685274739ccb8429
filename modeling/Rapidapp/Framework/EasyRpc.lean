import Rapidapp.Misc.Exchange
import Rapidapp.Coroutine.Scheduler
import Rapidapp.Framework.MessageReflection
import Rapidapp.Framework.FrameLoop

/-!
# EasyRpc: calls that wait for their reply in a coroutine

`framework/rapidapp_easy_rpc.{h,cpp}`. `RpcCall` creates a coroutine with `RpcFunction`, which
sends the request and yields; `Resume` finds the coroutine by the asyncid of a message and goes
on with `RpcFunction`, which calls the callback. The state of this part of the framework is an
`RpcState`, the application state of a `World`.

`RpcFunction` is given in its two halves, before and after `YieldCoroutine`. `RpcCall` and
`Resume` run in the main context, so `ResumeCoroutine` returns to them when `RpcFunction` yields
or returns, and what it leaves is the scheduler that `Coroutine.Machine` arrives at
(`Machine.run_resume_yield`, `Machine.run_resume_finish`).
-/

namespace Rapidapp

/-- `RPC_CONTEXT` (`rapidapp_easy_rpc.cpp:120-126`) with its address. -/
structure RpcContext where
  addr : Nat
  callback : Nat
  rpcStub : RpcPtr
  request : MessageRef
  response : Option MessageRef
  arg : Nat
  deriving DecidableEq, Repr

/-- `CoroutinePair` (`rapidapp_easy_rpc.h:85-88`). -/
structure CoroutinePair where
  crid : Int
  asyncid : Nat
  deriving DecidableEq, Repr

/-- `class EasyRpc` (`rapidapp_easy_rpc.h:51-95`). `Init` sets `net_` and `scheduler_` together;
`binding` is the former, and `none` stands for two null pointers. -/
structure EasyRpc where
  binding : Option NetPtr
  cridList : List CoroutinePair
  deriving DecidableEq, Repr

/-- The callback of a call is called. -/
structure RpcReply where
  ctx : RpcContext
  status : Int
  deriving DecidableEq, Repr

/-- What `EasyRpc` works on: the protobuf objects of the application, the scheduler
`rpc_scheduler_`, the static `asyncid_seed`, `buf` and `rpc_msg_`, and the `EasyRpc` objects.
`log` and `replies` are ghosts: the requests made and the messages passed to `Resume`, and the
callbacks called. -/
structure RpcState (υ Msg : Type) where
  user : υ
  messages : Nat → Msg
  scheduler : CoroutineScheduler RpcContext
  asyncidSeed : Nat
  buf : List UInt8
  rpcMsg : RpcMessage
  rpcs : RpcPtr → Option EasyRpc
  nextRpc : RpcPtr
  nextCtx : Nat
  log : List (Exchange.Event RpcPtr Nat RpcContext RpcMessage)
  replies : List RpcReply

/-- A process whose application state is an `RpcState`. -/
abbrev RpcWorld (υ Msg γ : Type) := World (RpcState υ Msg) γ

variable {υ Msg γ : Type}

namespace EasyRpc

/-- `EasyRpc::RemoveByCoroutineId` (`rapidapp_easy_rpc.cpp:269-280`). -/
def removeByCoroutineId (crid : Int) : List CoroutinePair → List CoroutinePair
  | [] => []
  | cp :: rest => if cp.crid = crid then rest else cp :: removeByCoroutineId crid rest

/-- `EasyRpc::GetCoroutineIdxByAsyncId` (`rapidapp_easy_rpc.cpp:282-294`). -/
def getCoroutineIdxByAsyncId (asyncid : Nat) : List CoroutinePair → Int
  | [] => -1
  | cp :: rest => if cp.asyncid = asyncid then cp.crid else getCoroutineIdxByAsyncId asyncid rest

end EasyRpc

namespace RpcState

/-- Before there is any `EasyRpc`. -/
def init (user : υ) (messages : Nat → Msg) (cocurrentNum : Int) : RpcState υ Msg where
  user := user
  messages := messages
  scheduler := .init cocurrentNum
  asyncidSeed := 0
  buf := []
  rpcMsg := ⟨magicRpcstampV1, 0, 0, [], none, []⟩
  rpcs := fun _ => none
  nextRpc := 0
  nextCtx := 0
  log := []
  replies := []

/-- Change an `EasyRpc` through a pointer; nothing happens for a dangling one. -/
def modifyRpc (s : RpcState υ Msg) (r : RpcPtr) (f : EasyRpc → EasyRpc) : RpcState υ Msg :=
  match s.rpcs r with
  | none => s
  | some rpc => { s with rpcs := Function.update s.rpcs r (some (f rpc)) }

/-- What application code leaves alone unless it calls `RpcCall`: all that is private to
`EasyRpc` and the scheduler. It may create further `EasyRpc` objects. -/
structure Keeps (s s' : RpcState υ Msg) : Prop where
  scheduler : s'.scheduler = s.scheduler
  asyncidSeed : s'.asyncidSeed = s.asyncidSeed
  buf : s'.buf = s.buf
  nextCtx : s'.nextCtx = s.nextCtx
  log : s'.log = s.log
  replies : s'.replies = s.replies
  nextRpc : s.nextRpc ≤ s'.nextRpc
  rpcs : ∀ r, r < s.nextRpc → s'.rpcs r = s.rpcs r
  created : ∀ r rpc, s.nextRpc ≤ r → s'.rpcs r = some rpc →
    s.rpcs r = some rpc ∨ (r < s'.nextRpc ∧ rpc.cridList = [])

theorem Keeps.refl (s : RpcState υ Msg) : s.Keeps s :=
  ⟨rfl, rfl, rfl, rfl, rfl, rfl, le_rfl, fun _ _ => rfl, fun _ _ _ h => .inl h⟩

/-- A new `EasyRpc` without calls. -/
theorem Keeps.create (s : RpcState υ Msg) (binding : Option NetPtr) :
    s.Keeps { s with
      rpcs := Function.update s.rpcs s.nextRpc (some ⟨binding, []⟩)
      nextRpc := s.nextRpc + 1 } := by
  refine ⟨rfl, rfl, rfl, rfl, rfl, rfl, Nat.le_succ _, fun r hr => ?_, fun r rpc hr h => ?_⟩
  · exact Function.update_of_ne (Nat.ne_of_lt hr) _ _
  · by_cases heq : r = s.nextRpc
    · subst heq
      simp only [Function.update_self, Option.some.injEq] at h
      exact .inr ⟨Nat.lt_succ_self _, by rw [← h]⟩
    · exact .inl ((Function.update_of_ne heq _ _).symm.trans h)

/-- The protobuf objects are the application's. -/
theorem Keeps.of_messages {s s' : RpcState υ Msg} {messages : Nat → Msg}
    (h : Keeps { s with messages := messages } s') : s.Keeps s' :=
  ⟨h.scheduler, h.asyncidSeed, h.buf, h.nextCtx, h.log, h.replies, h.nextRpc, h.rpcs, h.created⟩

theorem Keeps.setScheduler {s s' : RpcState υ Msg} (h : s.Keeps s')
    (scheduler : CoroutineScheduler RpcContext) :
    Keeps { s with scheduler := scheduler } { s' with scheduler := scheduler } :=
  ⟨rfl, h.asyncidSeed, h.buf, h.nextCtx, h.log, h.replies, h.nextRpc, h.rpcs, h.created⟩

theorem Keeps.setRpc {s s' : RpcState υ Msg} (h : s.Keeps s') {r : RpcPtr} (hr : r < s.nextRpc)
    (rpc : EasyRpc) :
    Keeps { s with rpcs := Function.update s.rpcs r (some rpc) }
      { s' with rpcs := Function.update s'.rpcs r (some rpc) } := by
  refine ⟨h.scheduler, h.asyncidSeed, h.buf, h.nextCtx, h.log, h.replies, h.nextRpc,
    fun r' hr' => ?_, fun r' rpc' hr' hrpc' => ?_⟩
  · by_cases heq : r' = r
    · rw [heq]; simp only [Function.update_self]
    · simp only [Function.update_of_ne heq]
      exact h.rpcs r' hr'
  · have hne : r' ≠ r := fun heq => absurd hr (not_lt.mpr (heq ▸ hr'))
    have hcreated := h.created r' rpc' hr' ((Function.update_of_ne hne _ _).symm.trans hrpc')
    exact hcreated.imp_left (Function.update_of_ne hne _ _).trans

end RpcState

/-- The application: the handlers the framework calls, what the callbacks of its rpc calls do,
and what it does at other times. A handler that calls `RpcCall` counts as what it does before
the call, the call, and what it does after it. No callback destroys an `EasyRpc`. -/
structure RpcUser (υ Msg γ : Type) where
  app : App (RpcState υ Msg) γ
  onReply : RpcContext → Int → RpcWorld υ Msg γ → RpcWorld υ Msg γ
  onReply_api : ∀ ctx status w, World.ApiReach w (onReply ctx status w)
  onReply_keeps : ∀ ctx status (w : RpcWorld υ Msg γ), w.app.Keeps (onReply ctx status w).app
  onRecvBackEnd_keeps : ∀ p type data size (w : RpcWorld υ Msg γ),
    w.app.Keeps (app.onRecvBackEnd p type data size w).2.app
  act : Nat → RpcWorld υ Msg γ → RpcWorld υ Msg γ
  act_keeps : ∀ k (w : RpcWorld υ Msg γ), w.app.Keeps (act k w).app

/-- The status a callback is given: whether the message is an error, and else whether it parses
into the response. -/
def replyStatus (proto : RpcProto Msg) (response : MessageRef) (msg : RpcMessage) : Int :=
  if msg.msgType = rpcTypeError then -1
  else if (proto.parseFromString response.typeName msg.msgBin).1 then 0 else -1

namespace World

/-- The scheduler is now this one. -/
def setScheduler (w : RpcWorld υ Msg γ) (s : CoroutineScheduler RpcContext) : RpcWorld υ Msg γ :=
  { w with app := { w.app with scheduler := s } }

/-- `EasyRpc::RpcFunction` up to its `YieldCoroutine` (`rapidapp_easy_rpc.cpp:203-237`), or up to
the return it makes before that, for which the answer is `false`. -/
def rpcFunctionRequest (proto : RpcProto Msg) (ctx : RpcContext) (w : RpcWorld υ Msg γ) :
    Bool × RpcWorld υ Msg γ :=
  match (w.app.rpcs ctx.rpcStub).bind (·.binding) with
  | none => (false, w)
  | some net =>
    let asyncid := w.app.asyncidSeed
    let buf := (proto.messageToBinary rpcTypeRequest asyncid ctx.request.typeName
      (w.app.messages ctx.request.addr) w.app.buf).2
    (true, { w with
      heap := (w.heap.send net buf).2
      app := { w.app with
        asyncidSeed := CInt.uint64 (asyncid + 1)
        buf := buf
        log := w.app.log ++ [.issue ⟨ctx.rpcStub, asyncid, ctx⟩] } })

/-- `EasyRpc::RpcFunction` after its `YieldCoroutine` (`rapidapp_easy_rpc.cpp:239-266`). `none` is
the failed assertion of a response that is not null. -/
def rpcFunctionReply (proto : RpcProto Msg) (user : RpcUser υ Msg γ) (ctx : RpcContext)
    (w : RpcWorld υ Msg γ) : Option (RpcWorld υ Msg γ) :=
  match ctx.response with
  | none => none
  | some response =>
    let status := replyStatus proto response w.app.rpcMsg
    let messages :=
      if w.app.rpcMsg.msgType = rpcTypeError then w.app.messages
      else Function.update w.app.messages response.addr
        (proto.parseFromString response.typeName w.app.rpcMsg.msgBin).2
    some (user.onReply ctx status
      { w with app := { w.app with
          messages := messages
          replies := w.app.replies ++ [⟨ctx, status⟩] } })

/-- `CoroutineScheduler::ResumeCoroutine` (`mc_coroutine.cpp:127-180`) called from the main
context, where every coroutine runs `RpcFunction`. `none` is a failed assertion. -/
def resumeCoroutine (proto : RpcProto Msg) (user : RpcUser υ Msg γ) (w : RpcWorld υ Msg γ)
    (cid : Int) : Option (RpcWorld υ Msg γ) :=
  match w.app.scheduler.find cid with
  | none => some w
  | some ctx =>
    let entered := w.setScheduler (w.app.scheduler.enter cid ctx)
    match ctx.state with
    | .ready =>
      if ctx.idx < 0 then none
      else
        match rpcFunctionRequest proto ctx.task entered with
        | (true, w) => some (w.setScheduler (w.app.scheduler.yieldCoroutine.reap cid))
        | (false, w) => some (w.setScheduler ((w.app.scheduler.conclude ctx.idx).reap cid))
    | .suspend =>
      match rpcFunctionReply proto user ctx.task entered with
      | none => none
      | some w => some (w.setScheduler ((w.app.scheduler.conclude ctx.idx).reap cid))
    | .running => some w
    | .done => none

/-- The arguments of a call of `RpcCall`, and whether `new` and `calloc` find memory. -/
structure RpcArgs where
  request : Option MessageRef
  response : Option MessageRef
  callback : Option Nat
  arg : Nat
  newOk : Bool
  callocOk : Bool
  deriving DecidableEq, Repr

/-- `EasyRpc::RpcCall` (`rapidapp_easy_rpc.cpp:158-201`). A dangling `r` has no defined behaviour
in the source; the call is refused for it. -/
def rpcCall (proto : RpcProto Msg) (user : RpcUser υ Msg γ) (w : RpcWorld υ Msg γ) (r : RpcPtr)
    (a : RpcArgs) : Option (Int × RpcWorld υ Msg γ) :=
  match a.request, a.callback with
  | some request, some callback =>
    match (w.app.rpcs r).bind (·.binding) with
    | none => some (-1, w)
    | some _ =>
      if !a.newOk then some (-1, w)
      else
        let context : RpcContext := ⟨w.app.nextCtx, callback, r, request, a.response, a.arg⟩
        let (cid, scheduler) := w.app.scheduler.createCoroutine (some context) a.callocOk
        let w := { w with
          app := { w.app with scheduler := scheduler, nextCtx := w.app.nextCtx + 1 } }
        if cid < 0 then some (-1, w)
        else
          let cp : CoroutinePair := ⟨cid, w.app.asyncidSeed⟩
          let w := { w with
            app := w.app.modifyRpc r fun rpc => { rpc with cridList := rpc.cridList ++ [cp] } }
          (resumeCoroutine proto user w cid).map fun w => (0, w)
  | _, _ => some (-1, w)

/-- `EasyRpc::IsActive`. -/
def rpcIsActive (r : RpcPtr) (w : RpcWorld υ Msg γ) : Bool :=
  match w.app.rpcs r with
  | none => false
  | some rpc => !rpc.cridList.isEmpty

/-- The end of `EasyRpc::Resume` (`rapidapp_easy_rpc.cpp:318-321`). -/
def forget (r : RpcPtr) (crid : Int) (w : RpcWorld υ Msg γ) : RpcWorld υ Msg γ :=
  if w.app.scheduler.coroutineBeenAlive crid then w
  else
    { w with app := w.app.modifyRpc r fun rpc =>
        { rpc with cridList := EasyRpc.removeByCoroutineId crid rpc.cridList } }

/-- `EasyRpc::Resume` (`rapidapp_easy_rpc.cpp:296-324`) for a buffer that is not null. -/
def resume (proto : RpcProto Msg) (user : RpcUser υ Msg γ) (r : RpcPtr) (data : List UInt8)
    (size : Nat) (w : RpcWorld υ Msg γ) : Option (Int × RpcWorld υ Msg γ) :=
  match w.app.rpcs r with
  | none => some (-1, w)
  | some rpc =>
    let (ret, msg) := proto.unpackToRpcMsg data size w.app.rpcMsg
    let w := { w with app := { w.app with rpcMsg := msg } }
    if ret ≠ 0 then some (-1, w)
    else
      let w := { w with app := { w.app with log := w.app.log ++ [.hear r msg.asyncid msg] } }
      let crid := EasyRpc.getCoroutineIdxByAsyncId msg.asyncid rpc.cridList
      if w.app.scheduler.coroutineBeenAlive crid then
        match resumeCoroutine proto user w crid with
        | none => none
        | some w => some (0, w.forget r crid)
      else some (0, w.forget r crid)

/-- `AppFrameWork::CreateRpc` (`rapidapp_framework_imp.cpp:1481-1518`); `rpc_scheduler_` was made
at the start. `newOk` is whether `new` finds memory for the `EasyRpc`. -/
def createRpc (w : RpcWorld υ Msg γ) (type : Int) (connect : Option Int) (newOk : Bool) :
    Option RpcPtr × RpcWorld υ Msg γ :=
  match w.createBackEnd type connect with
  | (none, w) => (none, w)
  | (some net, w) =>
    if newOk then
      let r := w.app.nextRpc
      let w := w.setRpcBinded net r
      (some r, { w with app := { w.app with
        rpcs := Function.update w.app.rpcs r (some ⟨some net, []⟩)
        nextRpc := r + 1 } })
    else (none, w.destroyBackEnd (some net))

/-- A frame on a backend connection is served (`rapidapp_framework_imp.cpp:1242-1262`). -/
def serveBackEnd (proto : RpcProto Msg) (user : RpcUser υ Msg γ) (p : NetPtr) (data : List UInt8)
    (size : Nat) (w : RpcWorld υ Msg γ) : Option (RpcWorld υ Msg γ) :=
  let net := w.heap.nets p
  let type := (net.map (·.netType)).getD 0
  match net.bind (·.rpcBinded) with
  | some r =>
    if rpcIsActive r w then (resume proto user r data size w).map (·.2)
    else some (user.app.onRecvBackEnd p type data size w).2
  | none => some (user.app.onRecvBackEnd p type data size w).2

end World

/-- What can happen next: an `EasyRpc` is made, a call, a frame on a connection, other application
code, or anything at all to the connections. -/
inductive RpcEvent (γ : Type) where
  | createRpc (type : Int) (connect : Option Int) (newOk : Bool)
  | call (r : RpcPtr) (args : World.RpcArgs)
  | frame (p : NetPtr) (data : List UInt8) (size : Nat)
  | user (k : Nat)
  | connections (heap : Heap γ) (frontend backend : NetHandlerMgr)

/-- One event. `none` is a failed assertion. -/
def rpcStep (proto : RpcProto Msg) (user : RpcUser υ Msg γ) (w : RpcWorld υ Msg γ) :
    RpcEvent γ → Option (RpcWorld υ Msg γ)
  | .createRpc type connect newOk => some (w.createRpc type connect newOk).2
  | .call r args => (w.rpcCall proto user r args).map (·.2)
  | .frame p data size => w.serveBackEnd proto user p data size
  | .user k => some (user.act k w)
  | .connections heap frontend backend =>
    some { w with
      heap := heap, frontendHandlerMgr := frontend, backendHandlerMgr := backend }

/-! ## In the frame loop

What `Resume` does is within the reach of `IFrameWork`, so it may be the `rpcResume` of an `App`,
and then the body of `OnBackEndMsg` serves frames by `serveBackEnd`. -/

namespace World

theorem rpcFunctionRequest_api (proto : RpcProto Msg) (ctx : RpcContext) (w : RpcWorld υ Msg γ) :
    ApiReach w (rpcFunctionRequest proto ctx w).2 := by
  unfold rpcFunctionRequest
  split
  · exact .refl
  · next net _ =>
    dsimp only
    generalize (proto.messageToBinary _ _ _ _ _).2 = buf
    have hsend : (w.sendToFrontEnd (some net) buf).2 =
        { w with heap := (w.heap.send net buf).2 } := by
      unfold sendToFrontEnd
      split_ifs with hbuf
      · rw [hbuf]; rfl
      · dsimp only
        rcases w.heap.send net buf with ⟨e, heap⟩
        cases e <;> rfl
    have hstep : ApiStep w { w with heap := (w.heap.send net buf).2 } :=
      hsend ▸ .sendToFrontEnd w (some net) buf
    exact .tail (.single hstep) (.app { w with heap := (w.heap.send net buf).2 } _)

theorem rpcFunctionReply_api {proto : RpcProto Msg} {user : RpcUser υ Msg γ} {ctx : RpcContext}
    {w w' : RpcWorld υ Msg γ} (h : rpcFunctionReply proto user ctx w = some w') :
    ApiReach w w' := by
  unfold rpcFunctionReply at h
  split at h
  · cases h
  · cases h
    exact .head (.app w _) (user.onReply_api _ _ _)

theorem resumeCoroutine_api {proto : RpcProto Msg} {user : RpcUser υ Msg γ}
    {w w' : RpcWorld υ Msg γ} {cid : Int} (h : resumeCoroutine proto user w cid = some w') :
    ApiReach w w' := by
  unfold resumeCoroutine at h
  split at h
  · cases h; exact .refl
  · next ctx _ =>
    dsimp only at h
    have henter : ApiReach w (w.setScheduler (w.app.scheduler.enter cid ctx)) := .single (.app w _)
    split at h
    · split_ifs at h
      have hrequest := rpcFunctionRequest_api proto ctx.task
        (w.setScheduler (w.app.scheduler.enter cid ctx))
      rcases hr : rpcFunctionRequest proto ctx.task
        (w.setScheduler (w.app.scheduler.enter cid ctx)) with ⟨yields, w₁⟩
      rw [hr] at h hrequest
      cases yields <;> cases h <;> exact (henter.trans hrequest).tail (.app w₁ _)
    · rcases hr : rpcFunctionReply proto user ctx.task
        (w.setScheduler (w.app.scheduler.enter cid ctx)) with _ | w₁
      · rw [hr] at h; cases h
      · rw [hr] at h
        cases h
        exact (henter.trans (rpcFunctionReply_api hr)).tail (.app w₁ _)
    · cases h; exact .refl
    · cases h

theorem forget_api (r : RpcPtr) (crid : Int) (w : RpcWorld υ Msg γ) :
    ApiReach w (w.forget r crid) := by
  unfold forget
  split_ifs
  · exact .refl
  · exact .single (.app w _)

theorem resume_api {proto : RpcProto Msg} {user : RpcUser υ Msg γ} {r : RpcPtr}
    {data : List UInt8} {size : Nat} {w w' : RpcWorld υ Msg γ} {ret : Int}
    (h : resume proto user r data size w = some (ret, w')) : ApiReach w w' := by
  unfold resume at h
  split at h
  · cases h; exact .refl
  · next rpc _ =>
    rcases hun : proto.unpackToRpcMsg data size w.app.rpcMsg with ⟨ret₁, msg⟩
    rw [hun] at h
    dsimp only at h
    split at h
    · cases h; exact .single (.app w _)
    · generalize EasyRpc.getCoroutineIdxByAsyncId msg.asyncid rpc.cridList = crid at h
      split at h
      · split at h
        · cases h
        · next w₁ hres =>
          cases h
          exact (Relation.ReflTransGen.head (.app w _) (resumeCoroutine_api hres)).trans
            (forget_api r crid w₁)
      · cases h
        exact .head (.app w _) (forget_api r crid _)

end World

/-- The application with the `EasyRpc` objects as its rpc handlers. -/
def rpcApp (proto : RpcProto Msg) (user : RpcUser υ Msg γ) : App (RpcState υ Msg) γ :=
  { user.app with
    rpcIsActive := World.rpcIsActive
    rpcResume := fun r data size w =>
      ((World.resume proto user r data size w).map (·.2)).getD w
    rpcResume_api := by
      intro r data size w
      rcases h : World.resume proto user r data size w with _ | ⟨ret, w'⟩
      · exact .refl
      · exact World.resume_api h }

/-- The body of `OnBackEndMsg` serves the frame. -/
theorem backEndBody_rpcApp {proto : RpcProto Msg} {user : RpcUser υ Msg γ} {p : NetPtr}
    {buf : List UInt8} {elapsed msglen : Nat} {m : Monitor (RpcState υ Msg) γ}
    {w : RpcWorld υ Msg γ}
    (h : m.world.serveBackEnd proto user p (payloadBytes buf elapsed msglen)
      (payloadSize msglen) = some w) :
    Monitor.backEndBody (rpcApp proto user) p buf elapsed msglen m =
      (((m.touch .backEnd p).hand .backEnd p buf elapsed msglen).goTo w, true) := by
  unfold World.serveBackEnd at h
  unfold Monitor.backEndBody
  dsimp only [Monitor.touch, Monitor.hand, Monitor.goTo] at h ⊢
  rcases hr : (m.world.heap.nets p).bind (·.rpcBinded) with _ | r
  · simp only [hr, Option.some.injEq] at h ⊢
    rw [← h]
    rfl
  · simp only [hr] at h ⊢
    have hact : (rpcApp proto user).rpcIsActive r m.world = World.rpcIsActive r m.world := rfl
    rw [hact]
    by_cases hactive : World.rpcIsActive r m.world = true
    · rw [if_pos hactive] at h ⊢
      simp only [rpcApp, h, Option.getD_some]
    · rw [if_neg hactive] at h ⊢
      cases h
      rfl

end Rapidapp
