import Rapidapp.Framework.RpcTables

/-!
# A process with any number of EasyRpc objects

`EasyRpc` and the scheduler as a whole process uses them, with `DestroyRpc`
(`framework/rapidapp_framework_imp.cpp:1520-1533`) and the loop of `OnBackEndMsg`
(`rapidapp_framework_imp.cpp:1196-1267`) taken one frame at a time. `Resume` is split where
`RpcFunction` calls the callback (`resume_split`), so what a callback does are events of the
process like anything else the application does.

A callback that calls `RpcCall` runs `ResumeCoroutine` in a coroutine. Its call enters the tables
like any other, but then the main context is lost and the callback does not come back; that is
left to `Coroutine.Discipline`, and `callbackReturns` is refused there.
-/

namespace Rapidapp

variable {υ Msg γ : Type}

/-- An application whose handlers do nothing by themselves: what they do are further events. -/
def RpcUser.quiet : RpcUser υ Msg γ where
  app :=
    { onRecvFrontEnd := fun _ _ _ _ w => (0, w)
      onRecvFrontEnd_api := fun _ _ _ _ _ => .refl
      onRecvBackEnd := fun _ _ _ _ w => (0, w)
      onRecvBackEnd_api := fun _ _ _ _ _ => .refl
      spawnMessage := fun _ _ => none
      rpcSvcMgr := none
      rpcIsActive := World.rpcIsActive
      rpcResume := fun _ _ _ w => w
      rpcResume_api := fun _ _ _ _ => .refl }
  onReply _ _ w := w
  onReply_api _ _ _ := .refl
  onReply_keeps _ _ w := .refl w.app
  onRecvBackEnd_keeps _ _ _ _ w := .refl w.app
  act _ w := w
  act_keeps _ w := .refl w.app

/-- A callback that is being run: the `Resume` it is run in, with `rpc` and `crid`, the context
`idx` of `ScheduleFunction` and the arguments of the call. `nested` is whether it has called
`RpcCall`. -/
structure RpcCallback where
  rpc : RpcPtr
  crid : Int
  idx : Int
  task : RpcContext
  status : Int
  nested : Bool
  deriving DecidableEq, Repr

namespace RpcState

/-- `EasyRpc::~EasyRpc` and `delete` (`rapidapp_easy_rpc.cpp:133-142`). -/
def deleteRpc (s : RpcState υ Msg) (r : RpcPtr) (rpc : EasyRpc) : RpcState υ Msg :=
  { s with
    scheduler := rpc.cridList.foldl (fun t cp => t.destroyCoroutine cp.crid) s.scheduler
    rpcs := Function.update s.rpcs r none }

theorem deleteRpc_rpcs (s : RpcState υ Msg) (r : RpcPtr) (rpc : EasyRpc) :
    (s.deleteRpc r rpc).rpcs = Function.update s.rpcs r none := rfl

end RpcState

namespace World

/-- `AppFrameWork::DestroyRpc` (`rapidapp_framework_imp.cpp:1520-1533`). A dangling pointer has no
defined behaviour in the source and is refused. -/
def destroyRpc (w : RpcWorld υ Msg γ) (rpc : Option RpcPtr) : Option (Int × RpcWorld υ Msg γ) :=
  match rpc with
  | none => some (-1, w)
  | some r =>
    match w.app.rpcs r with
    | none => none
    | some easyRpc =>
      let w := w.destroyBackEnd easyRpc.binding
      some (0, { w with app := w.app.deleteRpc r easyRpc })

/-- The part of `EasyRpc::Resume` that resumes (`rapidapp_easy_rpc.cpp:313-321`), up to the
callback or up to its end where no callback is called. -/
def wakeStart (proto : RpcProto Msg) (r : RpcPtr) (crid : Int) (w : RpcWorld υ Msg γ) :
    Option (Option RpcCallback × RpcWorld υ Msg γ) :=
  match w.app.scheduler.find crid with
  | some ⟨idx, .suspend, task⟩ =>
    let status := task.response.elim 0 fun response => replyStatus proto response w.app.rpcMsg
    (rpcFunctionReply proto .quiet task
      (w.setScheduler (w.app.scheduler.enter crid ⟨idx, .suspend, task⟩))).map
        fun w => (some ⟨r, crid, idx, task, status, false⟩, w)
  | _ =>
    -- a coroutine that does not wait for a reply runs no callback
    if w.app.scheduler.coroutineBeenAlive crid then
      (resumeCoroutine proto .quiet w crid).map fun w => (none, w.forget r crid)
    else some (none, w.forget r crid)

/-- `EasyRpc::Resume` up to the callback, or up to its end where no callback is called. -/
def resumeStart (proto : RpcProto Msg) (r : RpcPtr) (data : List UInt8) (size : Nat)
    (w : RpcWorld υ Msg γ) : Option (Option RpcCallback × RpcWorld υ Msg γ) :=
  match w.app.rpcs r with
  | none => some (none, w)
  | some rpc =>
    let (ret, msg) := proto.unpackToRpcMsg data size w.app.rpcMsg
    if ret ≠ 0 then some (none, { w with app := { w.app with rpcMsg := msg } })
    else
      wakeStart proto r (EasyRpc.getCoroutineIdxByAsyncId msg.asyncid rpc.cridList)
        { w with app := w.app.heard r msg }

/-- What is left of `ScheduleFunction`, `ResumeCoroutine` and `EasyRpc::Resume` when the callback
returns (`mc_coroutine.cpp:122-123`, `174-177`, `rapidapp_easy_rpc.cpp:318-323`). -/
def resumeReturn (c : RpcCallback) (w : RpcWorld υ Msg γ) : RpcWorld υ Msg γ :=
  (w.setScheduler ((w.app.scheduler.conclude c.idx).reap c.crid)).forget c.rpc c.crid

/-- `RpcFunction` calls the callback at its end. -/
theorem rpcFunctionReply_split (proto : RpcProto Msg) (user : RpcUser υ Msg γ) (ctx : RpcContext)
    (w : RpcWorld υ Msg γ) :
    rpcFunctionReply proto user ctx w = (rpcFunctionReply proto .quiet ctx w).map
      (user.onReply ctx (ctx.response.elim 0 fun response =>
        replyStatus proto response w.app.rpcMsg)) := by
  unfold rpcFunctionReply
  cases ctx.response with
  | none => rfl
  | some response => rfl

/-- Only a coroutine that waits for its reply depends on what callbacks do. -/
theorem resumeCoroutine_quiet {proto : RpcProto Msg} {user : RpcUser υ Msg γ}
    {w : RpcWorld υ Msg γ} {cid : Int}
    (h : ∀ ctx, w.app.scheduler.find cid = some ctx → ctx.state ≠ .suspend) :
    resumeCoroutine proto user w cid = resumeCoroutine proto .quiet w cid := by
  unfold resumeCoroutine
  cases hfind : w.app.scheduler.find cid with
  | none => rfl
  | some ctx =>
    have hstate := h ctx hfind
    rcases ctx with ⟨idx, state, task⟩
    cases state with
    | suspend => exact absurd rfl hstate
    | ready => rfl
    | running => rfl
    | done => rfl

/-- The part of `Resume` that resumes is its part up to the callback, the callback, and the
rest. -/
theorem wake_split (proto : RpcProto Msg) (user : RpcUser υ Msg γ) (r : RpcPtr) (crid : Int)
    (w : RpcWorld υ Msg γ) :
    (if w.app.scheduler.coroutineBeenAlive crid then
        (resumeCoroutine proto user w crid).map fun w => w.forget r crid
      else some (w.forget r crid)) =
      (wakeStart proto r crid w).map fun x =>
        x.1.elim x.2 fun c => resumeReturn c (user.onReply c.task c.status x.2) := by
  have hother : (∀ ctx, w.app.scheduler.find crid = some ctx → ctx.state ≠ .suspend) →
      (if w.app.scheduler.coroutineBeenAlive crid then
        (resumeCoroutine proto user w crid).map fun w => w.forget r crid
      else some (w.forget r crid)) =
      (if w.app.scheduler.coroutineBeenAlive crid then
        (resumeCoroutine proto .quiet w crid).map
          fun w => ((none : Option RpcCallback), w.forget r crid)
      else some (none, w.forget r crid)).map fun x =>
        x.1.elim x.2 fun c => resumeReturn c (user.onReply c.task c.status x.2) := by
    intro hstate
    rw [resumeCoroutine_quiet hstate]
    split_ifs
    · rw [Option.map_map]
      rfl
    · rfl
  unfold wakeStart
  cases hfind : w.app.scheduler.find crid with
  | none => exact hother fun ctx h => by rw [hfind] at h; cases h
  | some ctx =>
    rcases ctx with ⟨idx, state, task⟩
    cases state with
    | suspend =>
      have halive : w.app.scheduler.coroutineBeenAlive crid = true := by
        unfold CoroutineScheduler.coroutineBeenAlive
        rw [hfind]
        rfl
      rw [if_pos halive]
      unfold resumeCoroutine
      rw [hfind]
      dsimp only
      rw [rpcFunctionReply_split proto user]
      cases rpcFunctionReply proto .quiet task _ <;> rfl
    | ready => exact hother fun ctx h => by rw [hfind] at h; cases h; exact nofun
    | running => exact hother fun ctx h => by rw [hfind] at h; cases h; exact nofun
    | done => exact hother fun ctx h => by rw [hfind] at h; cases h; exact nofun

/-- `Resume` is its part up to the callback, the callback, and the rest. -/
theorem resume_split (proto : RpcProto Msg) (user : RpcUser υ Msg γ) (r : RpcPtr)
    (data : List UInt8) (size : Nat) (w : RpcWorld υ Msg γ) :
    (resume proto user r data size w).map (·.2) =
      (resumeStart proto r data size w).map fun x =>
        x.1.elim x.2 fun c => resumeReturn c (user.onReply c.task c.status x.2) := by
  unfold resumeStart
  cases hrpc : w.app.rpcs r with
  | none =>
    unfold resume
    rw [hrpc]
    rfl
  | some rpc =>
    rcases hun : proto.unpackToRpcMsg data size w.app.rpcMsg with ⟨ret, msg⟩
    dsimp only
    by_cases hret : ret = 0
    · subst hret
      rw [if_neg (not_not.mpr rfl), resume_of_read hrpc hun rfl, ← wake_split]
      generalize EasyRpc.getCoroutineIdxByAsyncId msg.asyncid rpc.cridList = crid
      have hsched : (w.app.heard r msg).scheduler = w.app.scheduler := rfl
      dsimp only
      rw [hsched]
      by_cases halive : w.app.scheduler.coroutineBeenAlive crid = true
      · rw [if_pos halive, if_pos halive, Option.map_map]
        rfl
      · rw [if_neg halive, if_neg halive]
        rfl
    · unfold resume
      rw [hrpc, hun]
      dsimp only
      rw [if_pos hret, if_pos hret]
      rfl

end World

/-! ## The process -/

/-- `OnBackEndMsg` in its loop: the connection, what is in the receive buffer and
`elapsed_msglen`. -/
structure BackEndLoop where
  bev : BevPtr
  net : NetPtr
  buf : List UInt8
  elapsed : Nat
  deriving DecidableEq, Repr

/-- The length of the next frame, if there is one (`rapidapp_framework_imp.cpp:1230-1240`). -/
def BackEndLoop.next (l : BackEndLoop) : Option Nat :=
  if l.buf.length > l.elapsed then
    let msglen := CInt.uint64 (getMsgLength (l.buf.drop l.elapsed))
    if msglen = 0 ∨ msglen > l.buf.length - l.elapsed then none else some msglen
  else none

/-- One round of `frameLoop`. -/
theorem BackEndLoop.frameLoop_next {S : Type} (body : Nat → Nat → S → S × Bool) (l : BackEndLoop)
    (fuel : Nat) (s : S) :
    frameLoop body l.buf (fuel + 1) l.elapsed s =
      match l.next with
      | none => some (s, l.elapsed, true)
      | some msglen =>
        match body l.elapsed msglen s with
        | (s, false) => some (s, l.elapsed, false)
        | (s, true) => frameLoop body l.buf fuel (l.elapsed + msglen) s := by
  rw [frameLoop, BackEndLoop.next]
  by_cases hlen : l.buf.length > l.elapsed
  · rw [if_pos hlen, if_pos hlen]
    dsimp only
    split_ifs <;> rfl
  · rw [if_neg hlen, if_neg hlen]

/-- A call for which `RpcCall` has returned 0: the `EasyRpc`, the coroutine, and what the coroutine
passed to `Send`. -/
structure RpcCallRecord where
  rpc : RpcPtr
  crid : Int
  frame : List UInt8
  deriving DecidableEq, Repr

/-- The state of the process: `OnBackEndMsg` and the callback, if they are being run. `calls` and
`finished` are ghosts: the calls made so far, and the coroutines whose `RpcFunction` has
returned. -/
structure RpcProcess (υ Msg γ : Type) where
  world : RpcWorld υ Msg γ
  loop : Option BackEndLoop
  callback : Option RpcCallback
  calls : List RpcCallRecord
  finished : List Int

/-- What happens next. In a callback all events are what the callback does, up to its return. -/
inductive RpcProcessEvent (υ Msg γ : Type) where
  | createRpc (type : Int) (connect : Option Int) (newOk : Bool)
  | destroyRpc (rpc : Option RpcPtr)
  | call (r : RpcPtr) (args : World.RpcArgs)
  | onBackEndMsg (bev : BevPtr)
  | nextFrame
  | callbackReturns
  | application (user : υ) (messages : Nat → Msg)
  | connections (heap : Heap γ) (frontend backend : NetHandlerMgr)

namespace RpcProcess

/-- A process that starts. -/
def start (world : RpcWorld υ Msg γ) : RpcProcess υ Msg γ := ⟨world, none, none, [], []⟩

/-- The process goes on in another state. -/
def goTo (P : RpcProcess υ Msg γ) (w : RpcWorld υ Msg γ) : RpcProcess υ Msg γ :=
  { P with world := w }

/-- `RpcCall`, with the record of a call that is made. -/
def call (proto : RpcProto Msg) (r : RpcPtr) (args : World.RpcArgs) (P : RpcProcess υ Msg γ) :
    Option (RpcProcess υ Msg γ) :=
  (P.world.rpcCall proto .quiet r args).map fun (ret, w) =>
    if ret = 0 then
      { P with
        world := w
        callback := P.callback.map fun c => { c with nested := true }
        calls := P.calls ++ [⟨r, P.world.app.scheduler.cidSeed, w.app.buf⟩] }
    else P.goTo w

/-- The head of `OnBackEndMsg` (`rapidapp_framework_imp.cpp:1196-1228`). -/
def onBackEndMsg (b : BevPtr) (P : RpcProcess υ Msg γ) : Option (RpcProcess υ Msg γ) :=
  match P.world.heap.bevs b with
  | none => none
  | some e =>
    match P.world.backendHandlerMgr.getHandlerByEvent P.world.heap b with
    | none => some P
    | some p =>
      let buf := e.input.take P.world.backendHandlerMgr.recvBuffer.size
      some { P with loop := some ⟨b, p, buf, 0⟩ }

/-- One round of the loop of `OnBackEndMsg`, or its end (`rapidapp_framework_imp.cpp:1230-1264`). -/
def nextFrame (proto : RpcProto Msg) (l : BackEndLoop) (P : RpcProcess υ Msg γ) :
    Option (RpcProcess υ Msg γ) :=
  match l.next with
  | none => some { P with world := P.world.evbufferDrain l.bev l.elapsed, loop := none }
  | some msglen =>
    let P : RpcProcess υ Msg γ := { P with loop := some { l with elapsed := l.elapsed + msglen } }
    match (P.world.heap.nets l.net).bind (·.rpcBinded) with
    | none => some P
    | some r =>
      if World.rpcIsActive r P.world then
        (World.resumeStart proto r (payloadBytes l.buf l.elapsed msglen) (payloadSize msglen)
          P.world).map fun (callback, w) => { P with world := w, callback := callback }
      else some P

/-- The callback returns. -/
def callbackReturns (c : RpcCallback) (P : RpcProcess υ Msg γ) : Option (RpcProcess υ Msg γ) :=
  if c.nested then none
  else
    some { P with
      world := World.resumeReturn c P.world
      callback := none
      finished := P.finished ++ [c.crid] }

end RpcProcess

/-- One event of the process. `none` is a failed assertion, or an event that cannot happen. -/
def rpcProcessStep (proto : RpcProto Msg) (P : RpcProcess υ Msg γ) :
    RpcProcessEvent υ Msg γ → Option (RpcProcess υ Msg γ)
  | .createRpc type connect newOk => some (P.goTo (P.world.createRpc type connect newOk).2)
  | .destroyRpc rpc => (P.world.destroyRpc rpc).map fun x => P.goTo x.2
  | .call r args => P.call proto r args
  | .onBackEndMsg b =>
    match P.callback, P.loop with
    | none, none => P.onBackEndMsg b
    | _, _ => none
  | .nextFrame =>
    match P.callback, P.loop with
    | none, some l => P.nextFrame proto l
    | _, _ => none
  | .callbackReturns =>
    match P.callback with
    | some c => P.callbackReturns c
    | none => none
  | .application user messages =>
    some (P.goTo { P.world with app := { P.world.app with user := user, messages := messages } })
  | .connections heap frontend backend =>
    some (P.goTo { P.world with
      heap := heap, frontendHandlerMgr := frontend, backendHandlerMgr := backend })

end Rapidapp
