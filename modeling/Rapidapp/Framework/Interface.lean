import Mathlib.Logic.Relation
import Rapidapp.Framework.NetMgr

/-!
# AppFrameWork and what an application can do to it

The state `AppFrameWork` keeps about connections (`framework/rapidapp_framework_imp.h`) and
the operations of `IFrameWork` (`framework/rapidapp_framework.h`) on it. Application code
is arbitrary, but it reaches the framework only through this interface: `ApiStep` is one
call (or a change of the application's own state), `ApiReach` any number of them, and an
`App` is a record of handlers each of which stays within `ApiReach`.
-/

namespace Rapidapp

/-- `svc_mode_` (`rapidapp_framework_imp.h:33-36`). -/
inductive SvcMode where
  | normal
  | rpc
  deriving DecidableEq, Repr

/-- Frontend or backend connections. -/
inductive Side where
  | frontEnd
  | backEnd
  deriving DecidableEq, Repr

/-- The part of `AppFrameWork` that handles connections, with the application's own state
`app`. -/
structure World (σ γ : Type) where
  app : σ
  heap : Heap γ
  frontendHandlerMgr : NetHandlerMgr
  backendHandlerMgr : NetHandlerMgr
  now : Int
  svcMode : SvcMode

variable {σ γ : Type}

namespace World

/-- The manager of the connections of one side. -/
def mgr (w : World σ γ) : Side → NetHandlerMgr
  | .frontEnd => w.frontendHandlerMgr
  | .backEnd => w.backendHandlerMgr

/-- Replace a manager and the heap it manages. -/
def setMgr (w : World σ γ) (side : Side) (r : NetHandlerMgr × Heap γ) : World σ γ :=
  match side with
  | .frontEnd => { w with frontendHandlerMgr := r.1, heap := r.2 }
  | .backEnd => { w with backendHandlerMgr := r.1, heap := r.2 }

/-- The state after `AppFrameWork::Init`, before there is any connection. -/
def start (app : σ) (fate : Nat → Bool) (frontRecv backRecv : RapBuffer) (svcMode : SvcMode)
    (now : Int) : World σ γ where
  app := app
  heap := Heap.empty fate
  frontendHandlerMgr := NetHandlerMgr.init frontRecv
  backendHandlerMgr := NetHandlerMgr.init backRecv
  now := now
  svcMode := svcMode

/-- Whether the `EasyNet` is in the pool of that side. -/
def inPool (w : World σ γ) (side : Side) (p : NetPtr) : Bool :=
  (w.mgr side).handlerPool.entries.any (fun e => e.2 == p)

/-- `AppFrameWork::SendToFrontEnd` (`rapidapp_framework_imp.cpp:1369-1387`). -/
def sendToFrontEnd (w : World σ γ) (net : Option NetPtr) (buf : List UInt8) : Int × World σ γ :=
  match net with
  | none => (-1, w)
  | some p =>
    if buf = [] then (-1, w)
    else
      match w.heap.send p buf with
      | (.easyNetOk, h) => (0, { w with heap := h })
      | (_, h) => (-1, { w with heap := h })

/-- `AppFrameWork::SendToBackEnd` (`rapidapp_framework_imp.cpp:1389-1420`); the error codes are
`NET_NOT_ESTABLISHED`, `NET_CONNECT_FAILED` and `NET_SEND_EXCEPTION`. -/
def sendToBackEnd (w : World σ γ) (net : Option NetPtr) (buf : List UInt8) : Int × World σ γ :=
  match net with
  | none => (-1, w)
  | some p =>
    if buf = [] then (-1, w)
    else
      match w.heap.send p buf with
      | (.easyNetErrNotYetEstablished, h) => (-1, { w with heap := h })
      | (.easyNetErrEstablishFailed, h) => (-2, { w with heap := h })
      | (.easyNetErrSendError, h) => (-3, { w with heap := h })
      | (.easyNetOk, h) =>
        match h.nets p with
        | none => (0, { w with heap := h })
        | some n => (0, { w with heap := h.setNet p { n with lastActiveTimestamp := w.now } })

/-- `DestroyFrontEnd` and `DestroyBackEnd` (`rapidapp_framework_imp.cpp:1343-1367`). -/
def destroyNet (w : World σ γ) (side : Side) (net : Option NetPtr) : World σ γ :=
  match net with
  | none => w
  | some p => w.setMgr side ((w.mgr side).removeHandler w.heap p)

/-- `AppFrameWork::DestroyFrontEnd`. -/
def destroyFrontEnd (w : World σ γ) (net : Option NetPtr) : World σ γ := w.destroyNet .frontEnd net

/-- `AppFrameWork::DestroyBackEnd`. -/
def destroyBackEnd (w : World σ γ) (net : Option NetPtr) : World σ γ := w.destroyNet .backEnd net

/-- `AppFrameWork::CreateBackEnd` (`rapidapp_framework_imp.cpp:1317-1341`) for an application
without backend contexts; `connect` as in `addHandlerByUri`. -/
def createBackEnd (w : World σ γ) (type : Int) (connect : Option Int) :
    Option NetPtr × World σ γ :=
  match w.backendHandlerMgr.addHandlerByUri w.heap type connect with
  | (none, m, h) => (none, w.setMgr .backEnd (m, h))
  | (some p, m, h) =>
    match h.nets p with
    | none => (some p, w.setMgr .backEnd (m, h))
    | some n =>
      (some p, w.setMgr .backEnd (m, h.setNet p { n with lastActiveTimestamp := w.now }))

/-- `CreateRpcByEasyNet` (`rapidapp_framework_imp.cpp:1481-1500`) as far as the connection goes. -/
def setRpcBinded (w : World σ γ) (p : NetPtr) (rpc : RpcPtr) : World σ γ :=
  match w.heap.nets p with
  | none => w
  | some n => { w with heap := w.heap.setNet p { n with rpcBinded := some rpc } }

/-- `AppFrameWork::GetFrontEndByAsyncIds` (`rapidapp_framework_imp.cpp:1422-1431`). -/
def getFrontEndByAsyncIds (w : World σ γ) (fd nid : Nat) : Option NetPtr :=
  w.frontendHandlerMgr.getHandlerByAsyncIds w.heap fd nid

/-- `AppFrameWork::GetNetIds` (`rapidapp_framework_imp.cpp:1433-1445`): the pair `(fd, nid)`. -/
def getNetIds (w : World σ γ) (p : NetPtr) : Nat × Nat :=
  match w.heap.nets p with
  | none => (0, 0)
  | some n =>
    match n.hevent with
    | none => (CInt.uint32 (-1), CInt.uint64 n.nid)
    | some b => (CInt.uint32 (w.heap.getfd b), CInt.uint64 n.nid)

/-- `AppFrameWork::GetUserContext` (`rapidapp_framework_imp.cpp:1447-1455`). -/
def getUserContext (w : World σ γ) (p : NetPtr) : Option γ :=
  (w.heap.nets p).bind (·.userContext)

/-- A write of the application through the pointer `GetUserContext` returned. -/
def setUserContext (w : World σ γ) (p : NetPtr) (c : γ) : World σ γ :=
  match w.heap.nets p with
  | none => w
  | some n =>
    match n.userContext with
    | none => w
    | some _ => { w with heap := w.heap.setNet p { n with userContext := some c } }

/-- The kernel gives a new socket a descriptor that no open socket has. -/
def FreshFd (w : World σ γ) (fd : Int) : Prop :=
  0 ≤ fd ∧ fd < 2 ^ 31 ∧ ∀ b e, w.heap.bevs b = some e → e.fd ≠ fd

/-- One thing application code does: a change of its own state, a write to a user context, or
a call of `IFrameWork`. -/
inductive ApiStep : World σ γ → World σ γ → Prop
  | app (w : World σ γ) (s : σ) : ApiStep w { w with app := s }
  | setUserContext (w : World σ γ) (p : NetPtr) (c : γ) : ApiStep w (w.setUserContext p c)
  | sendToFrontEnd (w : World σ γ) (net : Option NetPtr) (buf : List UInt8) :
      ApiStep w (w.sendToFrontEnd net buf).2
  | sendToBackEnd (w : World σ γ) (net : Option NetPtr) (buf : List UInt8) :
      ApiStep w (w.sendToBackEnd net buf).2
  | destroyNet (w : World σ γ) (side : Side) (net : Option NetPtr) :
      ApiStep w (w.destroyNet side net)
  | createBackEnd (w : World σ γ) (type : Int) (connect : Option Int) :
      (∀ fd, connect = some fd → w.FreshFd fd) → ApiStep w (w.createBackEnd type connect).2
  | createRpc (w : World σ γ) (type : Int) (connect : Option Int) (rpc : RpcPtr) :
      (∀ fd, connect = some fd → w.FreshFd fd) →
      ∀ p, (w.createBackEnd type connect).1 = some p →
        ApiStep w ((w.createBackEnd type connect).2.setRpcBinded p rpc)

/-- Any number of them. -/
abbrev ApiReach : World σ γ → World σ γ → Prop := Relation.ReflTransGen ApiStep

end World

/-- What `MessageGenerator::SpawnMessage` makes of a request frame. -/
structure RpcRequest where
  typeName : List UInt8
  asyncid : Nat
  body : List UInt8
  deriving DecidableEq, Repr

/-- A registered `IRpcService` (`rapidapp_defines.h:44-59`): whether `NewResponse` yields an
object, and `OnRpcCall`. -/
structure RpcService (σ γ : Type) where
  newResponse : Bool
  onRpcCall : NetPtr → RpcRequest → World σ γ → World σ γ
  onRpcCall_api : ∀ p req w, World.ApiReach w (onRpcCall p req w)

/-- The code the message handlers call out to: the application's `OnRecvFrontEnd` and
`OnRecvBackEnd`, the rpc services, and `IsActive` and `Resume` of the `EasyRpc` a backend is
bound to. A payload comes as its bytes and the `size_t` the framework passes with it. -/
structure App (σ γ : Type) where
  onRecvFrontEnd : NetPtr → Int → List UInt8 → Nat → World σ γ → Int × World σ γ
  onRecvFrontEnd_api : ∀ p ty bs n w, World.ApiReach w (onRecvFrontEnd p ty bs n w).2
  onRecvBackEnd : NetPtr → Int → List UInt8 → Nat → World σ γ → Int × World σ γ
  onRecvBackEnd_api : ∀ p ty bs n w, World.ApiReach w (onRecvBackEnd p ty bs n w).2
  spawnMessage : List UInt8 → Nat → Option RpcRequest
  rpcSvcMgr : Option (List UInt8 → Option (RpcService σ γ))
  rpcIsActive : RpcPtr → World σ γ → Bool
  rpcResume : RpcPtr → List UInt8 → Nat → World σ γ → World σ γ
  rpcResume_api : ∀ r bs n w, World.ApiReach w (rpcResume r bs n w)

end Rapidapp
