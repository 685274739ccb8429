import Rapidapp.Framework.CloseCalls
import Rapidapp.Framework.EasyRpc

/-!
# EasyRpcClosure: requests that are answered later

`EasyRpcClosure` (`framework/rapidapp_easy_rpc.cpp:9-90`) and `OnFrontEndRpcMsg`
(`framework/rapidapp_framework_imp.cpp:1006-1064`). A request of a frontend in rpc mode is unpacked
into the static `rpc_msg_`; a closure keeps its `asyncid` and the `EasyNet*` of the connection, and
a service calls `Done` or `Cancel` on it at any later time, which sends the reply and deletes the
closure. The loop of `OnFrontEndMsg` is taken apart into steps here, so that the code a service runs
in `OnRpcCall` is further events of the run, as is the code of every other callback.
-/

namespace Rapidapp

/-- The address of an `EasyRpcClosure`. -/
abbrev ClosurePtr := Nat

/-- `class EasyRpcClosure` (`rapidapp_easy_rpc.h:14-44`) after `Set`, which leaves none of the three
pointers null. `user_data_` and `is_done_` are read by nothing that is modelled. -/
structure EasyRpcClosure where
  net : NetPtr
  asyncId : Nat
  req : MessageRef
  rsp : MessageRef
  deriving DecidableEq, Repr

/-- A registered `IRpcService` (`rapidapp_defines.h:44-59`): the type and the content of the message
that `NewResponse` makes, if it makes one. -/
structure IRpcService (υ Msg : Type) where
  newResponse : υ → Option (List UInt8 × Msg)

/-- What is behind `OnFrontEndRpcMsg`: protobuf, the types `NewInstance` knows, and `rpc_svc_mgr_`. -/
structure RpcServer (υ Msg : Type) where
  proto : RpcProto Msg
  newInstance : List UInt8 → Bool
  rpcSvcMgr : Option (List UInt8 → Option (IRpcService υ Msg))

/-- Ghost record of a request for which a closure was made: the closure, the connection it came in
on, and the `asyncid` in its bytes. -/
structure Asked where
  closure : ClosurePtr
  net : NetPtr
  asyncid : Nat
  deriving DecidableEq, Repr

/-- What closures work on: the protobuf objects, the static `rpc_msg_`, and the closures. `asked`
and `answered` are ghosts: the requests that got a closure, and the closures that were completed. -/
structure ServiceState (Msg : Type) where
  messages : Nat → Msg
  nextMessage : Nat
  rpcMsg : RpcMessage
  closures : ClosurePtr → Option EasyRpcClosure
  nextClosure : ClosurePtr
  asked : List Asked
  answered : List ClosurePtr

variable {υ Msg γ : Type}

namespace ServiceState

/-- Before there is any closure. -/
def init (messages : Nat → Msg) : ServiceState Msg where
  messages := messages
  nextMessage := 0
  rpcMsg := ⟨magicRpcstampV1, 0, 0, [], none, []⟩
  closures := fun _ => none
  nextClosure := 0
  asked := []
  answered := []

/-- A new message object. -/
def newMessage (s : ServiceState Msg) (typeName : List UInt8) (message : Msg) :
    MessageRef × ServiceState Msg :=
  (⟨s.nextMessage, typeName⟩, { s with
    messages := Function.update s.messages s.nextMessage message
    nextMessage := s.nextMessage + 1 })

/-- `MessageGenerator::SpawnMessage` (`rapidapp_message_reflection.cpp:58-88`) for data that is not
null. -/
def spawnMessage (server : RpcServer υ Msg) (data : List UInt8) (size : Nat)
    (s : ServiceState Msg) : Option MessageRef × ServiceState Msg :=
  match server.proto.unpackToRpcMsg data size s.rpcMsg with
  | (ret, msg) =>
    let s := { s with rpcMsg := msg }
    if ret ≠ 0 then (none, s)
    else if server.newInstance msg.msgName then
      match server.proto.parseFromString msg.msgName msg.msgBin with
      | (false, _) => (none, s)
      | (true, message) =>
        match s.newMessage msg.msgName message with
        | (req, s) => (some req, s)
    else (none, s)

/-- `new EasyRpcClosure()` and `Set`, with the `asyncid` of `rpc_msg_` (`GetAsyncId`). -/
def openClosure (p : NetPtr) (req rsp : MessageRef) (asyncid : Nat) (s : ServiceState Msg) :
    ServiceState Msg :=
  { s with
    closures := Function.update s.closures s.nextClosure (some ⟨p, s.rpcMsg.asyncid, req, rsp⟩)
    nextClosure := s.nextClosure + 1
    asked := s.asked ++ [⟨s.nextClosure, p, asyncid⟩] }

/-- `AppFrameWork::OnFrontEndRpcMsg` (`rapidapp_framework_imp.cpp:1006-1064`) up to `OnRpcCall`.
`newOk` is whether `new(std::nothrow)` finds memory for the closure. -/
def onFrontEndRpcMsg (server : RpcServer υ Msg) (user : υ) (newOk : Bool) (p : NetPtr)
    (data : List UInt8) (size : Nat) (s : ServiceState Msg) : Int × ServiceState Msg :=
  -- the ghost record has the `asyncid` of these bytes, whatever `rpc_msg_` is later
  let asyncid := (server.proto.unpackToRpcMsg data size s.rpcMsg).2.asyncid
  match s.spawnMessage server data size with
  | (none, s) => (-1, s)
  | (some req, s) =>
    match server.rpcSvcMgr with
    | none => (-1, s)
    | some getRpcService =>
      match getRpcService req.typeName with
      | none => (0, s)
      | some svc =>
        match svc.newResponse user with
        | none => (0, s)
        | some (typeName, message) =>
          match s.newMessage typeName message with
          | (rsp, s) => if newOk then (1, s.openClosure p req rsp asyncid) else (0, s)

/-- `delete this`, with the record that the closure was completed. -/
def deleteClosure (c : ClosurePtr) (s : ServiceState Msg) : ServiceState Msg :=
  { s with
    closures := Function.update s.closures c none
    answered := s.answered ++ [c] }

end ServiceState

/-- Where the loop of `OnFrontEndMsg` is: the event, the connection, what it copied,
`elapsed_msglen`, and the length of the frame whose `OnRpcCall` has not returned. -/
structure Handling where
  bev : BevPtr
  net : NetPtr
  buf : List UInt8
  elapsed : Nat
  calling : Option Nat

/-- The length of the frame the loop comes to, when it is complete. -/
def Handling.frame (h : Handling) : Option Nat :=
  if h.buf.length > h.elapsed then
    let msglen := CInt.uint64 (getMsgLength (h.buf.drop h.elapsed))
    if msglen = 0 ∨ msglen > h.buf.length - h.elapsed then none else some msglen
  else none

/-- The loop after a frame of this length. -/
def Handling.next (h : Handling) (msglen : Nat) : Handling :=
  { h with elapsed := h.elapsed + msglen, calling := none }

/-- The state of a process in rpc mode. `removed` and `uses` are ghosts: the frontends that were
removed, and for every `Send` of a closure the connection and whether it was in the pool. -/
structure ServiceRun (υ Msg γ : Type) where
  world : World υ γ
  service : ServiceState Msg
  handling : Option Handling
  removed : List NetPtr
  uses : List (NetPtr × Bool)

/-- The events of the loop that come when no handler is running. `unpack` is a reply to an rpc of
this process, which `EasyRpc::Resume` unpacks into `rpc_msg_`, and `clock` is `Tick` up to
`OnUpdate`. -/
inductive LoopEvent where
  | connect (fd : Int) (bevOk callocOk : Bool)
  | arrive (b : BevPtr) (chunk : List UInt8)
  | socketEvent (side : Side) (b : BevPtr) (events : BevEvents)
  | unpack (data : List UInt8) (size : Nat)
  | clock (now : Int)
  | tick (now : Int)

/-- What the code of an application does, one operation at a time: a change of its own state or of
a message, or a call of `IFrameWork`. -/
inductive ServiceCall (υ Msg γ : Type) where
  | user (user : υ)
  | message (addr : Nat) (message : Msg)
  | setUserContext (p : NetPtr) (c : γ)
  | sendToFrontEnd (net : Option NetPtr) (buf : List UInt8)
  | sendToBackEnd (net : Option NetPtr) (buf : List UInt8)
  | destroyNet (side : Side) (net : Option NetPtr)
  | createBackEnd (type : Int) (connect : Option Int)

/-- An event of a run. `round` and `returned` are the loop of `OnFrontEndMsg`: it takes the next
frame, and `OnRpcCall` returns to it. -/
inductive ServiceEvent (υ Msg γ : Type) where
  | loop (e : LoopEvent)
  | round (newOk : Bool)
  | returned
  | call (e : ServiceCall υ Msg γ)
  | done (c : ClosurePtr)
  | cancel (c : ClosurePtr)

namespace ServiceRun

/-- After `AppFrameWork::Init`. -/
def start (user : υ) (messages : Nat → Msg) (fate : Nat → Bool) (frontRecv backRecv : RapBuffer)
    (now : Int) : ServiceRun υ Msg γ where
  world := World.start user fate frontRecv backRecv .rpc now
  service := .init messages
  handling := none
  removed := []
  uses := []

/-! ## Done and Cancel -/

/-- `net_->Send(rsp_out)` of a closure, and the record of it. -/
def sendReply (p : NetPtr) (out : List UInt8) (s : ServiceRun υ Msg γ) : ServiceRun υ Msg γ :=
  { s with
    world := { s.world with heap := (s.world.heap.send p out).2 }
    uses := s.uses ++ [(p, s.world.inPool .frontEnd p)] }

/-- What `Done` and `Cancel` have in common: the reply is sent when it could be made, and the
closure deletes itself. A dangling pointer has no defined behaviour in the source and is refused. -/
def complete (reply : EasyRpcClosure → Int × List UInt8) (c : ClosurePtr)
    (s : ServiceRun υ Msg γ) : Option (ServiceRun υ Msg γ) :=
  match s.service.closures c with
  | none => none
  | some closure =>
    match reply closure with
    | (ret, out) =>
      let s := if ret = 0 then s.sendReply closure.net out else s
      some { s with service := s.service.deleteClosure c }

/-- What `Done` makes of the response. -/
def doneReply (proto : RpcProto Msg) (s : ServiceRun υ Msg γ) (closure : EasyRpcClosure) :
    Int × List UInt8 :=
  proto.messageToBinary rpcTypeResponse closure.asyncId closure.rsp.typeName
    (s.service.messages closure.rsp.addr) []

/-- What `Cancel` sends. -/
def cancelReply (proto : RpcProto Msg) (closure : EasyRpcClosure) : Int × List UInt8 :=
  proto.rpcErrorToBinary closure.asyncId

/-- `EasyRpcClosure::Done` (`rapidapp_easy_rpc.cpp:33-60`). -/
def done (proto : RpcProto Msg) (c : ClosurePtr) (s : ServiceRun υ Msg γ) :
    Option (ServiceRun υ Msg γ) :=
  s.complete (s.doneReply proto) c

/-- `EasyRpcClosure::Cancel` (`rapidapp_easy_rpc.cpp:62-89`). -/
def cancel (proto : RpcProto Msg) (c : ClosurePtr) (s : ServiceRun υ Msg γ) :
    Option (ServiceRun υ Msg γ) :=
  s.complete (cancelReply proto) c

/-! ## The steps of a run -/

/-- The frontend, if it is in the pool. -/
def ifPooled (w : World υ γ) (p : NetPtr) : List NetPtr := if w.inPool .frontEnd p then [p] else []

/-- What `OnFrontEndMsg` does after its loop (`rapidapp_framework_imp.cpp:1141-1144`). -/
def endOfInput (h : Handling) (w : World υ γ) : World υ γ :=
  (w.evbufferDrain h.bev h.elapsed).modifyNet h.net (World.countTraffic h.elapsed w.now)

/-- The loop of `OnFrontEndMsg` in rpc mode goes on (`rapidapp_framework_imp.cpp:1097-1144`). -/
def round (server : RpcServer υ Msg) (newOk : Bool) (h : Handling) (s : ServiceRun υ Msg γ) :
    ServiceRun υ Msg γ :=
  match h.frame with
  | none => { s with world := endOfInput h s.world, handling := none }
  | some msglen =>
    match s.service.onFrontEndRpcMsg server s.world.app newOk h.net
        (payloadBytes h.buf h.elapsed msglen) (payloadSize msglen) with
    | (ret, service) =>
      if ret < 0 then
        { s with
          world := s.world.destroyFrontEnd (some h.net)
          service := service
          handling := none
          removed := s.removed ++ ifPooled s.world h.net }
      else if ret = 0 then
        { s with
          world := s.world.modifyNet h.net World.countPkg
          service := service
          handling := some (h.next msglen) }
      -- `OnRpcCall` is called
      else { s with service := service, handling := some { h with calling := some msglen } }

/-- `OnFrontEndMsg` for new bytes, up to its loop (`rapidapp_framework_imp.cpp:1066-1096`). -/
def arrived (b : BevPtr) (w : World υ γ) : Option Handling :=
  (w.heap.bevs b).bind fun e => (w.frontendHandlerMgr.handlerPool.lookup e.fd).map fun p =>
    ⟨b, p, e.input.take w.frontendHandlerMgr.recvBuffer.size, 0, none⟩

/-- The frontend that a socket event removes. -/
def ended (b : BevPtr) (events : BevEvents) (w : World υ γ) : List NetPtr :=
  if events.error || !events.timeout && events.eof then
    (w.frontendHandlerMgr.getHandlerByEvent w.heap b).toList
  else []

/-- An event of the loop. The kernel opens no socket under a descriptor in use. -/
def loopStep [Inhabited γ] (server : RpcServer υ Msg) (setting : Setting)
    (s : ServiceRun υ Msg γ) : LoopEvent → Option (ServiceRun υ Msg γ)
  | .connect fd bevOk callocOk =>
    if s.world.FdUnused fd then
      some { s with world := s.world.onFrontEndConnect (fun _ w => w) fd bevOk callocOk }
    else none
  | .arrive b chunk =>
    let w := s.world.evbufferAdd b chunk
    some { s with world := w, handling := arrived b w }
  | .socketEvent .frontEnd b events =>
    some { s with
      world := s.world.onFrontEndSocketEvent (fun _ w => w) b events
      removed := s.removed ++ ended b events s.world }
  | .socketEvent .backEnd b events =>
    some { s with world := s.world.onBackEndSocketEvent b events }
  | .unpack data size =>
    let rpcMsg := (server.proto.unpackToRpcMsg data size s.service.rpcMsg).2
    some { s with service := { s.service with rpcMsg := rpcMsg } }
  | .clock now => some { s with world := { s.world with now := now } }
  | .tick now =>
    some { s with
      world := s.world.tick now setting
      removed := s.removed ++ s.world.kicked setting now }

/-- An operation of the application's code. -/
def callStep (s : ServiceRun υ Msg γ) : ServiceCall υ Msg γ → Option (ServiceRun υ Msg γ)
  | .user user => some { s with world := { s.world with app := user } }
  | .message addr message =>
    let messages := Function.update s.service.messages addr message
    some { s with service := { s.service with messages := messages } }
  | .setUserContext p c => some { s with world := s.world.setUserContext p c }
  | .sendToFrontEnd net buf => some { s with world := (s.world.sendToFrontEnd net buf).2 }
  | .sendToBackEnd net buf => some { s with world := (s.world.sendToBackEnd net buf).2 }
  | .destroyNet side net =>
    some { s with
      world := s.world.destroyNet side net
      removed := s.removed ++
        if side = .frontEnd then net.toList.flatMap (ifPooled s.world) else [] }
  | .createBackEnd type connect =>
    if ∀ fd ∈ connect, s.world.FdUnused fd then
      some { s with world := (s.world.createBackEnd type connect).2 }
    else none

/-- One event. -/
def step [Inhabited γ] (server : RpcServer υ Msg) (setting : Setting) (s : ServiceRun υ Msg γ) :
    ServiceEvent υ Msg γ → Option (ServiceRun υ Msg γ)
  | .loop e =>
    match s.handling with
    | none => s.loopStep server setting e
    | some _ => none
  | .round newOk =>
    match s.handling with
    | some ⟨b, p, buf, elapsed, none⟩ => some (s.round server newOk ⟨b, p, buf, elapsed, none⟩)
    | _ => none
  | .returned =>
    match s.handling with
    | some ⟨b, p, buf, elapsed, some msglen⟩ =>
      some { s with
        world := s.world.modifyNet p World.countPkg
        handling := some (Handling.next ⟨b, p, buf, elapsed, none⟩ msglen) }
    | _ => none
  | .call e => s.callStep e
  | .done c => s.done server.proto c
  | .cancel c => s.cancel server.proto c

end ServiceRun

end Rapidapp
