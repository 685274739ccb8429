import Mathlib.Data.List.AList
import Rapidapp.Framework.EasyNet

/-!
# NetHandlerMgr: the pool of connections

`framework/rapidapp_net_mgr.{h,cpp}`. There is one manager for the frontends and one for
the backends; both keep their connections in a map from descriptor to `EasyNet*`. The map
is an association list, its order is the order of iteration; the cursor of `WalkThrough`
is the key it points at, `none` for `end()`.
-/

namespace Rapidapp

/-- `HandlerPool` (`rapidapp_net_mgr.h:27`): `unordered_map<evutil_socket_t, EasyNet*>`. -/
abbrev HandlerPool := AList (fun _ : Int => NetPtr)

/-- `struct RapBuffer` (`rapidapp_net_mgr.h:22-25`) as far as its size goes. The buffer comes
from `calloc`, and no object is larger than `PTRDIFF_MAX` bytes. -/
structure RapBuffer where
  size : Nat
  size_lt : size < 2 ^ 63

/-- A buffer for short runs. -/
def RapBuffer.small : RapBuffer := ⟨64, by decide⟩

/-- `class NetHandlerMgr` (`rapidapp_net_mgr.h:30-64`). -/
structure NetHandlerMgr where
  handlerPool : HandlerPool
  recvBuffer : RapBuffer
  itCursor : Option Int

/-- `kDefaultUpSize` (`rapidapp_net_mgr.cpp:9`). -/
def kDefaultUpSize : Nat := 1024 * 1024

namespace NetHandlerMgr

variable {γ : Type}

/-- `NetHandlerMgr::Init` (`rapidapp_net_mgr.cpp:21-40`). -/
def init (recvBuffSize : RapBuffer) : NetHandlerMgr where
  handlerPool := ∅
  recvBuffer := if recvBuffSize.size = 0 then ⟨kDefaultUpSize, by decide⟩ else recvBuffSize
  itCursor := none

/-- The iterator one past the entry with this key. -/
def succKey (fd : Int) : List Int → Option Int
  | [] => none
  | k :: ks => if k = fd then ks.head? else succKey fd ks

/-- `NetHandlerMgr::AddHandlerToMap` (`rapidapp_net_mgr.cpp:126-145`). -/
def addHandlerToMap (m : NetHandlerMgr) (h : Heap γ) (p : NetPtr) : NetHandlerMgr :=
  match (h.nets p).bind (·.hevent) with
  | none => m
  | some b => { m with handlerPool := m.handlerPool.insert (h.getfd b) p }

/-- `NetHandlerMgr::AddHandlerBySocket` (`rapidapp_net_mgr.cpp:97-124`). `bevOk` is whether
`bufferevent_socket_new` succeeds in `EasyNet::Init`. -/
def addHandlerBySocket (m : NetHandlerMgr) (h : Heap γ) (sockFd : Int) (type : Int)
    (bevOk : Bool) : Option NetPtr × NetHandlerMgr × Heap γ :=
  if sockFd < 0 then (none, m, h)
  else
    let (p, h) := h.newEasyNet
    if bevOk then
      let h := h.attach p sockFd type .netEstablished
      (some p, m.addHandlerToMap h p, h)
    else (none, m, h.deleteNet p)

/-- `NetHandlerMgr::AddHandlerByUri` (`rapidapp_net_mgr.cpp:69-95`). `connect` is the descriptor
of the socket `bufferevent_socket_connect` opened, or `none` when `EasyNet::Connect` fails. -/
def addHandlerByUri (m : NetHandlerMgr) (h : Heap γ) (type : Int) (connect : Option Int) :
    Option NetPtr × NetHandlerMgr × Heap γ :=
  let (p, h) := h.newEasyNet
  match connect with
  | some fd =>
    let h := h.attach p fd type .netConnecting
    (some p, m.addHandlerToMap h p, h)
  | none => (none, m, h.deleteNet p)

/-- `NetHandlerMgr::GetHandlerByEvent` (`rapidapp_net_mgr.cpp:222-240`). -/
def getHandlerByEvent (m : NetHandlerMgr) (h : Heap γ) (b : BevPtr) : Option NetPtr :=
  m.handlerPool.lookup (h.getfd b)

/-- `NetHandlerMgr::GetHandlerByAsyncIds` (`rapidapp_net_mgr.cpp:246-258`): `fd` is `uint32_t`,
`nid` is `uint64_t`, the map's key and `EasyNet::nid()` are `int`. -/
def getHandlerByAsyncIds (m : NetHandlerMgr) (h : Heap γ) (fd nid : Nat) : Option NetPtr :=
  match m.handlerPool.lookup (CInt.int32 fd) with
  | none => none
  | some p =>
    match h.nets p with
    | none => none
    | some n => if nid = CInt.uint64 n.nid then some p else none

/-- `NetHandlerMgr::ChangeNetStateByEvent` (`rapidapp_net_mgr.cpp:162-184`). -/
def changeNetStateByEvent (m : NetHandlerMgr) (h : Heap γ) (b : BevPtr) (state : NetState) :
    Heap γ :=
  match m.getHandlerByEvent h b with
  | none => h
  | some p =>
    match h.nets p with
    | none => h
    | some n => h.setNet p { n with state := state }

/-- `DestroyUserContext`, `CleanUp`, `delete` and `erase` for the entry under `fd`, as in
`RemoveHandlerByEvent` and in `WalkThrough`; the cursor moves on when it points at the entry. -/
def eraseEntry (m : NetHandlerMgr) (h : Heap γ) (fd : Int) (p : NetPtr) :
    NetHandlerMgr × Heap γ :=
  ({ m with
      handlerPool := m.handlerPool.erase fd
      itCursor := if m.itCursor = some fd then succKey fd m.handlerPool.keys else m.itCursor },
    ((h.destroyUserContext p).cleanUp p).deleteNet p)

/-- `NetHandlerMgr::RemoveHandlerByEvent` (`rapidapp_net_mgr.cpp:186-220`). -/
def removeHandlerByEvent (m : NetHandlerMgr) (h : Heap γ) (b : BevPtr) :
    NetHandlerMgr × Heap γ :=
  match m.getHandlerByEvent h b with
  | none => (m, h)
  | some p => m.eraseEntry h (h.getfd b) p

/-- `NetHandlerMgr::RemoveHandler` (`rapidapp_net_mgr.cpp:147-156`). For a dangling pointer the
source has no defined behaviour; nothing is removed for it. -/
def removeHandler (m : NetHandlerMgr) (h : Heap γ) (p : NetPtr) : NetHandlerMgr × Heap γ :=
  match (h.nets p).bind (·.hevent) with
  | none => (m, h)
  | some b => m.removeHandlerByEvent h b

end NetHandlerMgr

end Rapidapp
