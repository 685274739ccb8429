import Mathlib.Logic.Function.Basic
import Rapidapp.Misc.CInt
import Rapidapp.Misc.Bytes

/-!
# EasyNet: one connection

`framework/rapidapp_easy_net.{h,cpp}`. An `EasyNet` object owns one libevent `bufferevent`
and, for a frontend, the user context the application keeps for the connection. Both kinds
of object live in a `Heap`: an address that is not in use maps to `none`, and `new` always
hands out an address that was never used before, so an address held after `delete` is
recognisably dangling.

Libevent is not part of the sources. A `BufferEvent` is the descriptor, the input and the
output stream; the outcome of every `bufferevent_write` is chosen by the environment
(`fate`), and a write that succeeds appends all its bytes.
-/

namespace Rapidapp

/-- Address of an `EasyNet`. -/
abbrev NetPtr := Nat

/-- Address of a `bufferevent`. -/
abbrev BevPtr := Nat

/-- Address of an `EasyRpc`. -/
abbrev RpcPtr := Nat

/-- `enum NetState` (`rapidapp_easy_net.h:12-18`). -/
inductive NetState where
  | netInit
  | netConnecting
  | netEstablished
  | netFailed
  | netBeenClosed
  deriving DecidableEq, Repr

/-- `enum SendError` (`rapidapp_easy_net.h:20-25`). -/
inductive SendError where
  | easyNetOk
  | easyNetErrNotYetEstablished
  | easyNetErrEstablishFailed
  | easyNetErrSendError
  deriving DecidableEq, Repr

/-- A libevent `bufferevent`: its descriptor and its two evbuffers. `drained` is ghost, the
bytes `evbuffer_drain` has removed from the input so far. -/
structure BufferEvent where
  fd : Int
  input : List UInt8
  output : List UInt8
  drained : List UInt8
  deriving DecidableEq, Repr

/-- `class EasyNet` (`rapidapp_easy_net.h:29-119`). `uri_` is used for log lines only and is
left out. `γ` is the type of the user context block. -/
structure EasyNet (γ : Type) where
  hevent : Option BevPtr
  netType : Int
  nid : Int
  state : NetState
  lastActiveTimestamp : Int
  prevPkgCount : Nat
  currPkgCount : Nat
  prevTrafficBytes : Nat
  currTrafficBytes : Nat
  rpcBinded : Option RpcPtr
  userContext : Option γ

/-- The objects of all connections of the process, the static `nid_seed`
(`rapidapp_easy_net.cpp:9`) and the outcomes of the `bufferevent_write` calls to come. -/
structure Heap (γ : Type) where
  nets : NetPtr → Option (EasyNet γ)
  bevs : BevPtr → Option BufferEvent
  nextNet : NetPtr
  nextBev : BevPtr
  nidSeed : Int
  fate : Nat → Bool
  writes : Nat

variable {γ : Type}

namespace Heap

/-- Before anything was created. -/
def empty (fate : Nat → Bool) : Heap γ where
  nets := fun _ => none
  bevs := fun _ => none
  nextNet := 0
  nextBev := 0
  nidSeed := 1
  fate := fate
  writes := 0

/-- Store an `EasyNet`. -/
def setNet (h : Heap γ) (p : NetPtr) (n : EasyNet γ) : Heap γ :=
  { h with nets := Function.update h.nets p (some n) }

/-- Store a `bufferevent`. -/
def setBev (h : Heap γ) (b : BevPtr) (e : BufferEvent) : Heap γ :=
  { h with bevs := Function.update h.bevs b (some e) }

/-- `new EasyNet()` (`rapidapp_easy_net.cpp:10-17`). -/
def newEasyNet (h : Heap γ) : NetPtr × Heap γ :=
  let net : EasyNet γ :=
    { hevent := none, netType := 0, nid := h.nidSeed, state := .netInit
      lastActiveTimestamp := 0, prevPkgCount := 0, currPkgCount := 0
      prevTrafficBytes := 0, currTrafficBytes := 0, rpcBinded := none, userContext := none }
  (h.nextNet, { h.setNet h.nextNet net with
    nextNet := h.nextNet + 1, nidSeed := CInt.int32 (h.nidSeed + 1) })

/-- `delete` of an `EasyNet`. -/
def deleteNet (h : Heap γ) (p : NetPtr) : Heap γ :=
  { h with nets := Function.update h.nets p none }

/-- `bufferevent_socket_new` for a socket with this descriptor. -/
def newBev (h : Heap γ) (fd : Int) : BevPtr × Heap γ :=
  (h.nextBev, { h.setBev h.nextBev ⟨fd, [], [], []⟩ with nextBev := h.nextBev + 1 })

/-- `bufferevent_getfd`. -/
def getfd (h : Heap γ) (b : BevPtr) : Int :=
  match h.bevs b with
  | some e => e.fd
  | none => -1

/-- `EasyNet::Init` and `EasyNet::Connect` once their checks have passed and the
`bufferevent` exists (`rapidapp_easy_net.cpp:43-47`, `99-102`). -/
def attach (h : Heap γ) (p : NetPtr) (fd : Int) (type : Int) (state : NetState) : Heap γ :=
  match h.nets p with
  | none => h
  | some n =>
    let (b, h) := h.newBev fd
    h.setNet p { n with hevent := some b, netType := type, state := state }

/-- `EasyNet::CleanUp` (`rapidapp_easy_net.cpp:107-114`): `bufferevent_free`. -/
def cleanUp (h : Heap γ) (p : NetPtr) : Heap γ :=
  match h.nets p with
  | none => h
  | some n =>
    match n.hevent with
    | none => h
    | some b => { h with bevs := Function.update h.bevs b none }.setNet p { n with hevent := none }

/-- `EasyNet::CreateUserContext` for a size above zero (`rapidapp_easy_net.cpp:123-130`); the
block reads as zeroes. `callocOk` is whether `calloc` finds memory. -/
def createUserContext [Inhabited γ] (h : Heap γ) (p : NetPtr) (callocOk : Bool) :
    Bool × Heap γ :=
  match h.nets p with
  | none => (false, h)
  | some n =>
    if callocOk then (true, h.setNet p { n with userContext := some default }) else (false, h)

/-- `EasyNet::DestroyUserContext` (`rapidapp_easy_net.cpp:132-139`). -/
def destroyUserContext (h : Heap γ) (p : NetPtr) : Heap γ :=
  match h.nets p with
  | none => h
  | some n => h.setNet p { n with userContext := none }

/-- `bufferevent_write`: appends all the bytes to the output, or fails and appends none. -/
def buffereventWrite (h : Heap γ) (b : BevPtr) (bytes : List UInt8) : Bool × Heap γ :=
  let ok := h.fate h.writes
  let h := { h with writes := h.writes + 1 }
  match h.bevs b with
  | none => (false, h)
  | some e => if ok then (true, h.setBev b { e with output := e.output ++ bytes }) else (false, h)

/-- The four header bytes `EasyNet::Send` writes for a payload of this size: the `size_t` sum
`size + sizeof(msglen)`, narrowed to `uint32_t`, in network order. -/
def lengthHeader (size : Nat) : List UInt8 := Bytes.be32 (CInt.uint64 (size + 4))

/-- The two `bufferevent_write` calls of `EasyNet::Send` (`rapidapp_easy_net.cpp:157-170`). -/
def writeFrame (h : Heap γ) (b : BevPtr) (msg : List UInt8) : SendError × Heap γ :=
  match h.buffereventWrite b (lengthHeader msg.length) with
  | (false, h) => (.easyNetErrSendError, h)
  | (true, h) =>
    match h.buffereventWrite b msg with
    | (false, h) => (.easyNetErrSendError, h)
    | (true, h) => (.easyNetOk, h)

/-- `EasyNet::Send` (`rapidapp_easy_net.cpp:136-177`); the empty list stands for a null or empty
message. A dangling `p` and `assert(hevent_ != NULL)` have no defined behaviour in the source
and nothing is written for them. -/
def send (h : Heap γ) (p : NetPtr) (msg : List UInt8) : SendError × Heap γ :=
  if msg = [] then (.easyNetOk, h)
  else
    match h.nets p with
    | none => (.easyNetErrSendError, h)
    | some n =>
      match n.hevent with
      | none => (.easyNetErrSendError, h)
      | some b =>
        if n.state ≠ .netEstablished then
          if n.state ≠ .netFailed then (.easyNetErrNotYetEstablished, h)
          else (.easyNetErrEstablishFailed, h)
        else h.writeFrame b msg

end Heap

end Rapidapp
