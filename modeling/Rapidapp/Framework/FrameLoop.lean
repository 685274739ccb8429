import Rapidapp.Misc.Framing
import Rapidapp.Framework.Interface

/-!
# OnFrontEndMsg and OnBackEndMsg: the frame loops

`framework/rapidapp_framework_imp.cpp:1006-1267` and `GetMsgLength`
(`rapidapp_framework_imp.h:174-183`). Both handlers copy the head of the connection's input
into the receive buffer, hand the payload of every complete frame in it to a handler, and
drain what was handed out; the loop they share is `frameLoop`. It runs on fuel: `none`
means that it was still running when the fuel was used up.
-/

namespace Rapidapp

variable {σ γ : Type}

/-- `AppFrameWork::GetMsgLength`: `ntohl` of the first four bytes, as an `int`. -/
def getMsgLength (buff : List UInt8) : Int :=
  if buff.length < 4 then 0 else CInt.int32 (Bytes.readBe32 buff)

/-- The loop `while (msg_size > elapsed_msglen)` over the receive buffer. `body` is given
`elapsed_msglen` and `msglen`; it answers `false` where the source returns from the loop. The
result is the state, `elapsed_msglen` and whether the loop ended by itself. -/
def frameLoop {S : Type} (body : Nat → Nat → S → S × Bool) (buf : List UInt8) :
    Nat → Nat → S → Option (S × Nat × Bool)
  | 0, _, _ => none
  | fuel + 1, elapsed, s =>
    if buf.length > elapsed then
      let msglen := CInt.uint64 (getMsgLength (buf.drop elapsed))
      if msglen = 0 ∨ msglen > buf.length - elapsed then some (s, elapsed, true)
      else
        match body elapsed msglen s with
        | (s, false) => some (s, elapsed, false)
        | (s, true) => frameLoop body buf fuel (elapsed + msglen) s
    else some (s, elapsed, true)

/-- The `size_t` difference `msglen - sizeof(uint32_t)`. -/
def payloadSize (msglen : Nat) : Nat := CInt.uint64 (msglen - 4)

/-- The bytes of the receive buffer in the range handed out for the frame at `elapsed`. -/
def payloadBytes (buf : List UInt8) (elapsed msglen : Nat) : List UInt8 :=
  (buf.drop (elapsed + 4)).take (payloadSize msglen)

/-- Ghost record of one payload handed to a handler: the frame's `msglen`, the range
`[offset, offset + size)` of the receive buffer, of which the first `msgSize` bytes were copied
in by this run, the bytes of the range in that part, and whether the connection was in its pool
at the time. -/
structure Dispatch where
  net : NetPtr
  msglen : Nat
  offset : Nat
  size : Nat
  msgSize : Nat
  bytes : List UInt8
  inPool : Bool
  deriving DecidableEq, Repr

/-- The record of the payload of the frame at `elapsed`. -/
def Dispatch.ofFrame (p : NetPtr) (buf : List UInt8) (elapsed msglen : Nat) (inPool : Bool) :
    Dispatch where
  net := p
  msglen := msglen
  offset := elapsed + 4
  size := payloadSize msglen
  msgSize := buf.length
  bytes := payloadBytes buf elapsed msglen
  inPool := inPool

namespace World

/-- Update an `EasyNet` through a pointer; nothing happens for a dangling one. -/
def modifyNet (w : World σ γ) (p : NetPtr) (f : EasyNet γ → EasyNet γ) : World σ γ :=
  match w.heap.nets p with
  | none => w
  | some n => { w with heap := w.heap.setNet p (f n) }

/-- `evbuffer_drain` on the input of a `bufferevent`. -/
def evbufferDrain (w : World σ γ) (b : BevPtr) (len : Nat) : World σ γ :=
  match w.heap.bevs b with
  | none => w
  | some e =>
    let e := { e with input := e.input.drop len, drained := e.drained ++ e.input.take len }
    { w with heap := w.heap.setBev b e }

/-- `AppFrameWork::OnFrontEndRpcMsg` (`rapidapp_framework_imp.cpp:1006-1064`). -/
def onFrontEndRpcMsg (app : App σ γ) (p : NetPtr) (data : List UInt8) (size : Nat)
    (w : World σ γ) : Int × World σ γ :=
  match app.spawnMessage data size with
  | none => (-1, w)
  | some req =>
    match app.rpcSvcMgr with
    | none => (-1, w)
    | some getRpcService =>
      match getRpcService req.typeName with
      | none => (0, w)
      | some svc => if svc.newResponse then (1, svc.onRpcCall p req w) else (0, w)

/-- `++(easy_net->curr_pkg_count_)`. -/
def countPkg (n : EasyNet γ) : EasyNet γ :=
  { n with currPkgCount := CInt.uint64 (n.currPkgCount + 1) }

/-- The counters `OnFrontEndMsg` updates after the loop (`rapidapp_framework_imp.cpp:1143-1144`). -/
def countTraffic (elapsed : Nat) (now : Int) (n : EasyNet γ) : EasyNet γ :=
  { n with
    currTrafficBytes := CInt.uint64 (n.currTrafficBytes + elapsed)
    lastActiveTimestamp := now }

end World

/-- The state with two ghost records of the message handlers, which no code reads: the payloads
handed out, and every access to an `EasyNet` or its evbuffer, with whether the `EasyNet` was in
its pool then. -/
structure Monitor (σ γ : Type) where
  world : World σ γ
  handed : List Dispatch
  touched : List (NetPtr × Bool)

namespace Monitor

/-- The handler accesses the `EasyNet` or its evbuffer. -/
def touch (m : Monitor σ γ) (side : Side) (p : NetPtr) : Monitor σ γ :=
  { m with touched := m.touched ++ [(p, m.world.inPool side p)] }

/-- The payload of the frame at `elapsed` is handed to a handler. -/
def hand (m : Monitor σ γ) (side : Side) (p : NetPtr) (buf : List UInt8) (elapsed msglen : Nat) :
    Monitor σ γ :=
  { m with handed := m.handed ++ [Dispatch.ofFrame p buf elapsed msglen (m.world.inPool side p)] }

/-- The program goes on in another state. -/
def goTo (m : Monitor σ γ) (w : World σ γ) : Monitor σ γ := { m with world := w }

/-- The body of the loop of `OnFrontEndMsg` (`rapidapp_framework_imp.cpp:1112-1139`). -/
def frontEndBody (app : App σ γ) (p : NetPtr) (buf : List UInt8) (elapsed msglen : Nat)
    (m : Monitor σ γ) : Monitor σ γ × Bool :=
  let data := payloadBytes buf elapsed msglen
  let size := payloadSize msglen
  match m.world.svcMode with
  | .rpc =>
    let m := m.hand .frontEnd p buf elapsed msglen
    match World.onFrontEndRpcMsg app p data size m.world with
    | (ret, w) =>
      -- the log line or the counter
      let m := (m.goTo w).touch .frontEnd p
      if ret < 0 then (m.goTo (w.destroyFrontEnd (some p)), false)
      else (m.goTo (w.modifyNet p World.countPkg), true)
  | .normal =>
    let m := (m.touch .frontEnd p).hand .frontEnd p buf elapsed msglen
    let type := ((m.world.heap.nets p).map (·.netType)).getD 0
    let w := (app.onRecvFrontEnd p type data size m.world).2
    let m := (m.goTo w).touch .frontEnd p
    (m.goTo (w.modifyNet p World.countPkg), true)

/-- What `OnFrontEndMsg` does after its loop (`rapidapp_framework_imp.cpp:1141-1144`). -/
def finishFrontEnd (m : Monitor σ γ) (p : NetPtr) (b : BevPtr) (elapsed : Nat) : Monitor σ γ :=
  let m := m.touch .frontEnd p
  let m := (m.goTo (m.world.evbufferDrain b elapsed)).touch .frontEnd p
  m.goTo (m.world.modifyNet p (World.countTraffic elapsed m.world.now))

/-- `AppFrameWork::OnFrontEndMsg` (`rapidapp_framework_imp.cpp:1066-1147`). A `bufferevent` that
was freed has no more events. -/
def onFrontEndMsg (app : App σ γ) (m : Monitor σ γ) (b : BevPtr) : Option (Monitor σ γ) :=
  match m.world.heap.bevs b with
  | none => some m
  | some e =>
    let buf := e.input.take m.world.frontendHandlerMgr.recvBuffer.size
    match m.world.frontendHandlerMgr.getHandlerByEvent m.world.heap b with
    | none => some m
    | some p =>
      -- `evbuffer_copyout`
      let m := m.touch .frontEnd p
      match frameLoop (frontEndBody app p buf) buf (buf.length + 1) 0 m with
      | none => none
      | some (m, _, false) => some m
      | some (m, elapsed, true) => some (m.finishFrontEnd p b elapsed)

/-- The body of the loop of `OnBackEndMsg` (`rapidapp_framework_imp.cpp:1242-1262`). -/
def backEndBody (app : App σ γ) (p : NetPtr) (buf : List UInt8) (elapsed msglen : Nat)
    (m : Monitor σ γ) : Monitor σ γ × Bool :=
  let data := payloadBytes buf elapsed msglen
  let size := payloadSize msglen
  let m := (m.touch .backEnd p).hand .backEnd p buf elapsed msglen
  let w := m.world
  let net := w.heap.nets p
  let type := (net.map (·.netType)).getD 0
  match net.bind (·.rpcBinded) with
  | some rpc =>
    if app.rpcIsActive rpc w then (m.goTo (app.rpcResume rpc data size w), true)
    else (m.goTo (app.onRecvBackEnd p type data size w).2, true)
  | none => (m.goTo (app.onRecvBackEnd p type data size w).2, true)

/-- `AppFrameWork::OnBackEndMsg` (`rapidapp_framework_imp.cpp:1196-1267`). -/
def onBackEndMsg (app : App σ γ) (m : Monitor σ γ) (b : BevPtr) : Option (Monitor σ γ) :=
  match m.world.heap.bevs b with
  | none => some m
  | some e =>
    let buf := e.input.take m.world.backendHandlerMgr.recvBuffer.size
    match m.world.backendHandlerMgr.getHandlerByEvent m.world.heap b with
    | none => some m
    | some p =>
      let m := m.touch .backEnd p
      match frameLoop (backEndBody app p buf) buf (buf.length + 1) 0 m with
      | none => none
      | some (m, elapsed, _) =>
        let m := m.touch .backEnd p
        some (m.goTo (m.world.evbufferDrain b elapsed))

/-- The handler of the read event of a connection. -/
def onMsg (app : App σ γ) : Side → Monitor σ γ → BevPtr → Option (Monitor σ γ)
  | .frontEnd => onFrontEndMsg app
  | .backEnd => onBackEndMsg app

/-- A chunk of bytes arrives on a connection: libevent appends it to the input and runs the
handler once. -/
def arrive (app : App σ γ) (side : Side) (b : BevPtr) (m : Monitor σ γ) (chunk : List UInt8) :
    Option (Monitor σ γ) :=
  match m.world.heap.bevs b with
  | none => some m
  | some e =>
    let e := { e with input := e.input ++ chunk }
    onMsg app side (m.goTo { m.world with heap := m.world.heap.setBev b e }) b

end Monitor

end Rapidapp
