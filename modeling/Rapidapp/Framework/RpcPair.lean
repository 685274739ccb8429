import Rapidapp.Framework.ClosureReplies
import Rapidapp.Framework.RpcReplies
import Rapidapp.Framework.RpcWire

/-!
# A caller and a service

Two processes and the connection between them. In the one an `EasyRpc` is bound to the connection
and calls; in the other the connection is a frontend in rpc mode, and services answer with closures.
An `RpcPair` is what the two have come to and how much of what each has written the other has had:
the bytes of the caller arrive at the server in order, any number at a time, and the caller is
served the frames of the server in order. Both go on with everything else they do in between, on
their other connections and with their other `EasyRpc` objects and closures. What a step asks for is
of three kinds.

Of the connection and the environment: it stays open at the caller (`RpcLine.Up`, `RpcLine.Keeps`)
and in the pool of the server, both writes of every `Send` succeed (`RpcSetup.Fits`,
`ServiceRun.Writable`), the caller has made fewer than 2^31 coroutines, and no message has 2^31
bytes.

Of the two applications: a call has a response to parse its reply into, as `RpcCall` asserts, and an
initialized request; callbacks and handlers make no `RpcCall` of their own and destroy no `EasyRpc`
(`RpcUser`); nothing else is written to the connection (`RpcLine.Keeps`, `RpcSetup.Serves`); a
service completes a closure once, with an answer that the request may have, and what it gives `Done`
is initialized (`RpcSetup.Answers`).

What is left out are three defects. `MessageToBinary` refuses a type name of 1024 bytes;
`RpcFunction` does not look at what it returns and sends the last request again
(`Rapidapp.Framework.RpcFrames`), and `Done` of such a response sends nothing. A write that fails
tears a frame (`Rapidapp.Framework.SendFrames`). A closure that is completed after its connection
has gone sends on an `EasyNet` that was freed (`Rapidapp.Framework.ClosureRuns`).
-/

namespace Rapidapp

/-- A connection between two processes: the `EasyRpc` and its connection with its `bufferevent` in
the one, the frontend with its `bufferevent` in the other. -/
structure RpcLine where
  rpc : RpcPtr
  net : NetPtr
  bev : BevPtr
  peer : NetPtr
  input : BevPtr
  deriving DecidableEq, Repr

/-- A call for which `RpcCall` has returned 0: what the callback will be called with, its asyncid,
and the request as it was then. -/
structure RpcCallMade (Msg : Type) where
  ctx : RpcContext
  asyncid : Nat
  request : RpcContent Msg

/-- A callback that was called: its arguments, and the response as it was then. -/
structure RpcReturn (Msg : Type) where
  ctx : RpcContext
  status : Int
  response : Option Msg

/-- The two processes, the bytes of the caller that have arrived at the server, and the bytes of
the server that the caller was served. `called`, `taken`, `told` and `returned` are ghosts: the
calls made, the requests for which a closure was made, the answers of the closures, and the
callbacks called. -/
structure RpcPair (υ ν Msg γ δ : Type) where
  caller : RpcWorld υ Msg γ
  server : ServiceRun ν Msg δ
  arrived : Nat := 0
  heard : Nat := 0
  called : List (RpcCallMade Msg) := []
  taken : List (RpcAsk Msg) := []
  told : List (RpcTell Msg) := []
  returned : List (RpcReturn Msg) := []

/-- One thing that happens. -/
inductive RpcPairEvent (ν Msg γ δ : Type) where
  /-- `RpcCall` of the `EasyRpc`. -/
  | call (a : World.RpcArgs)
  /-- Something else happens in the process of the caller. -/
  | caller (e : RpcEvent γ)
  /-- The next bytes of the caller arrive at the server. -/
  | arrive (n : Nat)
  /-- Something happens in the process of the server. -/
  | server (e : ServiceEvent ν Msg δ)
  /-- The caller is served the next frame of the server. -/
  | hear

variable {υ ν Msg γ δ : Type}

/-- The two programs, the connection, which messages protobuf can write, and which answers a
request may have. -/
structure RpcSetup (υ ν Msg γ : Type) where
  user : RpcUser υ Msg γ
  server : RpcServer ν Msg
  setting : Setting
  line : RpcLine
  initialized : List UInt8 → Msg → Bool
  may : RpcContent Msg → Option (RpcContent Msg) → Bool

namespace RpcLine

/-- The `EasyRpc` is there and its connection is open, and the ids of the coroutines have not run
over. -/
structure Up (l : RpcLine) (w : RpcWorld υ Msg γ) : Prop where
  binding : (w.app.rpcs l.rpc).bind (·.binding) = some l.net
  net : (w.heap.nets l.net).map (fun n => (n.rpcBinded, n.hevent, n.state)) =
    some (some l.rpc, some l.bev, .netEstablished)
  bev : (w.heap.bevs l.bev).isSome = true
  few : w.app.scheduler.created < 2 ^ 31

instance (l : RpcLine) (w : RpcWorld υ Msg γ) : Decidable (l.Up w) :=
  decidable_of_iff ((w.app.rpcs l.rpc).bind (·.binding) = some l.net ∧
      (w.heap.nets l.net).map (fun n => (n.rpcBinded, n.hevent, n.state)) =
        some (some l.rpc, some l.bev, .netEstablished) ∧
      (w.heap.bevs l.bev).isSome = true ∧ w.app.scheduler.created < 2 ^ 31)
    ⟨fun h => ⟨h.1, h.2.1, h.2.2.1, h.2.2.2⟩, fun h => ⟨h.binding, h.net, h.bev, h.few⟩⟩

/-- The connection stays open, and nothing was written to it. -/
def Keeps (l : RpcLine) (w w' : RpcWorld υ Msg γ) : Prop :=
  l.Up w' ∧ w'.heap.output l.bev = w.heap.output l.bev

instance (l : RpcLine) (w w' : RpcWorld υ Msg γ) : Decidable (l.Keeps w w') :=
  inferInstanceAs (Decidable (_ ∧ _))

/-- The event is about other connections and other `EasyRpc` objects. -/
def Elsewhere (l : RpcLine) (w : RpcWorld υ Msg γ) : RpcEvent γ → Prop
  | .call r a => r ≠ l.rpc ∧ a.response ≠ none
  | .frame p _ _ => (w.heap.nets p).bind (·.rpcBinded) ≠ some l.rpc
  | _ => True

instance (l : RpcLine) (w : RpcWorld υ Msg γ) : ∀ e : RpcEvent γ, Decidable (l.Elsewhere w e)
  | .call _ _ => inferInstanceAs (Decidable (_ ∧ _))
  | .frame _ _ _ => inferInstanceAs (Decidable (_ ≠ _))
  | .createRpc _ _ _ | .user _ | .connections _ _ _ => isTrue trivial

/-- The call that `RpcCall` makes with these arguments. -/
def made (l : RpcLine) (w : RpcWorld υ Msg γ) (a : World.RpcArgs) : List (RpcCallMade Msg) :=
  match a.request, a.callback with
  | some request, some callback =>
    [⟨w.contextOf l.rpc request callback a, w.app.asyncidSeed,
      (request.typeName, w.app.messages request.addr)⟩]
  | _, _ => []

/-- The callback that `Resume` calls for this frame. -/
def returns (l : RpcLine) (proto : RpcProto Msg) (data : List UInt8) (size : Nat)
    (w : RpcWorld υ Msg γ) : List (RpcReturn Msg) :=
  match World.resumeStart proto l.rpc data size w with
  | some (some c, w) => [⟨c.task, c.status, c.task.response.map fun r => w.app.messages r.addr⟩]
  | _ => []

/-- The request of the connection that has got a closure from `s` to `s'`. -/
def opened (l : RpcLine) (s s' : ServiceRun ν Msg δ) : List (RpcAsk Msg) :=
  match s'.service.closures s.service.nextClosure with
  | some c =>
    if c.net = l.peer then [(c.asyncId, c.req.typeName, s'.service.messages c.req.addr)] else []
  | none => []

/-- What the closure answers, if its request came in on the connection. -/
def answer (l : RpcLine) (s : ServiceRun ν Msg δ) (c : ClosurePtr)
    (a : EasyRpcClosure → Option (RpcContent Msg)) : List (RpcTell Msg) :=
  match s.service.closures c with
  | some closure => if closure.net = l.peer then [(closure.asyncId, a closure)] else []
  | none => []

/-- The response of a closure. -/
def response (s : ServiceRun ν Msg δ) (closure : EasyRpcClosure) : Option (RpcContent Msg) :=
  some (closure.rsp.typeName, s.service.messages closure.rsp.addr)

/-- What the event answers on the connection. -/
def answered (l : RpcLine) (s : ServiceRun ν Msg δ) : ServiceEvent ν Msg δ → List (RpcTell Msg)
  | .done c => l.answer s c (response s)
  | .cancel c => l.answer s c fun _ => none
  | _ => []

end RpcLine

namespace RpcSetup

/-- The call has a response to parse its reply into, and its request can be written and sent. -/
def Fits (S : RpcSetup υ ν Msg γ) (w : RpcWorld υ Msg γ) (a : World.RpcArgs) : Prop :=
  a.response ≠ none ∧ w.heap.fate w.heap.writes = true ∧
    w.heap.fate (w.heap.writes + 1) = true ∧ ∀ request ∈ a.request,
      request.typeName.length < maxMessageName ∧
      S.initialized request.typeName (w.app.messages request.addr) = true ∧
      (S.server.proto.serializeRpc (S.server.proto.askMessage (w.app.asyncidSeed, request.typeName,
        w.app.messages request.addr))).length + 4 < 2 ^ 31

instance (S : RpcSetup υ ν Msg γ) (w : RpcWorld υ Msg γ) (a : World.RpcArgs) :
    Decidable (S.Fits w a) :=
  inferInstanceAs (Decidable (_ ∧ _ ∧ _ ∧ ∀ request ∈ a.request, _ ∧ _ ∧ _))

/-- The answer is one that the request may have, and it can be written and sent. -/
def Answers (S : RpcSetup υ ν Msg γ) (taken : List (RpcAsk Msg)) (y : RpcTell Msg) : Prop :=
  (∀ x ∈ taken, x.1 = y.1 → S.may x.2 y.2 = true) ∧
    (∀ content ∈ y.2, S.initialized content.1 content.2 = true) ∧
    (S.server.proto.serializeRpc (S.server.proto.tellMessage y)).length + 4 < 2 ^ 31

instance (S : RpcSetup υ ν Msg γ) (taken : List (RpcAsk Msg)) (y : RpcTell Msg) :
    Decidable (S.Answers taken y) :=
  inferInstanceAs (Decidable ((∀ x ∈ taken, _ → _) ∧ (∀ content ∈ y.2, _) ∧ _))

/-- The bytes for the connection come from the caller, and only closures write to it: completed
once, while it takes what is written, and with an answer. -/
def Serves (S : RpcSetup υ ν Msg γ) (s : ServiceRun ν Msg δ) (taken : List (RpcAsk Msg)) :
    ServiceEvent ν Msg δ → Prop
  | .loop (.arrive b _) =>
    s.world.frontendHandlerMgr.getHandlerByEvent s.world.heap b ≠ some S.line.peer
  | .call (.sendToFrontEnd net _) => net ≠ some S.line.peer
  | .call (.sendToBackEnd net _) => net ≠ some S.line.peer
  | .done c => ∀ closure ∈ s.service.closures c, closure.net = S.line.peer →
      s.Writable closure ∧ closure.rsp.typeName.length < maxMessageName ∧
        S.Answers taken (closure.asyncId, RpcLine.response s closure)
  | .cancel c => ∀ closure ∈ s.service.closures c, closure.net = S.line.peer →
      s.Writable closure ∧ S.Answers taken (closure.asyncId, none)
  | _ => True

instance (S : RpcSetup υ ν Msg γ) (s : ServiceRun ν Msg δ) (taken : List (RpcAsk Msg)) :
    ∀ e : ServiceEvent ν Msg δ, Decidable (S.Serves s taken e)
  | .loop (.arrive _ _) | .call (.sendToFrontEnd _ _) | .call (.sendToBackEnd _ _) =>
    inferInstanceAs (Decidable (_ ≠ _))
  | .done c => inferInstanceAs (Decidable (∀ closure ∈ s.service.closures c, _ → _ ∧ _ ∧ _))
  | .cancel c => inferInstanceAs (Decidable (∀ closure ∈ s.service.closures c, _ → _ ∧ _))
  | .loop (.connect _ _ _) | .loop (.socketEvent _ _ _) | .loop (.unpack _ _) | .loop (.clock _)
  | .loop (.tick _) | .round _ | .returned | .call (.user _) | .call (.message _ _)
  | .call (.setUserContext _ _) | .call (.destroyNet _ _) | .call (.createBackEnd _ _) =>
    isTrue trivial

end RpcSetup

namespace RpcPair

/-- What the caller has written for the server. -/
def asks (l : RpcLine) (P : RpcPair υ ν Msg γ δ) : List UInt8 := P.caller.heap.output l.bev

/-- What the server has written for the caller. -/
def tells (l : RpcLine) (P : RpcPair υ ν Msg γ δ) : List UInt8 := P.server.world.heap.output l.input

/-- One event. `none` is one that does not happen. -/
def step [Inhabited δ] (S : RpcSetup υ ν Msg γ) (P : RpcPair υ ν Msg γ δ) :
    RpcPairEvent ν Msg γ δ → Option (RpcPair υ ν Msg γ δ)
  | .call a =>
    match P.caller.rpcCall S.server.proto S.user S.line.rpc a with
    | none => none
    | some (ret, w) =>
      if S.Fits P.caller a ∧ S.line.Up w then
        some { P with
          caller := w
          called := P.called ++ if ret = 0 then S.line.made P.caller a else [] }
      else none
  | .caller e =>
    match rpcStep S.server.proto S.user P.caller e with
    | none => none
    | some w =>
      if S.line.Elsewhere P.caller e ∧ S.line.Keeps P.caller w then some { P with caller := w }
      else none
  | .arrive n =>
    let chunk := ((P.asks S.line).drop P.arrived).take n
    match P.server.step S.server S.setting (.loop (.arrive S.line.input chunk)) with
    | none => none
    | some s => some { P with server := s, arrived := P.arrived + chunk.length }
  | .server e =>
    match P.server.step S.server S.setting e with
    | none => none
    | some s =>
      if S.Serves P.server P.taken e ∧ s.world.inPool .frontEnd S.line.peer = true then
        some { P with
          server := s
          taken := P.taken ++ S.line.opened P.server s
          told := P.told ++ S.line.answered P.server e }
      else none
  | .hear =>
    let out := P.tells S.line
    match msgDecoder.next (out.drop P.heard) with
    | none => none
    | some n =>
      let data := payloadBytes out P.heard n
      match P.caller.serveBackEnd S.server.proto S.user S.line.net data (payloadSize n) with
      | none => none
      | some w =>
        if S.line.Keeps P.caller w then
          some { P with
            caller := w
            heard := P.heard + n
            returned := P.returned ++
              S.line.returns S.server.proto data (payloadSize n) P.caller }
        else none

end RpcPair

end Rapidapp
