import Rapidapp.Misc.ProtoWire
import Rapidapp.Framework.RpcProcess
import Rapidapp.Framework.RpcCalls

/-!
# The two decoders of a reply

An `RpcMessage` is read into an object of the application in two places.
`MessageGenerator::BinaryToMessage` (`framework/rapidapp_message_reflection.cpp`) compares
`msg_name` with the name of the object's type before it parses `msg_bin` into it. `RpcFunction`
(`framework/rapidapp_easy_rpc.cpp`) goes on with the message that `Resume` has unpacked, looks at
`msg_type`, and parses `msg_bin` into the response whatever `msg_name` says.
-/

namespace Rapidapp

variable {υ Msg γ : Type}

/-- `MessageGenerator::BinaryToMessage` (`rapidapp_message_reflection.cpp:214-249`) for a message
that is not null: its result, the static `rpc_msg_` and the objects after it. -/
def RpcProto.binaryToMessage (proto : RpcProto Msg) (data : List UInt8) (size : Nat)
    (message : MessageRef) (rpcMsg : RpcMessage) (messages : Nat → Msg) :
    Int × RpcMessage × (Nat → Msg) :=
  match proto.unpackToRpcMsg data size rpcMsg with
  | (ret, rpcMsg) =>
    if ret ≠ 0 then (-1, rpcMsg, messages)
    else if message.typeName ≠ rpcMsg.msgName then (-1, rpcMsg, messages)
    else
      match proto.parseFromString message.typeName rpcMsg.msgBin with
      | (false, msg) => (-1, rpcMsg, Function.update messages message.addr msg)
      | (true, msg) => (0, rpcMsg, Function.update messages message.addr msg)

namespace World

variable {proto : RpcProto Msg} {r : RpcPtr} {data : List UInt8} {size : Nat}
  {w w' : RpcWorld υ Msg γ} {c : RpcCallback} {response : MessageRef}

/-- The callback of `w'` agrees with what `BinaryToMessage` would have done with the frame in `w`. -/
structure AgreesWithChecked (proto : RpcProto Msg) (data : List UInt8) (size : Nat)
    (response : MessageRef) (w : RpcWorld υ Msg γ) (c : RpcCallback) (w' : RpcWorld υ Msg γ) :
    Prop where
  status : c.status = 0 ↔
    (proto.unpackToRpcMsg data size w.app.rpcMsg).2.msgType ≠ rpcTypeError ∧
      (proto.binaryToMessage data size response w.app.rpcMsg w.app.messages).1 = 0
  messages : c.status = 0 → w'.app.messages =
    (proto.binaryToMessage data size response w.app.rpcMsg w.app.messages).2.2
  named : (proto.unpackToRpcMsg data size w.app.rpcMsg).2.msgName ≠ response.typeName →
    c.status ≠ 0

/-- The frame is an error, or it names the type of the response, or its bytes are no message of
this type. -/
def NamedOrRefused (proto : RpcProto Msg) (response : MessageRef) (msg : RpcMessage) : Prop :=
  msg.msgType = rpcTypeError ∨ msg.msgName = response.typeName ∨
    (proto.parseFromString response.typeName msg.msgBin).1 = false

/-- What `RpcFunction` has done with the message when it calls the callback. -/
theorem wakeStart_callback {crid : Int} (h : wakeStart proto r crid w = some (some c, w'))
    (hresponse : c.task.response = some response) :
    c.status = replyStatus proto response w.app.rpcMsg ∧ w'.app.messages =
      if w.app.rpcMsg.msgType = rpcTypeError then w.app.messages
      else Function.update w.app.messages response.addr
        (proto.parseFromString response.typeName w.app.rpcMsg.msgBin).2 := by
  unfold wakeStart at h
  split at h
  next idx task _ =>
    obtain ⟨w₁, hreply, heq⟩ := Option.map_eq_some_iff.mp h
    obtain ⟨hc, rfl⟩ := Prod.mk.inj heq
    obtain rfl := Option.some.inj hc
    have htask : task.response = some response := hresponse
    unfold rpcFunctionReply at hreply
    rw [htask] at hreply
    obtain rfl := Option.some.inj hreply
    refine ⟨?_, rfl⟩
    show task.response.elim 0 (fun response => replyStatus proto response w.app.rpcMsg) = _
    rw [htask]
    rfl
  next =>
    split_ifs at h
    · obtain ⟨_, _, heq⟩ := Option.map_eq_some_iff.mp h
      cases heq
    · cases h

/-- `Resume` comes to a callback only with a message that it could unpack. -/
theorem resumeStart_callback (h : resumeStart proto r data size w = some (some c, w'))
    (hresponse : c.task.response = some response) :
    ∃ msg, proto.unpackToRpcMsg data size w.app.rpcMsg = (0, msg) ∧
      c.status = replyStatus proto response msg ∧ w'.app.messages =
        if msg.msgType = rpcTypeError then w.app.messages
        else Function.update w.app.messages response.addr
          (proto.parseFromString response.typeName msg.msgBin).2 := by
  unfold resumeStart at h
  split at h
  · cases h
  next rpc _ =>
    rcases hunpack : proto.unpackToRpcMsg data size w.app.rpcMsg with ⟨ret, msg⟩
    rw [hunpack] at h
    dsimp only at h
    split_ifs at h with hret
    · cases h
    · obtain rfl : ret = 0 := not_not.mp hret
      exact ⟨msg, rfl, wakeStart_callback h hresponse⟩

variable (response) in
/-- What `BinaryToMessage` does with a message that it could unpack. -/
theorem binaryToMessage_of_unpack {rpcMsg msg : RpcMessage} (messages : Nat → Msg)
    (hunpack : proto.unpackToRpcMsg data size rpcMsg = (0, msg)) :
    ((proto.binaryToMessage data size response rpcMsg messages).1 = 0 ↔
      msg.msgName = response.typeName ∧
        (proto.parseFromString response.typeName msg.msgBin).1 = true) ∧
    (msg.msgName = response.typeName →
      (proto.binaryToMessage data size response rpcMsg messages).2.2 =
        Function.update messages response.addr
          (proto.parseFromString response.typeName msg.msgBin).2) := by
  unfold RpcProto.binaryToMessage
  rw [hunpack]
  dsimp only
  by_cases hname : response.typeName = msg.msgName
  · rcases hparse : proto.parseFromString response.typeName msg.msgBin with ⟨parsed, m⟩
    cases parsed with
    | false => simp [hname]
    | true => simp [hname]
  · simp [hname, Ne.symm hname]

theorem replyStatus_eq_zero {msg : RpcMessage} : replyStatus proto response msg = 0 ↔
    msg.msgType ≠ rpcTypeError ∧
      (proto.parseFromString response.typeName msg.msgBin).1 = true := by
  unfold replyStatus
  split_ifs with herror hparse
  · simp [herror]
  · simp [herror, hparse]
  · simp [hparse]

/-- For every frame that comes to a callback, `RpcFunction` agrees with `BinaryToMessage` exactly if
the name of the frame makes no difference. -/
theorem agreesWithChecked_iff (h : resumeStart proto r data size w = some (some c, w'))
    (hresponse : c.task.response = some response) :
    AgreesWithChecked proto data size response w c w' ↔
      NamedOrRefused proto response (proto.unpackToRpcMsg data size w.app.rpcMsg).2 := by
  obtain ⟨msg, hunpack, hstatus, hmessages⟩ := resumeStart_callback h hresponse
  obtain ⟨hzero, hchecked⟩ := binaryToMessage_of_unpack response w.app.messages hunpack
  have hreply : c.status = 0 ↔ msg.msgType ≠ rpcTypeError ∧
      (proto.parseFromString response.typeName msg.msgBin).1 = true := by
    rw [hstatus]
    exact replyStatus_eq_zero
  have hmsg : (proto.unpackToRpcMsg data size w.app.rpcMsg).2 = msg := by rw [hunpack]
  unfold NamedOrRefused
  rw [hmsg]
  constructor
  · intro hagrees
    by_contra hnot
    push Not at hnot
    obtain ⟨herror, hname, hparse⟩ := hnot
    have hok : c.status = 0 := hreply.mpr ⟨herror, Bool.eq_true_of_not_eq_false hparse⟩
    exact hagrees.named (by rwa [hmsg]) hok
  · intro hcond
    have hname : c.status = 0 → msg.msgName = response.typeName := by
      intro hok
      obtain ⟨herror, hparse⟩ := hreply.mp hok
      obtain hc | hc | hc := hcond
      · exact absurd hc herror
      · exact hc
      · rw [hc] at hparse
        cases hparse
    refine ⟨?_, ?_, ?_⟩
    · rw [hmsg, hzero]
      constructor
      · intro hok
        obtain ⟨herror, hparse⟩ := hreply.mp hok
        exact ⟨herror, hname hok, hparse⟩
      · intro ⟨herror, _, hparse⟩
        exact hreply.mpr ⟨herror, hparse⟩
    · intro hok
      rw [hmessages, if_neg (hreply.mp hok).1, hchecked (hname hok)]
    · intro hne hok
      rw [hmsg] at hne
      exact hne (hname hok)

end World

/-! ## A reply of another type -/

open ProtoWire in
/-- `RpcMessage` as protobuf writes it. An object is its own bytes; its type has optional fields
only, so it reads every sequence of fields, those it does not know among them. -/
def RpcProto.wire : RpcProto (List UInt8) where
  serializeToString m := m
  parseFromString _ bytes := (complete bytes, bytes)
  serializeRpc m := encode ((1, .varint (CInt.uint64 m.magic)) ::
    [(2, .varint (CInt.uint64 m.msgType)), (3, .varint m.asyncid), (4, .bytes m.msgName),
      (6, .bytes m.msgBin)])
  serializeRpc_ne_nil m h :=
    encodeField_ne_nil (1, .varint (CInt.uint64 m.magic)) (List.append_eq_nil_iff.mp h).1
  parseRpcFromArray bytes size :=
    let fields := decode (bytes.take size)
    match find 2 fields, find 3 fields, find 4 fields, find 6 fields with
    | some (.varint type), some (.varint asyncid), some (.bytes name), some (.bytes bin) =>
      (complete (bytes.take size), ⟨magicRpcstampV1, type, asyncid, name, none, bin⟩)
    | _, _, _, _ => (false, ⟨magicRpcstampV1, 0, 0, [], none, []⟩)

/-- A call whose request is a `Ping` at 0 and whose response is a `Pong` at 1. -/
def World.RpcArgs.ping : World.RpcArgs :=
  ⟨some ⟨0, [80, 105, 110, 103]⟩, some ⟨1, [80, 111, 110, 103]⟩, some 1, 0, true, true⟩

/-- The frame that answers the first call with a message of this name, whose field 1 is 5. -/
def answerNamed (name : List UInt8) : List UInt8 :=
  RpcProto.wire.serializeRpc ⟨magicRpcstampV1, 2, 0, name, none, [8, 5]⟩

/-- The process that waits for the answer to its first call. -/
def RpcWorld.pinging : RpcWorld Unit (List UInt8) Unit :=
  (Run.run (rpcStep .wire .idle) .idle [.createRpc 0 (some 7) true, .call 0 .ping]).getD .idle

theorem run_pinging :
    Run.run (rpcStep .wire .idle) .idle [.createRpc 0 (some 7) true, .call 0 .ping] =
      some .pinging := by
  have hruns : (Run.run (rpcStep .wire .idle) .idle
      [.createRpc 0 (some 7) true, .call 0 .ping]).isSome := by decide +kernel
  obtain ⟨w, hw⟩ := Option.isSome_iff_exists.mp hruns
  rw [RpcWorld.pinging, hw]
  rfl

/-- A reply of the right type, and the two decoders agree. -/
theorem agreesWithChecked_iff_pong : ∃ c w',
    RpcWorld.pinging.resumeStart .wire 0 (answerNamed [80, 111, 110, 103]) 18 =
      some (some c, w') ∧ c.status = 0 ∧
      World.AgreesWithChecked .wire (answerNamed [80, 111, 110, 103]) 18
        ⟨1, [80, 111, 110, 103]⟩ .pinging c w' := by
  have hseen : (RpcWorld.pinging.resumeStart .wire 0 (answerNamed [80, 111, 110, 103]) 18).map
      (fun x => x.1.map fun c => (c.task.response, c.status)) =
      some (some (some ⟨1, [80, 111, 110, 103]⟩, 0)) := by decide +kernel
  obtain ⟨⟨callback, w'⟩, hresume, hc⟩ := Option.map_eq_some_iff.mp hseen
  obtain ⟨c, hcallback, hseen⟩ := Option.map_eq_some_iff.mp hc
  obtain rfl : callback = some c := hcallback
  obtain ⟨hresponse, hstatus⟩ := Prod.mk.inj hseen
  refine ⟨c, w', hresume, hstatus, (World.agreesWithChecked_iff hresume hresponse).mpr ?_⟩
  exact .inr (.inl (by decide +kernel))

/-- A `Ping` for an answer is a `Pong` to `RpcFunction`: both have the same fields. -/
theorem pinging_disagrees : ∃ c w',
    Run.run (rpcStep .wire .idle) .idle [.createRpc 0 (some 7) true, .call 0 .ping] =
      some .pinging ∧
    RpcWorld.pinging.resumeStart .wire 0 (answerNamed [80, 105, 110, 103]) 18 =
      some (some c, w') ∧
    c.task.response = some ⟨1, [80, 111, 110, 103]⟩ ∧ c.status = 0 ∧
    (RpcProto.wire.binaryToMessage (answerNamed [80, 105, 110, 103]) 18
      ⟨1, [80, 111, 110, 103]⟩ RpcWorld.pinging.app.rpcMsg RpcWorld.pinging.app.messages).1 = -1 ∧
    ¬ World.AgreesWithChecked .wire (answerNamed [80, 105, 110, 103]) 18
      ⟨1, [80, 111, 110, 103]⟩ .pinging c w' := by
  have hseen : (RpcWorld.pinging.resumeStart .wire 0 (answerNamed [80, 105, 110, 103]) 18).map
      (fun x => x.1.map fun c => (c.task.response, c.status)) =
      some (some (some ⟨1, [80, 111, 110, 103]⟩, 0)) := by decide +kernel
  have hchecked : (RpcProto.wire.binaryToMessage (answerNamed [80, 105, 110, 103]) 18
      ⟨1, [80, 111, 110, 103]⟩ RpcWorld.pinging.app.rpcMsg
        RpcWorld.pinging.app.messages).1 = -1 := by decide +kernel
  obtain ⟨⟨callback, w'⟩, hresume, hc⟩ := Option.map_eq_some_iff.mp hseen
  obtain ⟨c, hcallback, hseen⟩ := Option.map_eq_some_iff.mp hc
  obtain rfl : callback = some c := hcallback
  obtain ⟨hresponse, hstatus⟩ := Prod.mk.inj hseen
  refine ⟨c, w', run_pinging, hresume, hresponse, hstatus, hchecked, fun hagrees => ?_⟩
  have hzero := (hagrees.status.mp hstatus).2
  rw [hchecked] at hzero
  cases hzero

end Rapidapp
