import Rapidapp.Misc.Lane
import Rapidapp.Misc.RemoteCalls
import Rapidapp.Framework.FrameCuts
import Rapidapp.Framework.ReplyDecoders

/-!
# What a call and its answer are on the wire

`RpcFunction` sends a request under the asyncid of its call, and `Done` and `Cancel` of a closure
send a response or an error under the asyncid of the request (`framework/rapidapp_easy_rpc.cpp`).
With a protobuf that reads back what it wrote (`RpcProto.Lossless`), the frame of a call is the call
to `UnpackToRpcMsg`, and the frame of an answer is the answer.
-/

namespace Rapidapp

open Framing

variable {Msg : Type}

/-- A message with the name of its type. -/
abbrev RpcContent (Msg : Type) := List UInt8 × Msg

/-- A call on the wire: its asyncid and its request. -/
abbrev RpcAsk (Msg : Type) := Nat × RpcContent Msg

/-- An answer on the wire: the asyncid of the call, and the response of `Done`, or `none` for
`Cancel`. -/
abbrev RpcTell (Msg : Type) := Nat × Option (RpcContent Msg)

namespace RpcProto

/-- What `RpcFunction` makes of a call. -/
def askMessage (proto : RpcProto Msg) (x : RpcAsk Msg) : RpcMessage :=
  proto.requestMessage rpcTypeRequest x.1 x.2.1 x.2.2

/-- What `Done` and `Cancel` make of an answer. -/
def tellMessage (proto : RpcProto Msg) (y : RpcTell Msg) : RpcMessage :=
  match y.2 with
  | some (name, message) => proto.requestMessage rpcTypeResponse y.1 name message
  | none => errorMessage y.1

/-- The frame of a call. -/
def askFrame (proto : RpcProto Msg) (x : RpcAsk Msg) : List UInt8 :=
  encodeMsg (proto.serializeRpc (proto.askMessage x))

/-- The frame of an answer. -/
def tellFrame (proto : RpcProto Msg) (y : RpcTell Msg) : List UInt8 :=
  encodeMsg (proto.serializeRpc (proto.tellMessage y))

/-- Protobuf reads back what it wrote: every `RpcMessage` that is sent, and the messages of the
application that are `initialized`. -/
structure Lossless (proto : RpcProto Msg) (initialized : List UInt8 → Msg → Bool) : Prop where
  envelope : ∀ m : RpcMessage, m.magic = magicRpcstampV1 →
    m.msgType ∈ [rpcTypeRequest, rpcTypeResponse, rpcTypeError] → m.asyncid < 2 ^ 64 →
    m.sequence = none →
      proto.parseRpcFromArray (proto.serializeRpc m) (proto.serializeRpc m).length = (true, m)
  object : ∀ name message, initialized name message = true →
    proto.parseFromString name (proto.serializeToString message) = (true, message)

variable {proto : RpcProto Msg} {initialized : List UInt8 → Msg → Bool}

/-- A message that `Send` can frame. -/
theorem sendable_serializeRpc {m : RpcMessage} (h : (proto.serializeRpc m).length + 4 < 2 ^ 31) :
    Sendable (proto.serializeRpc m) :=
  ⟨proto.serializeRpc_ne_nil m, h⟩

theorem isFrame_askFrame {x : RpcAsk Msg}
    (h : (proto.serializeRpc (proto.askMessage x)).length + 4 < 2 ^ 31) :
    msgDecoder.IsFrame (proto.askFrame x) :=
  isFrame_encodeMsg (sendable_serializeRpc h)

theorem isFrame_tellFrame {y : RpcTell Msg}
    (h : (proto.serializeRpc (proto.tellMessage y)).length + 4 < 2 ^ 31) :
    msgDecoder.IsFrame (proto.tellFrame y) :=
  isFrame_encodeMsg (sendable_serializeRpc h)

namespace Lossless

/-- `UnpackToRpcMsg` of what was serialized. -/
theorem unpack (h : Lossless proto initialized) {m : RpcMessage}
    (hmagic : m.magic = magicRpcstampV1)
    (htype : m.msgType ∈ [rpcTypeRequest, rpcTypeResponse, rpcTypeError])
    (hasyncid : m.asyncid < 2 ^ 64) (hsequence : m.sequence = none) (rpcMsg : RpcMessage) :
    proto.unpackToRpcMsg (proto.serializeRpc m) (proto.serializeRpc m).length rpcMsg = (0, m) := by
  have hlen : (proto.serializeRpc m).length ≠ 0 := fun hnil =>
    proto.serializeRpc_ne_nil m (List.length_eq_zero_iff.mp hnil)
  rw [unpackToRpcMsg, if_neg hlen, h.envelope m hmagic htype hasyncid hsequence]

/-- A frame of serialized bytes, taken out of a buffer and unpacked. -/
theorem unpack_frame (h : Lossless proto initialized) {m : RpcMessage}
    (hmagic : m.magic = magicRpcstampV1)
    (htype : m.msgType ∈ [rpcTypeRequest, rpcTypeResponse, rpcTypeError])
    (hasyncid : m.asyncid < 2 ^ 64) (hsequence : m.sequence = none)
    (hfits : (proto.serializeRpc m).length + 4 < 2 ^ 31) {buf : List UInt8} {pos : Nat}
    (htake : (buf.drop pos).take (encodeMsg (proto.serializeRpc m)).length =
      encodeMsg (proto.serializeRpc m)) (rpcMsg : RpcMessage) :
    proto.unpackToRpcMsg (payloadBytes buf pos (encodeMsg (proto.serializeRpc m)).length)
      (payloadSize (encodeMsg (proto.serializeRpc m)).length) rpcMsg = (0, m) := by
  obtain ⟨hbytes, hsize⟩ := payload_of_frame hfits htake
  rw [hbytes, hsize]
  exact h.unpack hmagic htype hasyncid hsequence rpcMsg

/-- The frame of a call unpacks to the call. -/
theorem unpack_ask (h : Lossless proto initialized) {x : RpcAsk Msg} (hasyncid : x.1 < 2 ^ 64)
    (hfits : (proto.serializeRpc (proto.askMessage x)).length + 4 < 2 ^ 31) {buf : List UInt8}
    {pos : Nat} (htake : (buf.drop pos).take (proto.askFrame x).length = proto.askFrame x)
    (rpcMsg : RpcMessage) :
    proto.unpackToRpcMsg (payloadBytes buf pos (proto.askFrame x).length)
      (payloadSize (proto.askFrame x).length) rpcMsg = (0, proto.askMessage x) :=
  h.unpack_frame rfl List.mem_cons_self hasyncid rfl hfits htake rpcMsg

/-- The frame of an answer unpacks to the answer. -/
theorem unpack_tell (h : Lossless proto initialized) {y : RpcTell Msg} (hasyncid : y.1 < 2 ^ 64)
    (hfits : (proto.serializeRpc (proto.tellMessage y)).length + 4 < 2 ^ 31) {buf : List UInt8}
    {pos : Nat} (htake : (buf.drop pos).take (proto.tellFrame y).length = proto.tellFrame y)
    (rpcMsg : RpcMessage) :
    proto.unpackToRpcMsg (payloadBytes buf pos (proto.tellFrame y).length)
      (payloadSize (proto.tellFrame y).length) rpcMsg = (0, proto.tellMessage y) := by
  obtain ⟨asyncid, _ | ⟨name, message⟩⟩ := y
  · exact h.unpack_frame rfl (by simp [tellMessage, errorMessage]) hasyncid rfl hfits htake rpcMsg
  · exact h.unpack_frame rfl (by simp [tellMessage, requestMessage]) hasyncid rfl hfits htake rpcMsg

/-- The request of a call, as `SpawnMessage` reads it. -/
theorem parse_ask (h : Lossless proto initialized) {x : RpcAsk Msg}
    (hinitialized : initialized x.2.1 x.2.2 = true) :
    proto.parseFromString (proto.askMessage x).msgName (proto.askMessage x).msgBin =
      (true, x.2.2) :=
  h.object x.2.1 x.2.2 hinitialized

end Lossless

open ProtoWire in
/-- So does the wire format of protobuf. -/
theorem lossless_wire : Lossless .wire fun _ message => complete message where
  envelope m hmagic htype hasyncid hsequence := by
    obtain ⟨magic, msgType, asyncid, msgName, sequence, msgBin⟩ := m
    obtain rfl : magic = magicRpcstampV1 := hmagic
    obtain rfl : sequence = none := hsequence
    have hword : (CInt.uint64 msgType : Int) = msgType := by
      simp only [List.mem_cons, List.not_mem_nil, or_false] at htype
      obtain rfl | rfl | rfl := htype <;> rfl
    simp only [wire, List.take_length, decode_encode, complete_encode]
    simp [find, hword]
  object name message h := congrArg (·, message) h

end RpcProto

end Rapidapp
