import Rapidapp.Misc.CInt

/-!
# MessageGenerator: rpc messages as bytes

`framework/rapidapp_message_reflection.{h,cpp}` and `framework/rpc.proto`, as far as
`framework/rapidapp_easy_rpc.cpp` uses them. The code protoc generates and the protobuf runtime
are not part of the sources; `RpcProto` stands for them.
-/

namespace Rapidapp

/-- `message RpcMessage` (`rpc.proto`); `msg_bin` that is not set reads as empty. -/
structure RpcMessage where
  magic : Int
  msgType : Int
  asyncid : Nat
  msgName : List UInt8
  sequence : Option Int
  msgBin : List UInt8
  deriving DecidableEq, Repr

/-- `MAGIC_RPCSTAMP_V1`. -/
def magicRpcstampV1 : Int := 0x8118

/-- `RPC_TYPE_REQUEST`. -/
def rpcTypeRequest : Int := 1

/-- `RPC_TYPE_RESPONSE`. -/
def rpcTypeResponse : Int := 2

/-- `RPC_TYPE_ERROR`. -/
def rpcTypeError : Int := 3

/-- `MAX_MESSAGE_NAME`. -/
def maxMessageName : Nat := 1024

/-- A `Message*`: where the object is, and the name of its type. -/
structure MessageRef where
  addr : Nat
  typeName : List UInt8
  deriving DecidableEq, Repr

/-- What protobuf does: `SerializeToString` and `ParseFromString` of an application's message,
the latter into an object of the type with this name, and the same of an `RpcMessage`, which
has required fields and so is never written as nothing. -/
structure RpcProto (Msg : Type) where
  serializeToString : Msg → List UInt8
  parseFromString : List UInt8 → List UInt8 → Bool × Msg
  serializeRpc : RpcMessage → List UInt8
  serializeRpc_ne_nil : ∀ m, serializeRpc m ≠ []
  parseRpcFromArray : List UInt8 → Nat → Bool × RpcMessage

variable {Msg : Type}

namespace RpcProto

/-- The message `MessageToBinary` builds for a request. -/
def requestMessage (proto : RpcProto Msg) (type : Int) (asyncid : Nat) (typeName : List UInt8)
    (message : Msg) : RpcMessage where
  magic := magicRpcstampV1
  msgType := type
  asyncid := asyncid
  msgName := typeName
  sequence := none
  msgBin := proto.serializeToString message

/-- `MessageGenerator::MessageToBinary` (`rapidapp_message_reflection.cpp:130-170`) for a message
and a buffer that are not null: its result and the buffer after it. -/
def messageToBinary (proto : RpcProto Msg) (type : Int) (asyncid : Nat) (typeName : List UInt8)
    (message : Msg) (out : List UInt8) : Int × List UInt8 :=
  if typeName.length ≥ maxMessageName then (-1, out)
  else (0, proto.serializeRpc (proto.requestMessage type asyncid typeName message))

/-- The message `RpcErrorToBinary` builds; `msg_name` is set to an empty string, and `msg_bin` to no
bytes. -/
def errorMessage (asyncid : Nat) : RpcMessage where
  magic := magicRpcstampV1
  msgType := rpcTypeError
  asyncid := asyncid
  msgName := []
  sequence := none
  msgBin := []

/-- `MessageGenerator::RpcErrorToBinary` (`rapidapp_message_reflection.cpp:172-186`). -/
def rpcErrorToBinary (proto : RpcProto Msg) (asyncid : Nat) : Int × List UInt8 :=
  (0, proto.serializeRpc (errorMessage asyncid))

/-- `MessageGenerator::UnpackToRpcMsg` (`rapidapp_message_reflection.cpp:188-212`) for a buffer
that is not null: its result and the static `rpc_msg_` after it. -/
def unpackToRpcMsg (proto : RpcProto Msg) (data : List UInt8) (size : Nat) (rpcMsg : RpcMessage) :
    Int × RpcMessage :=
  if size = 0 then (-1, rpcMsg)
  else
    match proto.parseRpcFromArray data size with
    | (false, msg) => (-1, msg)
    | (true, msg) => (0, msg)

end RpcProto

end Rapidapp
