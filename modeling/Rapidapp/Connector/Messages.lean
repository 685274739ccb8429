import Mathlib.Data.List.Basic

/-!
# The messages of the connector

`server/connector/client.proto` and `server.proto`. A `CSMsg` goes between a client and the
connector, an `SSMsg` between the connector and a backend server; both packages name their
ids `BodyCmdId`. The classes protobuf generates from the two files are not part of the
sources: what their `ParseFromArray` and `SerializeToString` do is a `Protobuf`, and
`std::string` is its bytes.
-/

namespace Rapidapp.Connector

/-! ## `connector_client` -/

/-- `MAGIC_CS_V1` (`client.proto:5-7`). -/
def magicCsV1 : Int32 := 0x3344

/-- `connector_client::BodyCmdId` (`client.proto:9-17`). -/
inductive CSBodyCmdId where
  | syn
  | synack
  | authentication
  | passport
  | startApp
  | dataTransparent
  | error
  deriving DecidableEq, Repr

/-- The value of the enumerator; `bodyid` itself is an `int32` and may hold any other. -/
def CSBodyCmdId.value : CSBodyCmdId → Int32
  | .syn => 1
  | .synack => 2
  | .authentication => 3
  | .passport => 4
  | .startApp => 5
  | .dataTransparent => 16
  | .error => 100

/-- `CSHead` (`client.proto:19-24`); a field that is not set reads as its default. -/
structure CSHead where
  magic : Int32 := magicCsV1
  sequence : Int64 := 0
  bodyid : Int32 := 0
  deriving DecidableEq

/-- `CSSyn` (`client.proto:29-32`). -/
structure CSSyn where
  appid : List UInt8
  openid : List UInt8
  deriving DecidableEq

/-- `CSError` (`client.proto:53-56`). -/
structure CSError where
  code : Int32
  desc : List UInt8
  deriving DecidableEq

/-- `CSBody` (`client.proto:60-68`): the optional fields that are set; those with one field of
their own (`CSSynAck`, `CSAuth`, `CSPassport`, `CSStart`) stand for it. -/
structure CSBody where
  syn : Option CSSyn := none
  ack : Option (List UInt8) := none
  auth : Option (List UInt8) := none
  passport : Option Int64 := none
  start : Option Int32 := none
  data : Option (List UInt8) := none
  error : Option CSError := none
  deriving DecidableEq

/-- `CSMsg` (`client.proto:70-73`). -/
structure CSMsg where
  head : CSHead := {}
  body : CSBody := {}
  deriving DecidableEq

/-! ## `connector_server` -/

/-- `MAGIC_SS_V1` (`server.proto:11-13`). -/
def magicSsV1 : Int32 := 0x3443

/-- `connector_server::BodyCmdId` (`server.proto:3-9`). -/
inductive SSBodyCmdId where
  | syn
  | ack
  | rsm
  | fin
  | data
  deriving DecidableEq, Repr

/-- The value of the enumerator. -/
def SSBodyCmdId.value : SSBodyCmdId → Int32
  | .syn => 1
  | .ack => 2
  | .rsm => 3
  | .fin => 4
  | .data => 5

/-- `Tuple` (`server.proto:15-19`): the frontend connection a message is about. -/
structure Tuple where
  fd : UInt32 := 0
  nid : UInt64 := 0
  sid : UInt32 := 0
  deriving DecidableEq

/-- `SSHead` (`server.proto:21-26`). -/
structure SSHead where
  magic : Int32 := magicSsV1
  sequence : Int64 := 0
  bodyid : Int32 := 0
  session : Tuple := {}
  deriving DecidableEq

/-- `SSBody` (`server.proto:50-56`); the messages in it stand for their one field. -/
structure SSBody where
  data : Option (List UInt8) := none
  syn : Option Int32 := none
  ack : Option Int32 := none
  rsm : Option Int32 := none
  fin : Option Int32 := none
  deriving DecidableEq

/-- `SSMsg` (`server.proto:58-61`). -/
structure SSMsg where
  head : SSHead := {}
  body : SSBody := {}
  deriving DecidableEq

/-! ## Their encoding -/

/-- The generated code. `ParseFromArray` clears the message first, so what the message holds
afterwards is a function of the bytes (and of the `size_t` passed with them), also when it
reports failure, which no caller looks at. -/
structure Protobuf where
  parseCSMsg : List UInt8 → Nat → CSMsg
  serializeCSMsg : CSMsg → List UInt8
  parseSSMsg : List UInt8 → Nat → SSMsg
  serializeSSMsg : SSMsg → List UInt8

end Rapidapp.Connector
