import Rapidapp.Misc.MessageObject
import Rapidapp.Connector.Client
import Rapidapp.Connector.Session

/-!
# The messages of the connector as objects

The functions that make a message build it in an object that lives on: a static variable, or
`up_msg_` of a client. Here are the calls each of them makes on its object
(`connector_session.cpp`, `server_api/connector_server_api.cpp`,
`client_api/connector_client_api_imp.cpp`), and that each overwrites what earlier calls of it, or
of the others that share the object, wrote.
-/

namespace Rapidapp.Connector

open MessageObject

/-- The value of a field that is not a message. -/
inductive Scalar where
  | int (n : Int)
  | bytes (bs : List UInt8)
  deriving DecidableEq, Repr

/-- An object of `CSMsg` or `SSMsg`. -/
abbrev MsgObject := MessageObject.Object Scalar

namespace MsgObject

/-- A field that is not set reads as its default. -/
def int (o : MsgObject) (p : Path) (default : Int) : Int :=
  match o p with
  | some (.scalar (.int n)) => n
  | _ => default

def bytes (o : MsgObject) (p : Path) : List UInt8 :=
  match o p with
  | some (.scalar (.bytes bs)) => bs
  | _ => []

/-- What there is to say of a field if it is set. -/
def whenSet {α : Type} (o : MsgObject) (p : Path) (a : α) : Option α :=
  if (o p).isSome then some a else none

end MsgObject

/-! ## `CSMsg` -/

/-- The calls that fill `CSHead`, in the order every function makes them. -/
def csHeadOps (head : CSHead) : List (Op Scalar) :=
  [.set [1, 1] (.int head.magic.toInt), .set [1, 2] (.int head.sequence.toInt),
    .set [1, 3] (.int head.bodyid.toInt)]

/-- The calls that fill what is there of `CSBody`. -/
def csBodyOps (body : CSBody) : List (Op Scalar) :=
  (body.syn.elim [] fun syn =>
      [.set [2, 1, 2] (.bytes syn.openid), .set [2, 1, 1] (.bytes syn.appid)]) ++
    (body.ack.elim [] fun secretkey => [.set [2, 2, 1] (.bytes secretkey)]) ++
    (body.auth.elim [] fun token => [.set [2, 3, 1] (.bytes token)]) ++
    (body.passport.elim [] fun passport => [.set [2, 4, 1] (.int passport.toInt)]) ++
    (body.start.elim [] fun code => [.set [2, 5, 1] (.int code.toInt)]) ++
    (body.data.elim [] fun data => [.set [2, 16] (.bytes data)]) ++
    (body.error.elim [] fun error =>
      [.set [2, 100, 1] (.int error.code.toInt), .set [2, 100, 2] (.bytes error.desc)])

/-- A new object with this message. -/
def CSMsg.object (m : CSMsg) : MsgObject := run (csHeadOps m.head ++ csBodyOps m.body) empty

/-- What the accessors say of an object. -/
def CSMsg.read (o : MsgObject) : CSMsg where
  head :=
    { magic := Int32.ofInt (o.int [1, 1] magicCsV1.toInt)
      sequence := Int64.ofInt (o.int [1, 2] 0)
      bodyid := Int32.ofInt (o.int [1, 3] 0) }
  body :=
    { syn := o.whenSet [2, 1] ⟨o.bytes [2, 1, 1], o.bytes [2, 1, 2]⟩
      ack := o.whenSet [2, 2] (o.bytes [2, 2, 1])
      auth := o.whenSet [2, 3] (o.bytes [2, 3, 1])
      passport := o.whenSet [2, 4] (Int64.ofInt (o.int [2, 4, 1] 0))
      start := o.whenSet [2, 5] (Int32.ofInt (o.int [2, 5, 1] 0))
      data := o.whenSet [2, 16] (o.bytes [2, 16])
      error := o.whenSet [2, 100] ⟨Int32.ofInt (o.int [2, 100, 1] 0), o.bytes [2, 100, 2]⟩ }

example : CSMsg.read ConnectorSession.keyMakingMsg.object = ConnectorSession.keyMakingMsg := by
  decide

/-! ## `SSMsg` -/

/-- The calls that fill `SSHead` and the `Tuple` in it. -/
def ssHeadOps (head : SSHead) : List (Op Scalar) :=
  [.set [1, 1] (.int head.magic.toInt), .set [1, 2] (.int head.sequence.toInt),
    .set [1, 3] (.int head.bodyid.toInt), .set [1, 4, 1] (.int head.session.fd.toNat),
    .set [1, 4, 2] (.int head.session.nid.toNat), .set [1, 4, 3] (.int head.session.sid.toNat)]

/-- The calls that fill what is there of `SSBody`. -/
def ssBodyOps (body : SSBody) : List (Op Scalar) :=
  (body.data.elim [] fun data => [.set [2, 1, 1] (.bytes data)]) ++
    (body.syn.elim [] fun result => [.set [2, 2, 1] (.int result.toInt)]) ++
    (body.ack.elim [] fun result => [.set [2, 3, 1] (.int result.toInt)]) ++
    (body.rsm.elim [] fun result => [.set [2, 4, 1] (.int result.toInt)]) ++
    (body.fin.elim [] fun result => [.set [2, 5, 1] (.int result.toInt)])

/-- A new object with this message. -/
def SSMsg.object (m : SSMsg) : MsgObject := run (ssHeadOps m.head ++ ssBodyOps m.body) empty

/-- What the accessors say of an object. -/
def SSMsg.read (o : MsgObject) : SSMsg where
  head :=
    { magic := Int32.ofInt (o.int [1, 1] magicSsV1.toInt)
      sequence := Int64.ofInt (o.int [1, 2] 0)
      bodyid := Int32.ofInt (o.int [1, 3] 0)
      session :=
        { fd := UInt32.ofNat (o.int [1, 4, 1] 0).toNat
          nid := UInt64.ofNat (o.int [1, 4, 2] 0).toNat
          sid := UInt32.ofNat (o.int [1, 4, 3] 0).toNat } }
  body :=
    { data := o.whenSet [2, 1] (o.bytes [2, 1, 1])
      syn := o.whenSet [2, 2] (Int32.ofInt (o.int [2, 2, 1] 0))
      ack := o.whenSet [2, 3] (Int32.ofInt (o.int [2, 3, 1] 0))
      rsm := o.whenSet [2, 4] (Int32.ofInt (o.int [2, 4, 1] 0))
      fin := o.whenSet [2, 5] (Int32.ofInt (o.int [2, 5, 1] 0)) }

/-! ## The generated code -/

/-- What protobuf generates: which fields `ParseFromArray` finds in the bytes (and the `size_t`
passed with them) and whether it reports success, and what `SerializeToString` makes of an
object. -/
structure GeneratedCode where
  fieldsCSMsg : List UInt8 → Nat → List (Op Scalar)
  serializeCSMsg : MsgObject → List UInt8
  fieldsSSMsg : List UInt8 → Nat → List (Op Scalar)
  parsesSSMsg : List UInt8 → Nat → Bool
  serializeSSMsg : MsgObject → List UInt8

namespace GeneratedCode

variable (code : GeneratedCode)

/-- `ParseFromArray` empties the object first. -/
def parseCSMsgOps (msg : List UInt8) (size : Nat) : List (Op Scalar) :=
  .clear [] :: code.fieldsCSMsg msg size

def parseSSMsgOps (msg : List UInt8) (size : Nat) : List (Op Scalar) :=
  .clear [] :: code.fieldsSSMsg msg size

/-- The generated code as it is for messages that are made in new objects. -/
def protobuf : Protobuf where
  parseCSMsg msg size := .read (run (code.parseCSMsgOps msg size) empty)
  serializeCSMsg m := code.serializeCSMsg m.object
  parseSSMsg msg size := .read (run (code.parseSSMsgOps msg size) empty)
  serializeSSMsg m := code.serializeSSMsg m.object

end GeneratedCode

/-! ## What each function writes into its object -/

/-- The setters of `CSHead`, in the order in which every function calls them. -/
def setCSHead (sequence : Int64) (bodyid : CSBodyCmdId) : List (Op Scalar) :=
  csHeadOps { sequence := sequence, bodyid := bodyid.value }

/-- The setters of `SSHead`, in the order in which every function calls them. -/
def setSSHead (sequence : Int64) (bodyid : SSBodyCmdId) (session : Tuple) : List (Op Scalar) :=
  ssHeadOps { sequence := sequence, bodyid := bodyid.value, session := session }

/-- `HandleKeyMaking` (`connector_session.cpp:290-293`). -/
def keyMakingOps : List (Op Scalar) :=
  setCSHead 1 .synack ++ [.set [2, 2, 1] (.bytes ConnectorSession.testSecretKey)]

/-- `HandleAuthRequest` (`connector_session.cpp:309-312`). -/
def authRequestOps : List (Op Scalar) := setCSHead 1 .passport ++ [.set [2, 4, 1] (.int 102030)]

/-- `HandShake_OnStartAcked` (`connector_session.cpp:348-351`). -/
def startAckedOps : List (Op Scalar) := setCSHead 1 .startApp ++ [.set [2, 5, 1] (.int 0)]

/-- `StartToBackEnd` (`connector_session.cpp:196-202`). -/
def startOps (session : Tuple) : List (Op Scalar) :=
  setSSHead 1 .syn session ++ [.set [2, 2, 1] (.int 0)]

/-- `StopToBackEnd` (`connector_session.cpp:240-246`). -/
def stopOps (session : Tuple) : List (Op Scalar) :=
  setSSHead 1 .fin session ++ [.set [2, 5, 1] (.int 0)]

/-- `ForwardUpSideMessage` (`connector_session.cpp:92-98`). -/
def upSideOps (session : Tuple) (sequence : UInt64) (data : List UInt8) : List (Op Scalar) :=
  setSSHead sequence.toInt64 .data session ++ [.set [2, 1, 1] (.bytes data)]

/-- `ForwardDownSideMessage` (`connector_session.cpp:117-120`). -/
def downSideOps (sequence : UInt64) (data : List UInt8) : List (Op Scalar) :=
  setCSHead sequence.toInt64 .dataTransparent ++ [.set [2, 16] (.bytes data)]

/-- `ConnectorServerApi::StopConn` (`connector_server_api.cpp:78-84`). -/
def stopConnOps (session : Tuple) : List (Op Scalar) :=
  setSSHead 0 .fin session ++ [.set [2, 5, 1] (.int 0)]

/-- `ConnectorServerApi::HandshakeToConn` (`connector_server_api.cpp:97-103`). -/
def handshakeToConnOps (session : Tuple) : List (Op Scalar) :=
  setSSHead 0 .ack session ++ [.set [2, 3, 1] (.int 0)]

/-- `ConnectorServerApi::SendDataToConn` (`connector_server_api.cpp:117-123`). -/
def sendDataToConnOps (session : Tuple) (data : List UInt8) : List (Op Scalar) :=
  setSSHead 0 .data session ++ [.set [2, 1, 1] (.bytes data)]

/-- What a client puts into `up_msg_`: `HandShake_SYN`, `HandShake_AUTH` and `PushMessage`. -/
inductive UpMsg where
  | syn (openid appid : List UInt8)
  | auth (token : List UInt8)
  | data (data : List UInt8)
  deriving DecidableEq

namespace UpMsg

def bodyid : UpMsg → CSBodyCmdId
  | syn _ _ => .syn
  | auth _ => .authentication
  | data _ => .dataTransparent

/-- What is set in the body after it was cleared. -/
def below : UpMsg → List (Op Scalar)
  | syn openid appid => [.set [2, 1, 2] (.bytes openid), .set [2, 1, 1] (.bytes appid)]
  | auth token => [.set [2, 3, 1] (.bytes token)]
  | data bs => [.set [2, 16] (.bytes bs)]

/-- The calls on `up_msg_` (`connector_client_api_imp.cpp:240-246`, `290-295`, `494-499`). -/
def ops (u : UpMsg) (seqno : UInt64) : List (Op Scalar) :=
  setCSHead seqno.toInt64 u.bodyid ++ [.mutable [2], .clear [2]] ++ u.below

end UpMsg

/-! ## Nothing is left of an earlier message -/

theorem overwriting_csMsg {ι : Type} (sequence : ι → Int64) (bodyid : CSBodyCmdId) (p : Path)
    (v : ι → Scalar) : Overwriting fun i => setCSHead (sequence i) bodyid ++ [.set p (v i)] := by
  apply overwriting_of_place
  simp [setCSHead, csHeadOps, Op.place]

theorem overwriting_ssMsg {ι : Type} (sequence : ι → Int64) (bodyid : SSBodyCmdId)
    (session : ι → Tuple) (p : Path) (v : ι → Scalar) :
    Overwriting fun i => setSSHead (sequence i) bodyid (session i) ++ [.set p (v i)] := by
  apply overwriting_of_place
  simp [setSSHead, ssHeadOps, Op.place]

/-- The three messages of a client share an object. -/
theorem overwriting_upMsg : Overwriting fun i : UpMsg × UInt64 => i.1.ops i.2 := by
  apply overwriting_of_below (ι := UpMsg × UInt64) [2]
  · simp [setCSHead, csHeadOps, Op.place]
  · rintro ⟨u, seqno⟩
    cases u <;> simp [UpMsg.below, Op.path]

theorem overwriting_parse (fields : List UInt8 → Nat → List (Op Scalar)) :
    Overwriting fun i : List UInt8 × Nat => .clear [] :: fields i.1 i.2 :=
  overwriting_of_clear _

end Rapidapp.Connector
