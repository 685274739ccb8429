import Rapidapp.Misc.ProtoWire
import Rapidapp.Connector.Messages

/-!
# The messages on the wire

`CSMsg` and `SSMsg` as protobuf writes them: the fields in the order of their numbers, the
messages in a message as bytes; and as it reads them: a field that is missing has its
default. The results about the connector hold for any `Protobuf`, the one here is for the
concrete runs. What is written reads back.
-/

namespace Rapidapp.Connector.Wire

open ProtoWire

/-! ## Values -/

/-- An `int32` is extended to 64 bits with its sign. -/
def int32Value (n : Int32) : Value := .varint n.toInt64.toUInt64.toNat

def int64Value (n : Int64) : Value := .varint n.toUInt64.toNat

def getUInt64 (dflt : UInt64) : Option Value → UInt64
  | some (.varint n) => UInt64.ofNat n
  | _ => dflt

def getInt64 (dflt : Int64) (value : Option Value) : Int64 :=
  (getUInt64 dflt.toUInt64 value).toInt64

def getInt32 (dflt : Int32) (value : Option Value) : Int32 :=
  (getInt64 dflt.toInt64 value).toInt32

def getBytes : Option Value → Option (List UInt8)
  | some (.bytes value) => some value
  | _ => none

@[simp] theorem getUInt64_varint (dflt n : UInt64) :
    getUInt64 dflt (some (.varint n.toNat)) = n := UInt64.ofNat_toNat

@[simp] theorem getInt64_int64Value (dflt n : Int64) : getInt64 dflt (some (int64Value n)) = n := by
  rw [getInt64, int64Value, getUInt64_varint, Int64.toInt64_toUInt64]

@[simp] theorem getInt32_int32Value (dflt n : Int32) : getInt32 dflt (some (int32Value n)) = n := by
  rw [getInt32, int32Value, getInt64, getUInt64_varint, Int64.toInt64_toUInt64, Int32.toInt32_toInt64]

@[simp] theorem getUInt32_varint (dflt : UInt64) (n : UInt32) :
    (getUInt64 dflt (some (.varint n.toNat))).toUInt32 = n := by
  rw [← UInt32.toNat_toUInt64, getUInt64_varint, UInt32.toUInt32_toUInt64]

theorem getBytes_map {α : Type} (f : α → List UInt8) (a : Option α) :
    getBytes (a.map fun a => .bytes (f a)) = a.map f := by
  cases a <;> rfl

theorem getBytes_bytes (a : Option (List UInt8)) : getBytes (a.map fun a => .bytes a) = a := by
  cases a <;> rfl

/-! ## `connector_client` -/

def encodeCSHead (head : CSHead) : List UInt8 :=
  encode (field 1 (some (int32Value head.magic)) ++ field 2 (some (int64Value head.sequence)) ++
    field 3 (some (int32Value head.bodyid)))

def decodeCSHead (data : List UInt8) : CSHead where
  magic := getInt32 magicCsV1 (find 1 (decode data))
  sequence := getInt64 0 (find 2 (decode data))
  bodyid := getInt32 0 (find 3 (decode data))

/-- A message of one `bytes` field. -/
def encodeBytes (value : List UInt8) : List UInt8 := encode (field 1 (some (.bytes value)))

def decodeBytes (data : List UInt8) : List UInt8 := (getBytes (find 1 (decode data))).getD []

/-- A message of one `int32` field. -/
def encodeInt32 (value : Int32) : List UInt8 := encode (field 1 (some (int32Value value)))

def decodeInt32 (data : List UInt8) : Int32 := getInt32 0 (find 1 (decode data))

def encodePassport (passport : Int64) : List UInt8 :=
  encode (field 1 (some (int64Value passport)))

def decodePassport (data : List UInt8) : Int64 := getInt64 0 (find 1 (decode data))

def encodeCSSyn (syn : CSSyn) : List UInt8 :=
  encode (field 1 (some (.bytes syn.appid)) ++ field 2 (some (.bytes syn.openid)))

def decodeCSSyn (data : List UInt8) : CSSyn where
  appid := (getBytes (find 1 (decode data))).getD []
  openid := (getBytes (find 2 (decode data))).getD []

def encodeCSError (error : CSError) : List UInt8 :=
  encode (field 1 (some (int32Value error.code)) ++ field 2 (some (.bytes error.desc)))

def decodeCSError (data : List UInt8) : CSError where
  code := getInt32 0 (find 1 (decode data))
  desc := (getBytes (find 2 (decode data))).getD []

def encodeCSBody (body : CSBody) : List UInt8 :=
  encode (field 1 (body.syn.map fun syn => .bytes (encodeCSSyn syn)) ++
    field 2 (body.ack.map fun ack => .bytes (encodeBytes ack)) ++
    field 3 (body.auth.map fun auth => .bytes (encodeBytes auth)) ++
    field 4 (body.passport.map fun passport => .bytes (encodePassport passport)) ++
    field 5 (body.start.map fun start => .bytes (encodeInt32 start)) ++
    field 16 (body.data.map fun data => .bytes data) ++
    field 100 (body.error.map fun error => .bytes (encodeCSError error)))

def decodeCSBody (data : List UInt8) : CSBody where
  syn := (getBytes (find 1 (decode data))).map decodeCSSyn
  ack := (getBytes (find 2 (decode data))).map decodeBytes
  auth := (getBytes (find 3 (decode data))).map decodeBytes
  passport := (getBytes (find 4 (decode data))).map decodePassport
  start := (getBytes (find 5 (decode data))).map decodeInt32
  data := getBytes (find 16 (decode data))
  error := (getBytes (find 100 (decode data))).map decodeCSError

/-- `CSMsg::SerializeToString`. -/
def encodeCSMsg (msg : CSMsg) : List UInt8 :=
  encode (field 1 (some (.bytes (encodeCSHead msg.head))) ++
    field 2 (some (.bytes (encodeCSBody msg.body))))

/-- `CSMsg::ParseFromArray`. -/
def decodeCSMsg (data : List UInt8) : CSMsg where
  head := ((getBytes (find 1 (decode data))).map decodeCSHead).getD {}
  body := ((getBytes (find 2 (decode data))).map decodeCSBody).getD {}

/-! ## `connector_server` -/

def encodeTuple (tuple : Tuple) : List UInt8 :=
  encode (field 1 (some (.varint tuple.fd.toUInt64.toNat)) ++
    field 2 (some (.varint tuple.nid.toNat)) ++
    field 3 (some (.varint tuple.sid.toUInt64.toNat)))

def decodeTuple (data : List UInt8) : Tuple where
  fd := (getUInt64 0 (find 1 (decode data))).toUInt32
  nid := getUInt64 0 (find 2 (decode data))
  sid := (getUInt64 0 (find 3 (decode data))).toUInt32

def encodeSSHead (head : SSHead) : List UInt8 :=
  encode (field 1 (some (int32Value head.magic)) ++ field 2 (some (int64Value head.sequence)) ++
    field 3 (some (int32Value head.bodyid)) ++
    field 4 (some (.bytes (encodeTuple head.session))))

def decodeSSHead (data : List UInt8) : SSHead where
  magic := getInt32 magicSsV1 (find 1 (decode data))
  sequence := getInt64 0 (find 2 (decode data))
  bodyid := getInt32 0 (find 3 (decode data))
  session := ((getBytes (find 4 (decode data))).map decodeTuple).getD {}

def encodeSSBody (body : SSBody) : List UInt8 :=
  encode (field 1 (body.data.map fun data => .bytes (encodeBytes data)) ++
    field 2 (body.syn.map fun result => .bytes (encodeInt32 result)) ++
    field 3 (body.ack.map fun result => .bytes (encodeInt32 result)) ++
    field 4 (body.rsm.map fun result => .bytes (encodeInt32 result)) ++
    field 5 (body.fin.map fun result => .bytes (encodeInt32 result)))

def decodeSSBody (data : List UInt8) : SSBody where
  data := (getBytes (find 1 (decode data))).map decodeBytes
  syn := (getBytes (find 2 (decode data))).map decodeInt32
  ack := (getBytes (find 3 (decode data))).map decodeInt32
  rsm := (getBytes (find 4 (decode data))).map decodeInt32
  fin := (getBytes (find 5 (decode data))).map decodeInt32

/-- `SSMsg::SerializeToString`. -/
def encodeSSMsg (msg : SSMsg) : List UInt8 :=
  encode (field 1 (some (.bytes (encodeSSHead msg.head))) ++
    field 2 (some (.bytes (encodeSSBody msg.body))))

/-- `SSMsg::ParseFromArray`. -/
def decodeSSMsg (data : List UInt8) : SSMsg where
  head := ((getBytes (find 1 (decode data))).map decodeSSHead).getD {}
  body := ((getBytes (find 2 (decode data))).map decodeSSBody).getD {}

/-- The code protobuf generates. -/
def protobuf : Protobuf where
  parseCSMsg data _ := decodeCSMsg data
  serializeCSMsg := encodeCSMsg
  parseSSMsg data _ := decodeSSMsg data
  serializeSSMsg := encodeSSMsg

/-! ## Round trips -/

theorem decode_encodeCSHead (head : CSHead) : decodeCSHead (encodeCSHead head) = head := by
  simp [decodeCSHead, encodeCSHead, decode_encode, find_append, find_field]

@[simp] theorem decode_encodeBytes (value : List UInt8) :
    decodeBytes (encodeBytes value) = value := by
  simp [decodeBytes, encodeBytes, decode_encode, find_field, getBytes]

@[simp] theorem decode_encodeInt32 (value : Int32) : decodeInt32 (encodeInt32 value) = value := by
  simp [decodeInt32, encodeInt32, decode_encode, find_field]

@[simp] theorem decode_encodePassport (passport : Int64) :
    decodePassport (encodePassport passport) = passport := by
  simp [decodePassport, encodePassport, decode_encode, find_field]

@[simp] theorem decode_encodeCSSyn (syn : CSSyn) : decodeCSSyn (encodeCSSyn syn) = syn := by
  simp [decodeCSSyn, encodeCSSyn, decode_encode, find_append, find_field, getBytes]

@[simp] theorem decode_encodeCSError (error : CSError) :
    decodeCSError (encodeCSError error) = error := by
  simp [decodeCSError, encodeCSError, decode_encode, find_append, find_field, getBytes]

theorem decode_encodeCSBody (body : CSBody) : decodeCSBody (encodeCSBody body) = body := by
  simp [decodeCSBody, encodeCSBody, decode_encode, find_append, find_field, getBytes_map,
    getBytes_bytes, Function.comp_def]

theorem decode_encodeCSMsg (msg : CSMsg) : decodeCSMsg (encodeCSMsg msg) = msg := by
  simp [decodeCSMsg, encodeCSMsg, decode_encode, find_append, find_field, getBytes,
    decode_encodeCSHead, decode_encodeCSBody]

@[simp] theorem decode_encodeTuple (tuple : Tuple) : decodeTuple (encodeTuple tuple) = tuple := by
  simp [decodeTuple, encodeTuple, decode_encode, find_append, find_field]

theorem decode_encodeSSHead (head : SSHead) : decodeSSHead (encodeSSHead head) = head := by
  simp [decodeSSHead, encodeSSHead, decode_encode, find_append, find_field, getBytes]

theorem decode_encodeSSBody (body : SSBody) : decodeSSBody (encodeSSBody body) = body := by
  simp [decodeSSBody, encodeSSBody, decode_encode, find_append, find_field, getBytes_map,
    Function.comp_def]

theorem decode_encodeSSMsg (msg : SSMsg) : decodeSSMsg (encodeSSMsg msg) = msg := by
  simp [decodeSSMsg, encodeSSMsg, decode_encode, find_append, find_field, getBytes,
    decode_encodeSSHead, decode_encodeSSBody]

/-! ## What is parsed

`ParseFromArray` reports success when the bytes are fields to their end and every field that is
`required` is there, in the message and in the messages in it. -/

def hasVarint (num : Nat) (data : List UInt8) : Bool :=
  match find num (decode data) with
  | some (.varint _) => true
  | _ => false

def hasBytes (num : Nat) (parses : List UInt8 → Bool) (data : List UInt8) : Bool :=
  match find num (decode data) with
  | some (.bytes value) => parses value
  | _ => false

/-- An optional message parses if it is there. -/
def optionalBytes (num : Nat) (parses : List UInt8 → Bool) (data : List UInt8) : Bool :=
  match find num (decode data) with
  | some (.bytes value) => parses value
  | _ => true

def parsesCSHead (data : List UInt8) : Bool :=
  complete data && hasVarint 1 data && hasVarint 2 data && hasVarint 3 data

/-- `CSSynAck` and `CSAuth`. -/
def parsesBytes (data : List UInt8) : Bool := complete data && hasBytes 1 (fun _ => true) data

def parsesCSSyn (data : List UInt8) : Bool :=
  complete data && hasBytes 1 (fun _ => true) data && hasBytes 2 (fun _ => true) data

def parsesCSError (data : List UInt8) : Bool :=
  complete data && hasVarint 1 data && hasBytes 2 (fun _ => true) data

def parsesCSBody (data : List UInt8) : Bool :=
  complete data && optionalBytes 1 parsesCSSyn data && optionalBytes 2 parsesBytes data &&
    optionalBytes 3 parsesBytes data && optionalBytes 4 complete data &&
    optionalBytes 5 complete data && optionalBytes 100 parsesCSError data

/-- What `CSMsg::ParseFromArray` returns. -/
def parsesCSMsg (data : List UInt8) : Bool :=
  complete data && hasBytes 1 parsesCSHead data && hasBytes 2 parsesCSBody data

def parsesTuple (data : List UInt8) : Bool :=
  complete data && hasVarint 1 data && hasVarint 2 data && hasVarint 3 data

def parsesSSHead (data : List UInt8) : Bool :=
  complete data && hasVarint 1 data && hasVarint 2 data && hasVarint 3 data &&
    hasBytes 4 parsesTuple data

def parsesSSBody (data : List UInt8) : Bool :=
  complete data && optionalBytes 1 complete data && optionalBytes 2 complete data &&
    optionalBytes 3 complete data && optionalBytes 4 complete data && optionalBytes 5 complete data

/-- What `SSMsg::ParseFromArray` returns. -/
def parsesSSMsg (data : List UInt8) : Bool :=
  complete data && hasBytes 1 parsesSSHead data && hasBytes 2 parsesSSBody data

theorem optionalBytes_encode {α : Type} {num : Nat} {parses : List UInt8 → Bool}
    {fields : List Field} {a : Option α} {f : α → List UInt8}
    (hfind : find num fields = a.map fun a => .bytes (f a)) (hf : ∀ a, parses (f a) = true) :
    optionalBytes num parses (encode fields) = true := by
  rw [optionalBytes, decode_encode, hfind]
  cases a with
  | none => rfl
  | some a => exact hf a

theorem parses_encodeCSHead (head : CSHead) : parsesCSHead (encodeCSHead head) = true := by
  simp [parsesCSHead, encodeCSHead, hasVarint, decode_encode, find_append, find_field, int32Value,
    int64Value]

theorem parses_encodeBytes (value : List UInt8) : parsesBytes (encodeBytes value) = true := by
  simp [parsesBytes, encodeBytes, hasBytes, decode_encode, find_field]

theorem parses_encodeCSSyn (syn : CSSyn) : parsesCSSyn (encodeCSSyn syn) = true := by
  simp [parsesCSSyn, encodeCSSyn, hasBytes, decode_encode, find_append, find_field]

theorem parses_encodeCSError (error : CSError) : parsesCSError (encodeCSError error) = true := by
  simp [parsesCSError, encodeCSError, hasBytes, hasVarint, decode_encode, find_append, find_field,
    int32Value]

theorem parses_encodeCSBody (body : CSBody) : parsesCSBody (encodeCSBody body) = true := by
  simp only [parsesCSBody, encodeCSBody, complete_encode, Bool.true_and, Bool.and_eq_true]
  refine ⟨⟨⟨⟨⟨?_, ?_⟩, ?_⟩, ?_⟩, ?_⟩, ?_⟩
  · exact optionalBytes_encode (by simp [find_append, find_field]; rfl) parses_encodeCSSyn
  · exact optionalBytes_encode (by simp [find_append, find_field]; rfl) parses_encodeBytes
  · exact optionalBytes_encode (by simp [find_append, find_field]; rfl) parses_encodeBytes
  · exact optionalBytes_encode (by simp [find_append, find_field]; rfl)
      fun passport => complete_encode _
  · exact optionalBytes_encode (by simp [find_append, find_field]; rfl) fun code => complete_encode _
  · exact optionalBytes_encode (by simp [find_append, find_field]; rfl) parses_encodeCSError

/-- What the connector or a client writes is parsed. -/
theorem parses_encodeCSMsg (msg : CSMsg) : parsesCSMsg (encodeCSMsg msg) = true := by
  simp [parsesCSMsg, encodeCSMsg, hasBytes, decode_encode, find_append, find_field,
    parses_encodeCSHead, parses_encodeCSBody]

theorem parses_encodeTuple (tuple : Tuple) : parsesTuple (encodeTuple tuple) = true := by
  simp [parsesTuple, encodeTuple, hasVarint, decode_encode, find_append, find_field]

theorem parses_encodeSSHead (head : SSHead) : parsesSSHead (encodeSSHead head) = true := by
  simp [parsesSSHead, encodeSSHead, hasVarint, hasBytes, decode_encode, find_append, find_field,
    int32Value, int64Value, parses_encodeTuple]

theorem parses_encodeSSBody (body : SSBody) : parsesSSBody (encodeSSBody body) = true := by
  simp only [parsesSSBody, encodeSSBody, complete_encode, Bool.true_and, Bool.and_eq_true]
  refine ⟨⟨⟨⟨?_, ?_⟩, ?_⟩, ?_⟩, ?_⟩
  · exact optionalBytes_encode (by simp [find_append, find_field]; rfl) fun data => complete_encode _
  all_goals
    exact optionalBytes_encode (by simp [find_append, find_field]; rfl)
      fun result => complete_encode _

/-- What the connector or a backend server writes is parsed. -/
theorem parses_encodeSSMsg (msg : SSMsg) : parsesSSMsg (encodeSSMsg msg) = true := by
  simp [parsesSSMsg, encodeSSMsg, hasBytes, decode_encode, find_append, find_field,
    parses_encodeSSHead, parses_encodeSSBody]

/-! ## Sizes -/

theorem length_encodeCSHead_le (head : CSHead) : (encodeCSHead head).length ≤ 60 := by
  have h₁ := length_varintField_le 1 (by decide) head.magic.toInt64.toUInt64.toNat_lt
  have h₂ := length_varintField_le 2 (by decide) head.sequence.toUInt64.toNat_lt
  have h₃ := length_varintField_le 3 (by decide) head.bodyid.toInt64.toUInt64.toNat_lt
  have hlen : (encodeCSHead head).length =
      (encodeField (1, int32Value head.magic)).length +
        ((encodeField (2, int64Value head.sequence)).length +
          (encodeField (3, int32Value head.bodyid)).length) := by
    rw [encodeCSHead]
    simp [encode, field]
  rw [hlen, int32Value, int64Value, int32Value]
  omega

/-- A message that carries data is a little longer than the data. -/
theorem length_encodeCSMsg_data (head : CSHead) {data : List UInt8} (h : data.length < 2 ^ 32) :
    data.length ≤ (encodeCSMsg ⟨head, { data := some data }⟩).length ∧
      (encodeCSMsg ⟨head, { data := some data }⟩).length ≤ data.length + 120 := by
  have hmsg : (encodeCSMsg ⟨head, { data := some data }⟩).length =
      (encodeField (1, .bytes (encodeCSHead head))).length +
        (encodeField (2, .bytes (encodeCSBody { data := some data }))).length := by
    rw [encodeCSMsg]
    simp [encode, field]
  have hbody : (encodeCSBody { data := some data }).length =
      (encodeField (16, .bytes data)).length := by
    rw [encodeCSBody]
    simp [encode, field]
  generalize encodeCSBody { data := some data } = body at hmsg hbody
  have hhead := length_encodeCSHead_le head
  generalize encodeCSHead head = head' at hmsg hhead
  have h₁ : (encodeField (16, .bytes data)).length ≤ data.length + 20 :=
    length_bytesField_le 16 (by decide) (by omega)
  have h₂ : (encodeField (1, .bytes head')).length ≤ head'.length + 20 :=
    length_bytesField_le 1 (by decide) (by omega)
  have h₃ : (encodeField (2, .bytes body)).length ≤ body.length + 20 :=
    length_bytesField_le 2 (by decide) (by omega)
  have h₄ := le_length_bytes 16 data
  have h₅ := le_length_bytes 2 body
  omega

end Rapidapp.Connector.Wire
