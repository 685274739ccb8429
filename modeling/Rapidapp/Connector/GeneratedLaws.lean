import Rapidapp.Connector.FrameLimits
import Rapidapp.Connector.Beside
import Rapidapp.Connector.RecvQueue

/-!
# What is relied on of the generated code

What protobuf writes it reads back, no message is empty, and one that carries a payload is not
much longer than the payload. So every message is one frame, for the connector as for the client.
-/

namespace Rapidapp.Connector

open TSocketUtil Framing ConnectorSession

/-- How much longer a message is than the payload in it, at most. -/
def kOverhead : Nat := 300

/-- Generated code for the messages of `client.proto` and `server.proto`. -/
structure Lawful (pb : Protobuf) : Prop where
  parseCS : ∀ m, (pb.serializeCSMsg m).length < 2 ^ 31 →
    pb.parseCSMsg (pb.serializeCSMsg m) (pb.serializeCSMsg m).length = m
  parseSS : ∀ m, (pb.serializeSSMsg m).length < 2 ^ 31 →
    pb.parseSSMsg (pb.serializeSSMsg m) (pb.serializeSSMsg m).length = m
  ne_nilCS : ∀ m, pb.serializeCSMsg m ≠ []
  ne_nilSS : ∀ m, pb.serializeSSMsg m ≠ []
  payload_le : ∀ m, (m.body.data.getD []).length ≤ (pb.serializeCSMsg m).length
  dataCS : ∀ head : CSHead, ∀ data : List UInt8, data.length < 2 ^ 31 →
    (pb.serializeCSMsg ⟨head, { data := some data }⟩).length ≤ data.length + kOverhead
  dataSS : ∀ head : SSHead, ∀ data : List UInt8, data.length < 2 ^ 31 →
    (pb.serializeSSMsg ⟨head, { data := some data }⟩).length ≤ data.length + kOverhead
  startSS : ∀ tuple, (pb.serializeSSMsg (startMsgOf tuple)).length ≤ kOverhead
  handshakeCS : ∀ m ∈ [keyMakingMsg, authMsg, startAckedMsg],
    (pb.serializeCSMsg m).length ≤ kOverhead

/-! ## The frames of the messages -/

variable {pb : Protobuf}

theorem length_frame (pb : Protobuf) (m : CSMsg) :
    (Client.frame pb m).length = (pb.serializeCSMsg m).length + 4 := by
  simp [Client.frame, Client.iov, Nat.add_comm]

/-- The client frames a message as `EasyNet::Send` does. -/
theorem frame_eq {m : CSMsg} (h : (pb.serializeCSMsg m).length + 4 < 2 ^ 31) :
    Client.frame pb m = encodeMsg (pb.serializeCSMsg m) := by
  have hcast : ((pb.serializeCSMsg m).length : Int) + 4 =
      ((pb.serializeCSMsg m).length + 4 : Nat) := by omega
  rw [Client.frame, Client.iov, encodeMsg, Heap.lengthHeader, hcast,
    CInt.uint64_natCast (by omega)]
  simp

namespace Lawful

theorem sendableCS (h : Lawful pb) {m : CSMsg} (hm : (Client.frame pb m).length < 2 ^ 31) :
    Sendable (pb.serializeCSMsg m) :=
  ⟨h.ne_nilCS m, by rwa [length_frame] at hm⟩

theorem sendableSS (h : Lawful pb) {m : SSMsg} (hm : (ssFrame pb m).length < 2 ^ 31) :
    Sendable (pb.serializeSSMsg m) :=
  ⟨h.ne_nilSS m, by rwa [ssFrame, length_encodeMsg] at hm⟩

/-- A message of the client is a frame for the connector. -/
theorem isFrame_up (h : Lawful pb) {m : CSMsg} (hm : (Client.frame pb m).length < 2 ^ 31) :
    msgDecoder.IsFrame (Client.frame pb m) := by
  have hsendable := h.sendableCS hm
  rw [frame_eq hsendable.fits]
  exact isFrame_encodeMsg hsendable

/-- A message of the connector is a frame for the client. -/
theorem isFrame_down (h : Lawful pb) {m : CSMsg} (hm : (Client.frame pb m).length < 2 ^ 31) :
    pkgDecoder.IsFrame (Client.frame pb m) := by
  have hlen := length_frame pb m
  have hpos := List.length_pos_iff.mpr (h.ne_nilCS m)
  have hmsg := isMsg_frame pb m (by omega)
  have hpkg : IsPkg (Client.frame pb m).length (Client.frame pb m) :=
    ⟨by omega, le_refl _, hmsg.header⟩
  exact hpkg.isFrame hm

/-- A message between the connector and a server is a frame for both. -/
theorem isFrame_ss (h : Lawful pb) {m : SSMsg} (hm : (ssFrame pb m).length < 2 ^ 31) :
    msgDecoder.IsFrame (ssFrame pb m) := isFrame_encodeMsg (h.sendableSS hm)

/-- What the client reads of a frame. -/
theorem parsePkg_frame (h : Lawful pb) {m : CSMsg} (hm : (Client.frame pb m).length < 2 ^ 31) :
    Client.parsePkg pb (Client.frame pb m) = m := by
  have hsendable := h.sendableCS hm
  have hfits := hsendable.fits
  have hlen := length_frame pb m
  have hsize : CInt.uint64 (((Client.frame pb m).length : Int) - kMsgLenFieldSize) =
      (pb.serializeCSMsg m).length := by
    have hcast : ((Client.frame pb m).length : Int) - kMsgLenFieldSize =
        (pb.serializeCSMsg m).length := by
      rw [hlen, kMsgLenFieldSize]
      omega
    rw [hcast, CInt.uint64_natCast (by omega)]
  have hdrop : (Client.frame pb m).drop kMsgLenFieldSize = pb.serializeCSMsg m := by
    rw [frame_eq hfits, encodeMsg]
    exact List.drop_left' rfl
  rw [Client.parsePkg, hsize, hdrop]
  exact h.parseCS m (by omega)

/-- So the connector reads the message of the client. -/
theorem parse_up (h : Lawful pb) {m : CSMsg} (hm : (Client.frame pb m).length < 2 ^ 31)
    {buf : List UInt8} {pos : Nat}
    (htake : (buf.drop pos).take (Client.frame pb m).length = Client.frame pb m) :
    pb.parseCSMsg (payloadBytes buf pos (Client.frame pb m).length)
      (payloadSize (Client.frame pb m).length) = m := by
  have hfits := (h.sendableCS hm).fits
  rw [frame_eq hfits] at htake ⊢
  obtain ⟨hbytes, hsize⟩ := payload_of_frame hfits htake
  rw [hbytes, hsize]
  exact h.parseCS m (by omega)

/-- And the connector and a server are handed what the other has serialized. -/
theorem payload_ss (h : Lawful pb) {m : SSMsg} (hm : (ssFrame pb m).length < 2 ^ 31)
    {buf : List UInt8} {pos : Nat}
    (htake : (buf.drop pos).take (ssFrame pb m).length = ssFrame pb m) :
    payloadBytes buf pos (ssFrame pb m).length = pb.serializeSSMsg m ∧
      payloadSize (ssFrame pb m).length = (pb.serializeSSMsg m).length :=
  payload_of_frame (h.sendableSS hm).fits htake

theorem parse_ss (h : Lawful pb) {m : SSMsg} (hm : (ssFrame pb m).length < 2 ^ 31)
    {buf : List UInt8} {pos : Nat}
    (htake : (buf.drop pos).take (ssFrame pb m).length = ssFrame pb m) :
    pb.parseSSMsg (payloadBytes buf pos (ssFrame pb m).length)
      (payloadSize (ssFrame pb m).length) = m := by
  have hfits := (h.sendableSS hm).fits
  obtain ⟨hbytes, hsize⟩ := h.payload_ss hm htake
  rw [hbytes, hsize]
  exact h.parseSS m (by omega)

/-- The handshake messages of the connector are short. -/
theorem short_handshake (h : Lawful pb) {m : CSMsg}
    (hm : m ∈ [keyMakingMsg, authMsg, startAckedMsg]) : (Client.frame pb m).length < 2 ^ 31 := by
  have hlen := h.handshakeCS m hm
  rw [length_frame]
  rw [kOverhead] at hlen
  omega

/-- What the connector tells the server of a payload is not much longer than the client's message. -/
theorem short_upSideMsg (h : Lawful pb) {m : CSMsg}
    (hm : (Client.frame pb m).length ≤ kMaxPkgSize * 2) (tuple : Tuple) (sequence : UInt64) :
    (ssFrame pb (upSideMsgOf tuple sequence (m.body.data.getD []))).length < 2 ^ 31 := by
  have hpayload := h.payload_le m
  rw [length_frame, kMaxPkgSize] at hm
  have hlen := h.dataSS (upSideMsgOf tuple sequence (m.body.data.getD [])).head
    (m.body.data.getD []) (by omega)
  rw [ssFrame, length_encodeMsg]
  rw [kOverhead] at hlen
  change (pb.serializeSSMsg (upSideMsgOf _ _ _)).length ≤ _ at hlen
  omega

theorem short_downSideMsg (h : Lawful pb) {data : List UInt8} (hdata : data.length < 2 ^ 30)
    (sequence : UInt64) : (Client.frame pb (downSideMsg sequence data)).length < 2 ^ 31 := by
  have hlen := h.dataCS (downSideMsg sequence data).head data (by omega)
  change (pb.serializeCSMsg (downSideMsg _ _)).length ≤ _ at hlen
  rw [length_frame]
  rw [kOverhead] at hlen
  omega

end Lawful

namespace Wire
open ProtoWire

theorem length_encodeTuple_le (tuple : Tuple) : (encodeTuple tuple).length ≤ 60 := by
  have h₁ := length_varintField_le 1 (by decide) tuple.fd.toUInt64.toNat_lt
  have h₂ := length_varintField_le 2 (by decide) tuple.nid.toNat_lt
  have h₃ := length_varintField_le 3 (by decide) tuple.sid.toUInt64.toNat_lt
  have hlen : (encodeTuple tuple).length =
      (encodeField (1, .varint tuple.fd.toUInt64.toNat)).length +
        ((encodeField (2, .varint tuple.nid.toNat)).length +
          (encodeField (3, .varint tuple.sid.toUInt64.toNat)).length) := by
    rw [encodeTuple]
    simp [encode, field]
  omega

theorem length_encodeSSHead_le (head : SSHead) : (encodeSSHead head).length ≤ 140 := by
  have h₁ := length_varintField_le 1 (by decide) head.magic.toInt64.toUInt64.toNat_lt
  have h₂ := length_varintField_le 2 (by decide) head.sequence.toUInt64.toNat_lt
  have h₃ := length_varintField_le 3 (by decide) head.bodyid.toInt64.toUInt64.toNat_lt
  have htuple := length_encodeTuple_le head.session
  have h₄ : (encodeField (4, .bytes (encodeTuple head.session))).length ≤
      (encodeTuple head.session).length + 20 := length_bytesField_le 4 (by decide) (by omega)
  have hlen : (encodeSSHead head).length =
      (encodeField (1, int32Value head.magic)).length +
        ((encodeField (2, int64Value head.sequence)).length +
          ((encodeField (3, int32Value head.bodyid)).length +
            (encodeField (4, .bytes (encodeTuple head.session))).length)) := by
    rw [encodeSSHead]
    simp [encode, field]
  rw [hlen, int32Value, int64Value, int32Value]
  omega

/-- A message is not much longer than its body. -/
theorem length_encodeSSMsg_le (m : SSMsg) (hbody : (encodeSSBody m.body).length < 2 ^ 64) :
    (encodeSSMsg m).length ≤ (encodeSSBody m.body).length + 180 := by
  have hhead := length_encodeSSHead_le m.head
  have h₁ : (encodeField (1, .bytes (encodeSSHead m.head))).length ≤
      (encodeSSHead m.head).length + 20 := length_bytesField_le 1 (by decide) (by omega)
  have h₂ : (encodeField (2, .bytes (encodeSSBody m.body))).length ≤
      (encodeSSBody m.body).length + 20 := length_bytesField_le 2 (by decide) hbody
  have hlen : (encodeSSMsg m).length =
      (encodeField (1, .bytes (encodeSSHead m.head))).length +
        (encodeField (2, .bytes (encodeSSBody m.body))).length := by
    rw [encodeSSMsg]
    simp [encode, field]
  omega

theorem length_encodeSSBody_data {data : List UInt8} (h : data.length < 2 ^ 31) :
    (encodeSSBody { data := some data }).length ≤ data.length + 40 := by
  have hbytes : (encodeBytes data).length = (encodeField (1, .bytes data)).length := by
    rw [encodeBytes]
    simp [encode, field]
  have hbody : (encodeSSBody { data := some data }).length =
      (encodeField (1, .bytes (encodeBytes data))).length := by
    rw [encodeSSBody]
    simp [encode, field]
  have h₁ : (encodeField (1, .bytes data)).length ≤ data.length + 20 :=
    length_bytesField_le 1 (by decide) (by omega)
  have h₂ : (encodeField (1, .bytes (encodeBytes data))).length ≤ (encodeBytes data).length + 20 :=
    length_bytesField_le 1 (by decide) (by omega)
  omega

theorem encode_ne_nil (field : Field) (fields : List Field) : encode (field :: fields) ≠ [] := by
  intro hnil
  rw [encode, List.map_cons, List.flatten_cons] at hnil
  exact encodeField_ne_nil field (List.append_eq_nil_iff.mp hnil).1

/-- A field is a part of the message. -/
theorem le_length_encode {fields : List Field} {field : Field} (h : field ∈ fields) :
    (encodeField field).length ≤ (encode fields).length := by
  rw [encode]
  exact (List.sublist_flatten_of_mem (List.mem_map_of_mem h)).length_le

theorem payload_le_encodeCSMsg (m : CSMsg) :
    (m.body.data.getD []).length ≤ (encodeCSMsg m).length := by
  have hbody : (encodeCSBody m.body).length ≤ (encodeCSMsg m).length :=
    (le_length_bytes 2 _).trans (le_length_encode (List.mem_append_right _ (by simp [field])))
  cases hdata : m.body.data with
  | none => exact Nat.zero_le _
  | some data =>
    refine le_trans ?_ hbody
    refine (le_length_bytes 16 data).trans (le_length_encode ?_)
    simp [field, hdata]

/-- The encoding of protobuf. -/
theorem lawful_protobuf : Lawful protobuf where
  parseCS m _ := decode_encodeCSMsg m
  parseSS m _ := decode_encodeSSMsg m
  ne_nilCS _ := encode_ne_nil _ _
  ne_nilSS _ := encode_ne_nil _ _
  payload_le := payload_le_encodeCSMsg
  dataCS head data hdata := by
    obtain ⟨_, hle⟩ := length_encodeCSMsg_data head (show data.length < 2 ^ 32 by omega)
    exact hle.trans (by rw [kOverhead]; omega)
  dataSS head data hdata := by
    have hbody := length_encodeSSBody_data hdata
    have hmsg := length_encodeSSMsg_le ⟨head, { data := some data }⟩
      (by dsimp only; omega)
    dsimp only at hmsg
    change (encodeSSMsg _).length ≤ _
    rw [kOverhead]
    omega
  startSS tuple := by
    have hbody : (encodeSSBody (startMsgOf tuple).body).length = 4 := rfl
    have hmsg := length_encodeSSMsg_le (startMsgOf tuple) (by omega)
    change (encodeSSMsg _).length ≤ _
    rw [kOverhead]
    omega
  handshakeCS := by decide

end Wire

end Rapidapp.Connector
