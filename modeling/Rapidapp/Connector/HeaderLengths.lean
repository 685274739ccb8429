import Rapidapp.Framework.SendFrames
import Rapidapp.Connector.FrameLimits
import Rapidapp.Connector.Wire

/-!
# The length in the header, written and read back

`EasyNet::Send` (`framework/rapidapp_easy_net.cpp:157-171`) and `SerializeAndSendToPeer`
(`connector_client_api_imp.cpp:155-170`) write the length of the frame as a `uint32_t` without a
look at its size; `GetMsgLength` (`rapidapp_framework_imp.h:174-183`) returns it as an `int`, and
`OnFrontEndMsg` takes that for a `size_t`.
-/

namespace Rapidapp

/-- The lengths that come back: those an `int` can hold, and those of which the low 32 bits are a
negative `int` that stands for them again when it is made a `size_t`. -/
def Survives (len : Nat) : Prop := len < 2 ^ 31 ∨ 2 ^ 64 - 2 ^ 31 ≤ len ∧ len < 2 ^ 64

instance (len : Nat) : Decidable (Survives len) := inferInstanceAs (Decidable (_ ∨ _))

/-- What `GetMsgLength` reads of a header, whatever follows it. -/
theorem getMsgLength_be32 (len : Nat) (t : List UInt8) :
    getMsgLength (Bytes.be32 len ++ t) = CInt.int32 ((len % 2 ^ 32 : Nat) : Int) := by
  rw [getMsgLength, if_neg (by simp), Bytes.readBe32_be32]

theorem uint64_int32_eq_iff (len : Nat) :
    CInt.uint64 (CInt.int32 ((len % 2 ^ 32 : Nat) : Int)) = len ↔ Survives len := by
  unfold CInt.uint64 CInt.int32 Int.bmod Survives
  dsimp only
  split_ifs <;> omega

theorem uint64_mod (len : Nat) : CInt.uint64 (len : Int) % 2 ^ 32 = len % 2 ^ 32 := by
  unfold CInt.uint64
  omega

/-- A frame whose header was written for `size` reads back as `size + 4`. -/
def ReadsBack (header : List UInt8) (size : Nat) : Prop :=
  ∀ t, CInt.uint64 (getMsgLength (header ++ t)) = size + 4

theorem readsBack_be32 {len size : Nat} (h : len % 2 ^ 32 = (size + 4) % 2 ^ 32) :
    ReadsBack (Bytes.be32 len) size ↔ Survives (size + 4) := by
  unfold ReadsBack
  simp only [getMsgLength_be32, h, uint64_int32_eq_iff]
  exact forall_const (List UInt8)

theorem readsBack_lengthHeader (size : Nat) :
    ReadsBack (Heap.lengthHeader size) size ↔ Survives (size + 4) :=
  readsBack_be32 (uint64_mod (size + 4))

/-- When `Send` succeeds, it has written the header and the payload. -/
theorem Heap.output_of_send {γ : Type} {h h' : Heap γ} {p : NetPtr} {n : EasyNet γ} {b : BevPtr}
    {msg : List UInt8} (hn : Owns h p n b) (hmsg : msg ≠ [])
    (hsend : h.send p msg = (.easyNetOk, h')) :
    h'.output b = h.output b ++ (lengthHeader msg.length ++ msg) := by
  by_cases hst : n.state = .netEstablished
  · rw [send_established hn hmsg hst] at hsend
    obtain ⟨hok, hout⟩ := writeFrame_output hn.bev msg
    rw [hsend] at hok hout
    obtain ⟨hheader, hpayload⟩ := hok.mp rfl
    rw [hheader, hpayload] at hout
    exact hout
  · obtain ⟨r, hr, heq⟩ := send_notEstablished hn hmsg hst
    rw [heq] at hsend
    exact absurd (congrArg Prod.fst hsend) hr

open TSocketUtil in
/-- Where a message was sent, by the server or by the client, its header reads back as its length
exactly when the length survives. -/
theorem header_readsBack_iff (pb : Connector.Protobuf) :
    (∀ {γ : Type} {h h' : Heap γ} {p : NetPtr} {n : EasyNet γ} {b : BevPtr} {msg : List UInt8},
      Heap.Owns h p n b → msg ≠ [] → h.send p msg = (.easyNetOk, h') →
        ∃ header, header.length = 4 ∧ h'.output b = h.output b ++ (header ++ msg) ∧
          (ReadsBack header msg.length ↔ Survives (msg.length + 4))) ∧
    ∀ {k k' : Connector.Client} {msg : Connector.CSMsg} {outcome : SendOutcome},
      k.serializeAndSendToPeer pb msg outcome = (normal, k') →
        ∃ header, header.length = 4 ∧
          k.tcpSock.pushvToSendQ [header, pb.serializeCSMsg msg] =
            (normal, { k.tcpSock with
              sendBuf := k.tcpSock.sendBuf.append (header ++ pb.serializeCSMsg msg) }) ∧
          (ReadsBack header (pb.serializeCSMsg msg).length ↔
            Survives ((pb.serializeCSMsg msg).length + 4)) := by
  constructor
  · intro γ h h' p n b msg hn hmsg hsend
    exact ⟨Heap.lengthHeader msg.length, rfl, Heap.output_of_send hn hmsg hsend,
      readsBack_lengthHeader msg.length⟩
  · intro k k' msg outcome hsend
    refine ⟨Bytes.be32 ((pb.serializeCSMsg msg).length + 4), rfl, ?_, readsBack_be32 rfl⟩
    have hret : (k.serializeAndSendToPeer pb msg outcome).1 = normal := by rw [hsend]
    have hpush := Connector.Client.serializeAndSendToPeer_fst hret
    rw [Connector.Client.frame] at hpush
    simpa [Connector.Client.iov] using hpush

/-- A connection that is established and takes everything. -/
def taking : Heap Unit :=
  (((Heap.empty fun _ => true).newEasyNet).2).attach 0 7 0 .netEstablished

theorem send_taking {msg : List UInt8} (h : msg ≠ []) :
    ∃ h', taking.send 0 msg = (.easyNetOk, h') := by
  have hn : Heap.Owns taking 0 ⟨some 0, 0, 1, .netEstablished, 0, 0, 0, 0, 0, none, none⟩ 0 :=
    ⟨rfl, rfl, rfl⟩
  have hok := (Heap.writeFrame_output hn.bev msg).1.mpr ⟨rfl, rfl⟩
  rw [← Heap.send_established hn h rfl] at hok
  exact ⟨_, Prod.ext hok rfl⟩

/-- A payload whose length does not survive is sent all the same. -/
theorem send_not_readsBack {size : Nat} (hpos : 0 < size) (h : ¬ Survives (size + 4)) :
    ∃ msg h', msg.length = size ∧ taking.send 0 msg = (.easyNetOk, h') ∧
      ¬ ReadsBack (Heap.lengthHeader size) size := by
  have hne : List.replicate size (0 : UInt8) ≠ [] := fun hnil => by
    rw [List.replicate_eq_nil_iff] at hnil
    omega
  obtain ⟨h', hsend⟩ := send_taking hne
  exact ⟨_, h', List.length_replicate, hsend, fun hreads =>
    h ((readsBack_lengthHeader size).mp hreads)⟩

/-- 2^31 - 4 bytes are sent under a header that reads back as another length. -/
theorem header_lost :
    ∃ msg h', msg.length = 2147483644 ∧ taking.send 0 msg = (.easyNetOk, h') ∧
      ¬ ReadsBack (Heap.lengthHeader 2147483644) 2147483644 :=
  send_not_readsBack (by decide) (by decide)

/-- Three bytes are sent under one that reads back. -/
theorem header_kept :
    ∃ header h', taking.send 0 [1, 2, 3] = (.easyNetOk, h') ∧ ReadsBack header 3 := by
  have hmsg : ([1, 2, 3] : List UInt8) ≠ [] := by simp
  have hn : Heap.Owns taking 0 ⟨some 0, 0, 1, .netEstablished, 0, 0, 0, 0, 0, none, none⟩ 0 :=
    ⟨rfl, rfl, rfl⟩
  obtain ⟨h', hsend⟩ := send_taking hmsg
  obtain ⟨header, -, -, hiff⟩ := (header_readsBack_iff Connector.Wire.protobuf).1 hn hmsg hsend
  exact ⟨header, h', hsend, hiff.mpr (by decide)⟩

end Rapidapp
