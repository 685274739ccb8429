import Rapidapp.Framework.FrameLoop

/-!
# The frames the loop finds

`frameLoop` visits the frames that stand one after the other at the head of the copied
bytes, as `Framing.Decoder.cuts` lists them for the decoder `msgDecoder`, and then stops;
in particular it always ends. A message written by `EasyNet::Send` is a frame of this
decoder.
-/

namespace Rapidapp

/-- `msglen` of the frame at the head of the bytes, when the loop does not stop there. -/
def msgNext (buf : List UInt8) : Option Nat :=
  let msglen := CInt.uint64 (getMsgLength buf)
  if msglen = 0 ∨ msglen > buf.length then none else some msglen

theorem msgNext_eq_some {buf : List UInt8} {n : Nat} :
    msgNext buf = some n ↔ CInt.uint64 (getMsgLength buf) = n ∧ 0 < n ∧ n ≤ buf.length := by
  unfold msgNext
  dsimp only
  split_ifs with h
  · refine iff_of_false nofun ?_
    rintro ⟨rfl, hpos, hle⟩
    omega
  · rw [Option.some.injEq]
    constructor
    · rintro rfl; omega
    · exact fun h => h.1

/-- The decoder of the message handlers. -/
def msgDecoder : Framing.Decoder UInt8 where
  next := msgNext
  next_pos h := (msgNext_eq_some.mp h).2.1
  next_le h := (msgNext_eq_some.mp h).2.2

theorem next_eq_some {buf : List UInt8} {n : Nat} :
    msgDecoder.next buf = some n ↔
      CInt.uint64 (getMsgLength buf) = n ∧ 0 < n ∧ n ≤ buf.length :=
  msgNext_eq_some

/-- `body` on the frames of the given lengths, the first of them at `elapsed`. -/
def foldFrames {S : Type} (body : Nat → Nat → S → S × Bool) :
    Nat → List Nat → S → S × Nat × Bool
  | elapsed, [], s => (s, elapsed, true)
  | elapsed, msglen :: rest, s =>
    match body elapsed msglen s with
    | (s, false) => (s, elapsed, false)
    | (s, true) => foldFrames body (elapsed + msglen) rest s

/-- The loop ends, and it is `body` on the frames of the buffer, one after the other. -/
theorem frameLoop_eq {S : Type} (body : Nat → Nat → S → S × Bool) (buf : List UInt8)
    {fuel elapsed : Nat} (hfuel : buf.length - elapsed < fuel) (s : S) :
    frameLoop body buf fuel elapsed s =
      some (foldFrames body elapsed (msgDecoder.cuts (buf.drop elapsed)) s) := by
  induction fuel generalizing elapsed s with
  | zero => omega
  | succ fuel ih =>
    rw [frameLoop]
    by_cases hlt : buf.length > elapsed
    swap
    · have hnil : buf.drop elapsed = [] := List.drop_eq_nil_of_le (by omega)
      rw [if_neg hlt, hnil, Framing.Decoder.cuts_of_none Framing.Decoder.next_nil, foldFrames]
    rw [if_pos hlt]
    dsimp only
    cases hnext : msgDecoder.next (buf.drop elapsed) with
    | none =>
      have hstop : CInt.uint64 (getMsgLength (buf.drop elapsed)) = 0 ∨
          CInt.uint64 (getMsgLength (buf.drop elapsed)) > buf.length - elapsed := by
        by_contra hgo
        rw [← List.length_drop] at hgo
        have hsome := next_eq_some.mpr ⟨rfl, by omega, not_lt.mp (not_or.mp hgo).2⟩
        rw [hnext] at hsome
        cases hsome
      rw [if_pos hstop, Framing.Decoder.cuts_of_none hnext, foldFrames]
    | some n =>
      obtain ⟨hlen, hpos, hle⟩ := next_eq_some.mp hnext
      rw [List.length_drop] at hle
      rw [hlen, if_neg (by omega), Framing.Decoder.cuts_of_some hnext, foldFrames]
      rcases body elapsed n s with ⟨s', cont⟩
      cases cont with
      | false => rfl
      | true =>
        dsimp only
        rw [ih (by omega) s', List.drop_drop]

/-! ## Frames that `EasyNet::Send` writes -/

/-- What `EasyNet::Send` writes for a payload. -/
def encodeMsg (payload : List UInt8) : List UInt8 := Heap.lengthHeader payload.length ++ payload

/-- A payload that `EasyNet::Send` frames so that the length survives as an `int`. -/
structure Sendable (payload : List UInt8) : Prop where
  ne_nil : payload ≠ []
  fits : payload.length + 4 < 2 ^ 31

theorem length_encodeMsg (payload : List UInt8) :
    (encodeMsg payload).length = payload.length + 4 := by
  simp [encodeMsg, Heap.lengthHeader, Nat.add_comm]

/-- The header reads back as the length of the frame. -/
theorem getMsgLength_header {n : Nat} (h : n + 4 < 2 ^ 31) (t : List UInt8) :
    getMsgLength (Heap.lengthHeader n ++ t) = n + 4 := by
  have hcast : CInt.uint64 ((n : Int) + 4) = n + 4 := by
    have := CInt.uint64_natCast (n := n + 4) (by omega)
    simpa using this
  rw [getMsgLength, if_neg (by simp [Heap.lengthHeader]), Heap.lengthHeader, hcast,
    Bytes.readBe32_be32, Nat.mod_eq_of_lt (by omega)]
  have := CInt.int32_of_range (x := ((n + 4 : Nat) : Int)) (by omega) (by omega)
  simpa using this

theorem uint64_header {n : Nat} (h : n + 4 < 2 ^ 31) (t : List UInt8) :
    CInt.uint64 (getMsgLength (Heap.lengthHeader n ++ t)) = n + 4 := by
  rw [getMsgLength_header h]
  have := CInt.uint64_natCast (n := n + 4) (by omega)
  simpa using this

/-- The frame of a payload is found whole, whatever follows it. -/
theorem next_encodeMsg {payload : List UInt8} (h : payload.length + 4 < 2 ^ 31)
    (t : List UInt8) : msgDecoder.next (encodeMsg payload ++ t) = some (payload.length + 4) := by
  have hlen := length_encodeMsg payload
  have hhead : CInt.uint64 (getMsgLength (encodeMsg payload ++ t)) = payload.length + 4 := by
    rw [encodeMsg, List.append_assoc]
    exact uint64_header h _
  exact next_eq_some.mpr ⟨hhead, by omega, by rw [List.length_append]; omega⟩

/-- A sent message is one frame of the decoder. -/
theorem isFrame_encodeMsg {payload : List UInt8} (h : Sendable payload) :
    msgDecoder.IsFrame (encodeMsg payload) where
  complete t := by rw [next_encodeMsg h.fits, length_encodeMsg]
  pending p hp hne := by
    have hlt : p.length < payload.length + 4 := by
      have hle := hp.length_le
      have hlen := length_encodeMsg payload
      have hneq : p.length ≠ (encodeMsg payload).length := fun heq => hne (hp.eq_of_length heq)
      omega
    cases hnext : msgDecoder.next p with
    | none => rfl
    | some n =>
      obtain ⟨hlen, hpos, hle⟩ := next_eq_some.mp hnext
      by_cases hfour : p.length < 4
      · -- no header yet
        rw [getMsgLength, if_pos hfour, CInt.uint64_zero] at hlen
        omega
      · -- the header has arrived and announces more than there is
        obtain ⟨t, rfl⟩ : Heap.lengthHeader payload.length <+: p :=
          List.prefix_of_prefix_length_le (List.prefix_append _ _) hp
            (by simp only [Heap.lengthHeader, Bytes.length_be32]; omega)
        rw [uint64_header h.fits] at hlen
        omega

/-- The header of a frame the decoder finds in a receive buffer: it is a small positive number, and
it was there. -/
theorem header_of_next {buf : List UInt8} (hbuf : buf.length < 2 ^ 63) {n : Nat}
    (h : msgDecoder.next buf = some n) :
    Bytes.readBe32 buf = n ∧ n < 2 ^ 31 ∧ 4 ≤ buf.length := by
  obtain ⟨hlen, hpos, hle⟩ := next_eq_some.mp h
  have hfour : ¬ buf.length < 4 := by
    intro hlt
    rw [getMsgLength, if_pos hlt, CInt.uint64_zero] at hlen
    omega
  rw [getMsgLength, if_neg hfour] at hlen
  have hlo := CInt.le_int32 (Bytes.readBe32 buf)
  have hhi := CInt.int32_lt (Bytes.readBe32 buf)
  -- a negative length is a huge `size_t`
  have hnonneg : 0 ≤ CInt.int32 (Bytes.readBe32 buf) := by
    by_contra hneg
    have := CInt.uint64_of_neg hlo (by omega)
    omega
  rw [CInt.uint64_of_nonneg hnonneg (by omega)] at hlen
  have hread := Bytes.readBe32_lt buf
  have hsame : CInt.int32 (Bytes.readBe32 buf) = Bytes.readBe32 buf :=
    CInt.int32_nonneg (by omega) hnonneg
  omega

/-- What the message handlers of the framework hand out of a frame. -/
theorem payload_of_frame {buf : List UInt8} {pos : Nat} {payload : List UInt8}
    (hfits : payload.length + 4 < 2 ^ 31)
    (h : (buf.drop pos).take (encodeMsg payload).length = encodeMsg payload) :
    payloadBytes buf pos (encodeMsg payload).length = payload ∧
      payloadSize (encodeMsg payload).length = payload.length := by
  have hlen := length_encodeMsg payload
  have hsize : payloadSize (encodeMsg payload).length = payload.length := by
    have hcast : (((encodeMsg payload).length : Int) - 4) = payload.length := by omega
    rw [payloadSize, hcast, CInt.uint64_natCast (by omega)]
  refine ⟨?_, hsize⟩
  have hdrop := congrArg (List.drop 4) h
  rw [encodeMsg, List.drop_left' (by rfl), ← encodeMsg, List.drop_take, List.drop_drop, hlen] at hdrop
  rw [payloadBytes, hsize]
  exact hdrop

end Rapidapp
