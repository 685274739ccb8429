import Rapidapp.Utils.SendQueue

/-!
# The offsets of the send queue

`PushToSendQ` and `PushvToSendQ` (`utils/tsocket_util.cpp:282-358`) as far as `begin`, `end` and
the ranges of the buffer they copy to go, with the `size_t` arithmetic of the source: the length
is narrowed to an `int` for the test and used whole for the copy. `QueueOffsets` follows
`RingBuffer` as long as the pushes are `Admitted` (`pushToSendQ_offsets`, `pushvToSendQ_offsets`).
-/

namespace Rapidapp.TSocketUtil

/-- `buff_size`, `begin` and `end` of `struct RingBuffer` (`tsocket_util.h:38-105`). -/
structure QueueOffsets where
  buffSize : Nat
  begin : Nat
  end_ : Nat
  deriving DecidableEq, Repr

/-- An entry of an `iovec`, `isNull` when its `iov_base` is null. -/
structure IoLen where
  isNull : Bool
  len : Nat
  deriving DecidableEq, Repr

namespace QueueOffsets

/-- `RingBuffer::Avaiable`. -/
def avaiable (q : QueueOffsets) : Int := CInt.int32 ((q.buffSize : Int) - q.end_)

/-- The bounds the buffer starts with. -/
structure Ok (q : QueueOffsets) : Prop where
  begin_le : q.begin ≤ q.end_
  end_le : q.end_ ≤ q.buffSize
  size_lt : q.buffSize < 2 ^ 31

/-- What a push leaves: the return value, the offsets, and the ranges `(offset, length)` it copied
to. -/
structure Outcome where
  ret : Int
  offsets : QueueOffsets
  copies : List (Nat × Nat)
  deriving DecidableEq, Repr

/-- `memcpy` to `Ptr() + end` and `end += len` for each length. -/
def copyAll (end_ : Nat) : List Nat → Nat × List (Nat × Nat)
  | [] => (end_, [])
  | len :: lens =>
    let r := copyAll (CInt.uint64 (end_ + len)) lens
    (r.1, (end_, len) :: r.2)

/-- Copy if the length passes for one for which there is room. -/
def push (q : QueueOffsets) (total : Nat) (lens : List Nat) : Outcome :=
  if CInt.int32 total > q.avaiable then ⟨sendBuffFull, q, []⟩
  else ⟨normal, { q with end_ := (copyAll q.end_ lens).1 }, (copyAll q.end_ lens).2⟩

/-- `TcpSocketUtil::PushToSendQ`. -/
def pushToSendQ (q : QueueOffsets) (bufLen : Nat) : Outcome := q.push bufLen [bufLen]

/-- The lengths of the entries that are not passed over. -/
def lengths (iov : List IoLen) : List Nat :=
  iov.filterMap fun v => if v.isNull ∨ v.len = 0 then none else some v.len

/-- `total_len` of `PushvToSendQ`, a `size_t`. -/
def totalLen (lens : List Nat) : Nat :=
  lens.foldl (fun total len => CInt.uint64 ((total + len : Nat) : Int)) 0

/-- `TcpSocketUtil::PushvToSendQ`; `none` is a null `iov`. -/
def pushvToSendQ (q : QueueOffsets) : Option (List IoLen) → Outcome
  | none => ⟨invldArgument, q, []⟩
  | some iov =>
    if iov.length = 0 then ⟨invldArgument, q, []⟩ else q.push (totalLen (lengths iov)) (lengths iov)

/-- The push is refused with `SEND_BUFF_FULL` and changes nothing, or `end` and all it copied is
inside the buffer. -/
def Safe (q : QueueOffsets) (r : Outcome) : Prop :=
  r = ⟨sendBuffFull, q, []⟩ ∨
    r.offsets.buffSize = q.buffSize ∧ r.offsets.begin = q.begin ∧ r.offsets.end_ ≤ q.buffSize ∧
      ∀ c ∈ r.copies, c.1 + c.2 ≤ q.buffSize

/-- A length that an `int` can hold, or whose low 32 bits are one and more than the free space. -/
def Admitted (q : QueueOffsets) (len : Nat) : Prop :=
  len < 2 ^ 31 ∨ q.buffSize - q.end_ < len % 2 ^ 32 ∧ len % 2 ^ 32 < 2 ^ 31

/-! ## The arithmetic -/

theorem Ok.avaiable_eq {q : QueueOffsets} (h : q.Ok) :
    q.avaiable = ((q.buffSize - q.end_ : Nat) : Int) := by
  have hend := h.end_le
  have hsize := h.size_lt
  rw [avaiable, CInt.int32_of_range (by omega) (by omega)]
  omega

/-- The narrowed length passes the test when its low 32 bits are a negative `int`, or at most the
free space. -/
theorem int32_gt_iff {len room : Nat} (hroom : room < 2 ^ 31) :
    CInt.int32 len > (room : Int) ↔ room < len % 2 ^ 32 ∧ len % 2 ^ 32 < 2 ^ 31 := by
  unfold CInt.int32 Int.bmod
  dsimp only
  split_ifs <;> omega

/-- The low 32 bits of the sum do not depend on where it wraps around. -/
theorem totalLen_mod (lens : List Nat) : totalLen lens % 2 ^ 32 = lens.sum % 2 ^ 32 := by
  have hfold : ∀ total, lens.foldl (fun total len => CInt.uint64 ((total + len : Nat) : Int)) total
      % 2 ^ 32 = (total + lens.sum) % 2 ^ 32 := by
    induction lens with
    | nil => intro total; rfl
    | cons len lens ih =>
      intro total
      rw [List.foldl_cons, ih, List.sum_cons]
      unfold CInt.uint64
      omega
  have hzero := hfold 0
  rwa [Nat.zero_add] at hzero

theorem int32_congr {m n : Nat} (h : m % 2 ^ 32 = n % 2 ^ 32) : CInt.int32 m = CInt.int32 n := by
  unfold CInt.int32 Int.bmod
  have hcast : (m : Int) % ((2 ^ 32 : Nat) : Int) = (n : Int) % ((2 ^ 32 : Nat) : Int) := by
    omega
  rw [hcast]

/-- All is copied inside the buffer exactly when there is room for the sum of the lengths. -/
theorem copyAll_fits {size : Nat} (hsize : size < 2 ^ 31) (lens : List Nat) {end_ : Nat}
    (hend : end_ ≤ size) :
    ((copyAll end_ lens).1 ≤ size ∧ ∀ c ∈ (copyAll end_ lens).2, c.1 + c.2 ≤ size) ↔
      end_ + lens.sum ≤ size := by
  induction lens generalizing end_ with
  | nil => simp [copyAll, hend]
  | cons len lens ih =>
    simp only [copyAll, List.mem_cons, forall_eq_or_imp, List.sum_cons]
    by_cases hlen : end_ + len ≤ size
    · have hwrap : CInt.uint64 ((end_ : Int) + len) = end_ + len := by
        have hcast := CInt.uint64_natCast (n := end_ + len) (by omega)
        rwa [Nat.cast_add] at hcast
      rw [hwrap, and_iff_right hlen, ih hlen, Nat.add_assoc]
    · refine iff_of_false (fun hall => hlen hall.2.1) ?_
      omega

/-! ## The pushes -/

theorem push_safe_iff {q : QueueOffsets} (h : q.Ok) {total : Nat} {lens : List Nat}
    (htotal : total % 2 ^ 32 = lens.sum % 2 ^ 32) :
    q.Safe (q.push total lens) ↔ q.Admitted lens.sum := by
  have hend := h.end_le
  have hsize := h.size_lt
  have hroom : q.buffSize - q.end_ < 2 ^ 31 := by omega
  unfold push Admitted
  rw [int32_congr htotal, h.avaiable_eq]
  by_cases hfull : CInt.int32 lens.sum > ((q.buffSize - q.end_ : Nat) : Int)
  · rw [if_pos hfull]
    exact iff_of_true (.inl rfl) (.inr ((int32_gt_iff hroom).mp hfull))
  · rw [if_neg hfull]
    have hnot := mt (int32_gt_iff hroom).mpr hfull
    have hfits := copyAll_fits hsize lens hend
    have hret : normal ≠ sendBuffFull := by simp [normal, sendBuffFull]
    constructor
    · rintro (hrefused | ⟨-, -, hbound, hcopies⟩)
      · exact absurd (congrArg Outcome.ret hrefused) hret
      · have hsum := hfits.mp ⟨hbound, hcopies⟩
        exact .inl (by omega)
    · intro hadmitted
      have hsum : q.end_ + lens.sum ≤ q.buffSize := by omega
      obtain ⟨hbound, hcopies⟩ := hfits.mpr hsum
      exact .inr ⟨rfl, rfl, hbound, hcopies⟩

/-- Neither push goes past the buffer exactly for the lengths that are admitted. -/
theorem pushes_safe_iff {q : QueueOffsets} (h : q.Ok) :
    (∀ bufLen, q.Safe (q.pushToSendQ bufLen) ↔ q.Admitted bufLen) ∧
      ∀ iov, q.Safe (q.pushvToSendQ iov) ↔ q.Admitted (lengths (iov.getD [])).sum := by
  have hinvalid : q.Safe ⟨invldArgument, q, []⟩ :=
    .inr ⟨rfl, rfl, h.end_le, fun _ hc => by cases hc⟩
  constructor
  · intro bufLen
    have hsum : bufLen % 2 ^ 32 = [bufLen].sum % 2 ^ 32 := by simp
    simpa [pushToSendQ] using push_safe_iff h hsum
  · intro iov
    cases iov with
    | none => exact iff_of_true hinvalid (.inl (by decide))
    | some iov =>
      rw [pushvToSendQ]
      split_ifs with hzero
      · rw [List.length_eq_zero_iff.mp hzero]
        exact iff_of_true hinvalid (.inl (by decide))
      · exact push_safe_iff h (totalLen_mod (lengths iov))

/-- Three bytes into an empty buffer of eight. -/
theorem pushToSendQ_safe : Safe ⟨8, 0, 0⟩ (pushToSendQ ⟨8, 0, 0⟩ 3) :=
  ((pushes_safe_iff ⟨by decide, by decide, by decide⟩).1 3).mpr (.inl (by decide))

/-- A length of 2^31 is negative as an `int`, so it passes for one that fits. -/
theorem pushToSendQ_overrun :
    ¬ Safe ⟨8, 0, 0⟩ (pushToSendQ ⟨8, 0, 0⟩ 2147483648) ∧
      ¬ Safe ⟨8, 0, 0⟩ (pushvToSendQ ⟨8, 0, 0⟩ (some [⟨false, 4294967296⟩])) := by
  constructor
  · rintro (hrefused | ⟨-, -, hbound, -⟩)
    · exact absurd (congrArg Outcome.ret hrefused) (by decide)
    · revert hbound
      decide
  · rintro (hrefused | ⟨-, -, hbound, -⟩)
    · exact absurd (congrArg Outcome.ret hrefused) (by decide)
    · revert hbound
      decide

/-! ## The offsets of the buffer -/

/-- The sum of the lengths, where it does not wrap around. -/
theorem copyAll_fst (lens : List Nat) {end_ : Nat} (h : end_ + lens.sum < 2 ^ 64) :
    (copyAll end_ lens).1 = end_ + lens.sum := by
  induction lens generalizing end_ with
  | nil => rfl
  | cons len lens ih =>
    rw [List.sum_cons] at h ⊢
    have hwrap : CInt.uint64 ((end_ : Int) + len) = end_ + len := by
      have hcast := CInt.uint64_natCast (n := end_ + len) (by omega)
      rwa [Nat.cast_add] at hcast
    rw [copyAll, hwrap]
    dsimp only
    rw [ih (by omega), Nat.add_assoc]

/-- Of a push that passes the test all lengths fit. -/
theorem Ok.sum_le {q : QueueOffsets} (h : q.Ok) {len : Nat} (hadmitted : q.Admitted len)
    (hpass : ¬ CInt.int32 len > q.avaiable) : q.end_ + len ≤ q.buffSize := by
  have hend := h.end_le
  have hsize := h.size_lt
  rw [h.avaiable_eq] at hpass
  have hnot := mt (int32_gt_iff (by omega)).mpr hpass
  unfold Admitted at hadmitted
  omega

end QueueOffsets

open QueueOffsets

/-- The offsets of a buffer. -/
def RingBuffer.offsets (b : RingBuffer) : QueueOffsets := ⟨b.buffSize, b.begin, b.end_⟩

theorem RingBuffer.Ok.offsets {b : RingBuffer} (h : b.Ok) : b.offsets.Ok :=
  ⟨h.begin_le, h.end_le, h.size_lt⟩

/-- The pointer and the length of an entry. -/
def IoVec.ioLen : IoVec → IoLen
  | .null len => ⟨true, len⟩
  | .bytes data => ⟨false, data.length⟩

theorem lengths_ioLen (iov : List IoVec) :
    lengths (iov.map IoVec.ioLen) = (iov.filterMap IoVec.data).map List.length := by
  induction iov with
  | nil => rfl
  | cons v iov ih =>
    rw [lengths] at ih ⊢
    rw [List.map_cons, List.filterMap_cons, List.filterMap_cons, ih]
    cases v with
    | null len => simp [IoVec.ioLen, IoVec.data]
    | bytes data => by_cases hdata : data.length = 0 <;> simp [IoVec.ioLen, IoVec.data, hdata]

section Offsets

variable {t : TcpSocketUtil} (h : t.sendBuf.Ok)
include h

/-- A push of bytes moves the offsets as the arithmetic says. -/
theorem push_offsets {data : List UInt8} {lens : List Nat} {total : Nat}
    (hlens : lens.sum = data.length) (htotal : total % 2 ^ 32 = lens.sum % 2 ^ 32)
    (hadmitted : t.sendBuf.offsets.Admitted data.length) :
    let r := if CInt.int32 (data.length : Int) > t.sendBuf.avaiable then (sendBuffFull, t)
      else (normal, { t with sendBuf := t.sendBuf.append data })
    r.1 = (t.sendBuf.offsets.push total lens).ret ∧
      r.2.sendBuf.offsets = (t.sendBuf.offsets.push total lens).offsets := by
  have havaiable : t.sendBuf.offsets.avaiable = t.sendBuf.avaiable := rfl
  have hint : CInt.int32 total = CInt.int32 (data.length : Int) := int32_congr (hlens ▸ htotal)
  unfold push
  rw [hint, havaiable]
  by_cases hfull : CInt.int32 (data.length : Int) > t.sendBuf.avaiable
  · rw [if_pos hfull, if_pos hfull]
    exact ⟨rfl, rfl⟩
  · rw [if_neg hfull, if_neg hfull]
    have hfits := h.offsets.sum_le hadmitted hfull
    have hend : (copyAll t.sendBuf.offsets.end_ lens).1 = t.sendBuf.offsets.end_ + lens.sum := by
      apply copyAll_fst
      rw [hlens]
      have hsize : t.sendBuf.offsets.buffSize < 2 ^ 31 := h.size_lt
      omega
    refine ⟨rfl, ?_⟩
    dsimp only
    rw [hend, hlens]
    simp [RingBuffer.offsets, RingBuffer.append, RingBuffer.end_]

theorem pushToSendQ_offsets {buf : List UInt8}
    (hadmitted : t.sendBuf.offsets.Admitted buf.length) :
    (t.pushToSendQ buf).1 = (t.sendBuf.offsets.pushToSendQ buf.length).ret ∧
      (t.pushToSendQ buf).2.sendBuf.offsets =
        (t.sendBuf.offsets.pushToSendQ buf.length).offsets := by
  have hlens : [buf.length].sum = buf.length := by simp
  have htotal : buf.length % 2 ^ 32 = [buf.length].sum % 2 ^ 32 := by rw [hlens]
  unfold TcpSocketUtil.pushToSendQ QueueOffsets.pushToSendQ
  exact push_offsets h hlens htotal hadmitted

theorem pushvToSendQ_offsets {iov : Option (List IoVec)}
    (hadmitted : t.sendBuf.offsets.Admitted (iovData (iov.getD [])).length) :
    let r := t.sendBuf.offsets.pushvToSendQ (iov.map (List.map IoVec.ioLen))
    (t.pushIoVec iov).1 = r.ret ∧ (t.pushIoVec iov).2.sendBuf.offsets = r.offsets := by
  cases iov with
  | none => exact ⟨rfl, rfl⟩
  | some iov =>
    simp only [TcpSocketUtil.pushIoVec, Option.map_some, pushvToSendQ, List.length_map]
    split_ifs
    · exact ⟨rfl, rfl⟩
    · have hlens : (lengths (iov.map IoVec.ioLen)).sum = (iovData iov).length := by
        rw [lengths_ioLen, iovData, List.length_flatten]
      rw [TcpSocketUtil.pushvToSendQ, TcpSocketUtil.totalLen_eq]
      exact push_offsets h hlens (totalLen_mod _) hadmitted

end Offsets

end Rapidapp.TSocketUtil
