import Mathlib.Data.List.Basic
import Mathlib.Tactic.NormNum

/-!
# Big-endian 32-bit words in byte lists

What `htonl` and `ntohl` do to a 32-bit word in memory on a little-endian machine: the
bytes of the word from the most significant one on.
-/

namespace Bytes

/-- The four bytes of `n` modulo `2 ^ 32`, most significant byte first. -/
def be32 (n : Nat) : List UInt8 :=
  [UInt8.ofNat (n / 2 ^ 24), UInt8.ofNat (n / 2 ^ 16), UInt8.ofNat (n / 2 ^ 8), UInt8.ofNat n]

/-- The 32-bit word in the first four bytes, `0` when there are fewer. -/
def readBe32 : List UInt8 → Nat
  | a :: b :: c :: d :: _ => a.toNat * 2 ^ 24 + b.toNat * 2 ^ 16 + c.toNat * 2 ^ 8 + d.toNat
  | _ => 0

@[simp] theorem length_be32 (n : Nat) : (be32 n).length = 4 := rfl

theorem readBe32_lt (bs : List UInt8) : readBe32 bs < 2 ^ 32 := by
  unfold readBe32
  split
  · next a b c d _ =>
    have ha := a.toNat_lt
    have hb := b.toNat_lt
    have hc := c.toNat_lt
    have hd := d.toNat_lt
    omega
  · decide

/-- The word at the front does not depend on what follows it. -/
theorem readBe32_prefix {p w : List UInt8} (h : p <+: w) (hp : 4 ≤ p.length) :
    readBe32 p = readBe32 w := by
  obtain ⟨t, rfl⟩ := h
  match p, hp with
  | a :: b :: c :: d :: p, _ => rfl

/-- A word reads back modulo `2 ^ 32`, whatever follows it. -/
theorem readBe32_be32 (n : Nat) (t : List UInt8) : readBe32 (be32 n ++ t) = n % 2 ^ 32 := by
  simp only [be32, List.cons_append, readBe32, UInt8.toNat_ofNat']
  omega

/-- Four bytes are the word they encode. -/
theorem be32_readBe32 {bs : List UInt8} (h : 4 ≤ bs.length) : be32 (readBe32 bs) = bs.take 4 := by
  match bs, h with
  | a :: b :: c :: d :: t, _ =>
    have ha := a.toNat_lt
    have hb := b.toNat_lt
    have hc := c.toNat_lt
    have hd := d.toNat_lt
    simp only [readBe32, be32, List.take_succ_cons, List.take_zero, List.cons.injEq, and_true]
    refine ⟨?_, ?_, ?_, ?_⟩ <;> apply UInt8.toNat_inj.mp <;> rw [UInt8.toNat_ofNat'] <;> omega

end Bytes
