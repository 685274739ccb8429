import Mathlib.Data.Int.Basic
import Mathlib.Tactic.NormNum

/-!
# C integer conversions

The conversions between the fixed-width integer types of an LP64 C target. A value of
a signed type is an `Int` in its range, a value of an unsigned type a `Nat` below its
modulus; a conversion takes the mathematical value into the range of the target type
(modulo `2 ^ w`, two's complement for the signed ones).
-/

namespace CInt

/-- Conversion to a signed 32-bit `int`. -/
def int32 (x : Int) : Int := Int.bmod x (2 ^ 32)

/-- Conversion to `uint32_t`. -/
def uint32 (x : Int) : Nat := (x % 2 ^ 32).toNat

/-- Conversion to a signed 64-bit integer (`time_t`, `int64_t`). -/
def int64 (x : Int) : Int := Int.bmod x (2 ^ 64)

/-- Conversion to an unsigned 64-bit integer (`size_t`, `uint64_t`); a negative `int` is
sign-extended. -/
def uint64 (x : Int) : Nat := (x % 2 ^ 64).toNat

theorem int32_of_range {x : Int} (hlo : -2 ^ 31 ≤ x) (hhi : x < 2 ^ 31) : int32 x = x := by
  apply Int.bmod_eq_of_le <;> omega

theorem le_int32 (x : Int) : -2 ^ 31 ≤ int32 x := by
  have := Int.le_bmod (x := x) (m := 2 ^ 32) (by decide)
  unfold int32; omega

theorem int32_lt (x : Int) : int32 x < 2 ^ 31 := by
  have := Int.bmod_lt (x := x) (m := 2 ^ 32) (by decide)
  unfold int32; omega

theorem int32_le (n : Nat) : int32 n ≤ n := by
  unfold int32 Int.bmod
  dsimp only
  split <;> omega

/-- A difference that stays in the range. -/
theorem int32_sub {x : Int} {k : Nat} (h : (k : Int) ≤ int32 x) : int32 (x - k) = int32 x - k := by
  have hlo := le_int32 x
  have hhi := int32_lt x
  unfold int32 at h hlo hhi ⊢
  rw [← Int.bmod_sub_bmod]
  apply Int.bmod_eq_of_le <;> omega

/-- A 32-bit word that reads as a nonnegative `int` is that number. -/
theorem int32_nonneg {n : Nat} (h : n < 2 ^ 32) (hnonneg : 0 ≤ int32 n) : int32 n = n := by
  by_cases hn : n < 2 ^ 31
  · exact int32_of_range (by omega) (by omega)
  · have hsub : int32 n = (n : Int) - 2 ^ 32 := by
      have hmod : int32 ((n : Int) - 2 ^ 32) = int32 n := by
        unfold int32
        exact Int.sub_bmod_right n (2 ^ 32)
      rw [← hmod]
      exact int32_of_range (by omega) (by omega)
    omega

theorem uint64_of_nonneg {x : Int} (hlo : 0 ≤ x) (hhi : x < 2 ^ 64) : uint64 x = x.toNat := by
  unfold uint64; rw [Int.emod_eq_of_lt hlo hhi]

@[simp] theorem uint64_zero : uint64 0 = 0 := rfl

theorem uint64_natCast {n : Nat} (h : n < 2 ^ 64) : uint64 (n : Int) = n := by
  rw [uint64_of_nonneg (by omega) (by omega)]; simp

/-- A count that wraps around gets smaller. -/
theorem uint64_le (n : Nat) : uint64 (n : Int) ≤ n := by
  unfold uint64
  omega

/-- A negative `int` becomes a `size_t` of at least `2 ^ 63`. -/
theorem uint64_of_neg {x : Int} (hlo : -2 ^ 31 ≤ x) (hhi : x < 0) : 2 ^ 63 ≤ uint64 x := by
  unfold uint64; omega

theorem uint32_int32 {n : Nat} (h : n < 2 ^ 32) : uint32 (int32 n) = n := by
  have hmod : int32 n % ((2 ^ 32 : Nat) : Int) = n % ((2 ^ 32 : Nat) : Int) := Int.bmod_emod
  unfold uint32
  omega

theorem uint64_int32 {n : Nat} (h : (n : Int) < 2 ^ 31) : uint64 (int32 n) = n := by
  rw [int32_of_range (by omega) h]
  exact uint64_natCast (by omega)

end CInt
