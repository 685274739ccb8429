import Mathlib.Data.Nat.Log
import Mathlib.Data.List.TakeWhile
import Mathlib.Data.List.Induction
import Mathlib.Algebra.Ring.Nat

/-!
# Decimal numbers in ASCII

`Decimal.text n` is how `n` is written, without leading zeros; `Decimal.value` is the number that
digits stand for, with or without leading zeros.
-/

namespace Decimal

/-- `'0'` to `'9'`. -/
def isDigit (c : UInt8) : Bool := 48 ≤ c && c ≤ 57

/-- The digit of a number below ten. -/
def digit (d : Nat) : UInt8 := UInt8.ofNat (48 + d)

/-- The number that digits stand for. -/
def value (l : List UInt8) : Nat := l.foldl (fun n c => 10 * n + (c.toNat - 48)) 0

/-- The last `fuel` digits, or as many as there are. -/
def textAux : Nat → Nat → List UInt8
  | 0, _ => []
  | fuel + 1, n => (if n < 10 then [] else textAux fuel (n / 10)) ++ [digit (n % 10)]

/-- The digits of a number; it has fewer of them than bits, and at least one. -/
def text (n : Nat) : List UInt8 := textAux (n.log2 + 1) n

/-- A number with its sign. -/
def signed (n : Int) : List UInt8 := if n < 0 then 45 :: text n.natAbs else text n.natAbs

/-! ## Digits -/

theorem toNat_digit {d : Nat} (hd : d < 10) : (digit d).toNat = 48 + d := by
  rw [digit, UInt8.toNat_ofNat']
  omega

theorem isDigit_iff {c : UInt8} : isDigit c = true ↔ 48 ≤ c.toNat ∧ c.toNat ≤ 57 := by
  rw [isDigit, Bool.and_eq_true, decide_eq_true_iff, decide_eq_true_iff, UInt8.le_iff_toNat_le,
    UInt8.le_iff_toNat_le]
  rfl

@[simp] theorem isDigit_digit {d : Nat} (hd : d < 10) : isDigit (digit d) = true := by
  rw [isDigit_iff, toNat_digit hd]
  omega

@[simp] theorem value_nil : value [] = 0 := rfl

theorem value_concat (l : List UInt8) (c : UInt8) :
    value (l ++ [c]) = 10 * value l + (c.toNat - 48) := by
  rw [value, List.foldl_append]
  rfl

/-! ## The text of a number -/

theorem textAux_fuel {fuel fuel' n : Nat} (h : n < 2 ^ fuel) (h' : n < 2 ^ fuel')
    (hpos : 0 < fuel) (hpos' : 0 < fuel') : textAux fuel n = textAux fuel' n := by
  induction fuel generalizing fuel' n with
  | zero => omega
  | succ fuel ih =>
    cases fuel' with
    | zero => omega
    | succ fuel' =>
      rw [textAux, textAux]
      by_cases hn : n < 10
      · rw [if_pos hn, if_pos hn]
      · have hdiv : n / 10 < 2 ^ fuel ∧ n / 10 < 2 ^ fuel' := by
          rw [Nat.pow_succ] at h h'
          omega
        have hfuel : 0 < fuel ∧ 0 < fuel' := by
          constructor
          · by_contra hzero
            obtain rfl : fuel = 0 := by omega
            omega
          · by_contra hzero
            obtain rfl : fuel' = 0 := by omega
            omega
        rw [if_neg hn, if_neg hn, ih hdiv.1 hdiv.2 hfuel.1 hfuel.2]

/-- The last digit, after the text of the rest. -/
theorem text_eq (n : Nat) :
    text n = (if n < 10 then [] else text (n / 10)) ++ [digit (n % 10)] := by
  rw [text, textAux]
  by_cases hn : n < 10
  · rw [if_pos hn, if_pos hn]
  · have hlog : n < 2 ^ (n.log2 + 1) := Nat.lt_log2_self
    have hpos : 0 < n.log2 := by
      by_contra hzero
      have hlog2 : n.log2 = 0 := by omega
      rw [hlog2] at hlog
      omega
    have hdiv : n / 10 < 2 ^ n.log2 := by
      rw [Nat.pow_succ] at hlog
      omega
    rw [if_neg hn, if_neg hn, text,
      textAux_fuel hdiv Nat.lt_log2_self hpos (Nat.succ_pos _)]

theorem text_ne_nil (n : Nat) : text n ≠ [] := by
  rw [text_eq]
  simp

theorem isDigit_of_mem_text {n : Nat} {c : UInt8} (hc : c ∈ text n) : isDigit c = true := by
  induction n using Nat.strong_induction_on with
  | h n ih =>
    rw [text_eq] at hc
    obtain hc | hc := List.mem_append.mp hc
    · split_ifs at hc with hn
      · cases hc
      · exact ih (n / 10) (by omega) hc
    · obtain rfl := List.mem_singleton.mp hc
      exact isDigit_digit (Nat.mod_lt n (by decide))

/-- A number reads back. -/
@[simp] theorem value_text (n : Nat) : value (text n) = n := by
  induction n using Nat.strong_induction_on with
  | h n ih =>
    rw [text_eq, value_concat, toNat_digit (Nat.mod_lt n (by decide))]
    split_ifs with hn
    · rw [value_nil]
      omega
    · rw [ih (n / 10) (by omega)]
      omega

/-- No number but 0 starts with a zero. -/
theorem text_cases (n : Nat) :
    n = 0 ∧ text n = [48] ∨ ∃ c l, text n = c :: l ∧ c ≠ 48 ∧ isDigit c = true := by
  induction n using Nat.strong_induction_on with
  | h n ih =>
    by_cases hzero : n = 0
    · subst hzero
      exact .inl ⟨rfl, rfl⟩
    · right
      by_cases hn : n < 10
      · refine ⟨digit (n % 10), [], ?_, ?_, isDigit_digit (Nat.mod_lt n (by decide))⟩
        · rw [text_eq, if_pos hn, List.nil_append]
        · intro hdigit
          have hnat := congrArg UInt8.toNat hdigit
          rw [toNat_digit (Nat.mod_lt n (by decide))] at hnat
          simp only [UInt8.reduceToNat] at hnat
          omega
      · obtain ⟨hdiv, _⟩ | ⟨c, l, htext, hc⟩ := ih (n / 10) (by omega)
        · omega
        · refine ⟨c, l ++ [digit (n % 10)], ?_, hc⟩
          rw [text_eq, if_neg hn, htext, List.cons_append]

theorem length_text_le {n k : Nat} (hn : n < 10 ^ (k + 1)) : (text n).length ≤ k + 1 := by
  induction k generalizing n with
  | zero =>
    have hten : n < 10 := hn
    rw [text_eq, if_pos hten]
    exact le_refl 1
  | succ k ih =>
    rw [text_eq, List.length_append, List.length_singleton]
    split_ifs
    · exact Nat.le_add_left _ _
    · have hdiv : n / 10 < 10 ^ (k + 1) := by
        rw [Nat.pow_succ] at hn
        omega
      exact Nat.succ_le_succ (ih hdiv)

theorem value_lt {l : List UInt8} (hl : ∀ c ∈ l, isDigit c = true) : value l < 10 ^ l.length := by
  induction l using List.reverseRecOn with
  | nil => exact Nat.one_pos
  | append_singleton l c ih =>
    have hlast := isDigit_iff.mp (hl c (by simp))
    have hrest := ih fun c hc => hl c (List.mem_append_left _ hc)
    rw [value_concat, List.length_append, List.length_singleton, Nat.pow_succ]
    omega

/-- Leading zeros only make it longer. -/
theorem length_text_value_le {l : List UInt8} (hl : ∀ c ∈ l, isDigit c = true) (hne : l ≠ []) :
    (text (value l)).length ≤ l.length := by
  obtain ⟨k, hk⟩ := Nat.exists_eq_add_one.mpr (List.length_pos_iff.mpr hne)
  have hlt := value_lt hl
  rw [hk] at hlt ⊢
  exact length_text_le hlt

/-! ## Signs -/

@[simp] theorem signed_natCast (n : Nat) : signed n = text n := by
  rw [signed, if_neg (by omega), Int.natAbs_natCast]

theorem signed_ne_nil (n : Int) : signed n ≠ [] := by
  unfold signed
  split_ifs
  · simp
  · exact text_ne_nil _

theorem length_signed_neg_le (n : Nat) : (signed (-n)).length ≤ (text n).length + 1 := by
  unfold signed
  split_ifs <;> simp

/-- The digits at the front of a text that something else follows. -/
theorem takeWhile_digits {l rest : List UInt8} (hl : ∀ c ∈ l, isDigit c = true)
    (hrest : ∀ c ∈ rest.head?, isDigit c = false) :
    (l ++ rest).takeWhile isDigit = l ∧ (l ++ rest).dropWhile isDigit = rest := by
  rw [List.takeWhile_append_of_pos hl, List.dropWhile_append_of_pos hl]
  cases rest with
  | nil => simp
  | cons c rest =>
    have hc : isDigit c = false := hrest c rfl
    simp [hc]

end Decimal
