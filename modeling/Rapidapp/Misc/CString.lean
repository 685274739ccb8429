import Rapidapp.Misc.CInt
import Rapidapp.Misc.Decimal

/-!
# Functions of `string.h` and `stdlib.h`

A C string is the list of its bytes without the terminator. A pointer into a string is given as
the rest of the string from there.
-/

namespace CString

/-- `strchr`: the rest from the first `c` on. -/
def strchr : List UInt8 → UInt8 → Option (List UInt8)
  | [], _ => none
  | d :: s, c => if d = c then some (d :: s) else strchr s c

/-- `strstr`: the rest from the first place on where `pat` stands. -/
def strstr : List UInt8 → List UInt8 → Option (List UInt8)
  | [], pat => if pat = [] then some [] else none
  | c :: s, pat => if pat <+: c :: s then some (c :: s) else strstr s pat

/-- Whether `strncmp` finds no difference in the first `n` bytes, terminators included. -/
def strncmpEq (s t : List UInt8) (n : Nat) : Bool := (s ++ [0]).take n = (t ++ [0]).take n

/-- `isspace` in the C locale. -/
def isSpace (c : UInt8) : Bool := c = 32 || (9 ≤ c && c ≤ 13)

/-- `strtol` for the base 10: the number at the front, as near to it as a `long` comes. -/
def strtol (s : List UInt8) : Int :=
  match s.dropWhile isSpace with
  | [] => 0
  | c :: s =>
    if c = 45 then max (-2 ^ 63) (-(Decimal.value (s.takeWhile Decimal.isDigit) : Int))
    else
      let digits := if c = 43 then s else c :: s
      min (2 ^ 63 - 1) (Decimal.value (digits.takeWhile Decimal.isDigit) : Int)

/-- `atoi`. -/
def atoi (s : List UInt8) : Int := CInt.int32 (strtol s)

variable {s l r pat : List UInt8} {c : UInt8}

theorem strchr_eq_none (h : c ∉ s) : strchr s c = none := by
  induction s with
  | nil => rfl
  | cons d s ih =>
    obtain ⟨hd, hs⟩ := not_or.mp (List.mem_cons.not.mp h)
    rw [strchr, if_neg (Ne.symm hd), ih hs]

theorem strchr_append (h : c ∉ l) (r : List UInt8) : strchr (l ++ c :: r) c = some (c :: r) := by
  induction l with
  | nil => rw [List.nil_append, strchr, if_pos rfl]
  | cons d l ih =>
    obtain ⟨hd, hl⟩ := not_or.mp (List.mem_cons.not.mp h)
    rw [List.cons_append, strchr, if_neg (Ne.symm hd), ih hl]

/-- What `strchr` finds, and what it has gone over. -/
theorem strchr_cases (s : List UInt8) (c : UInt8) :
    c ∉ s ∧ strchr s c = none ∨ ∃ l r, s = l ++ c :: r ∧ c ∉ l ∧ strchr s c = some (c :: r) := by
  by_cases h : c ∈ s
  · right
    obtain ⟨l, r, rfl, hl⟩ := List.eq_append_cons_of_mem h
    exact ⟨l, r, rfl, hl, strchr_append hl r⟩
  · exact .inl ⟨h, strchr_eq_none h⟩

/-- A string without one of the bytes of `pat`. -/
theorem strstr_eq_none (hc : c ∈ pat) (h : c ∉ s) : strstr s pat = none := by
  induction s with
  | nil => rw [strstr, if_neg (List.ne_nil_of_mem hc)]
  | cons d s ih =>
    have hnot : ¬ pat <+: d :: s := fun hpat => h (hpat.subset hc)
    rw [strstr, if_neg hnot, ih fun hs => h (List.mem_cons_of_mem d hs)]

/-- A number whose text ends before something that is no digit. -/
theorem atoi_digits (hl : l ≠ []) (hdigits : ∀ d ∈ l, Decimal.isDigit d = true)
    (hr : ∀ d ∈ r.head?, Decimal.isDigit d = false) (hvalue : Decimal.value l < 2 ^ 31) :
    atoi (l ++ r) = Decimal.value l := by
  obtain ⟨d, l, rfl⟩ := List.exists_cons_of_ne_nil hl
  have hd := Decimal.isDigit_iff.mp (hdigits d List.mem_cons_self)
  have hne : ∀ e : UInt8, e.toNat < 48 → d ≠ e := by
    intro e he heq
    rw [heq] at hd
    omega
  have hspace : isSpace d = false := by
    rw [isSpace, Bool.or_eq_false_iff, decide_eq_false_iff_not, Bool.and_eq_false_iff,
      decide_eq_false_iff_not, decide_eq_false_iff_not]
    refine ⟨hne 32 (by decide), .inr fun hle => ?_⟩
    have hnat : d.toNat ≤ 13 := UInt8.le_iff_toNat_le.mp hle
    omega
  have htake := (Decimal.takeWhile_digits hdigits hr).1
  rw [List.cons_append] at htake
  have hstrtol : strtol (d :: l ++ r) = min (2 ^ 63 - 1) (Decimal.value (d :: l) : Int) := by
    rw [strtol, List.cons_append, List.dropWhile_cons_of_neg (by simp [hspace])]
    dsimp only
    rw [if_neg (hne 45 (by decide)), if_neg (hne 43 (by decide)), htake]
  rw [atoi, hstrtol, min_eq_right (by omega), CInt.int32_of_range (by omega) (by omega)]

end CString
