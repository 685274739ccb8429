import Mathlib.Algebra.Order.Floor.Div
import Mathlib.Data.Int.CardIntervalMod
import Mathlib.GroupTheory.GroupAction.Ring

/-!
# Turns

A cursor goes round over `n` entries. Each use first wraps a cursor that has run past the
entries, takes the place it then stands on, and leaves it one further. `Uses n pos places pos'`
says that a cursor at `pos` takes these places one after the other and ends at `pos'`; who
uses it plays no part. From the first entry on it takes `0, 1, …, n - 1, 0, …`, so after `k`
uses every entry was taken `⌊k / n⌋` or `⌈k / n⌉` times.
-/

namespace Turns

/-- The place a cursor at `pos` takes. -/
def place (n pos : Nat) : Nat := if n ≤ pos then 0 else pos

/-- The uses of one cursor over `n` entries. -/
inductive Uses (n : Nat) : Nat → List Nat → Nat → Prop
  | nil (pos : Nat) : Uses n pos [] pos
  | cons {pos : Nat} {places : List Nat} {pos' : Nat} :
      Uses n (place n pos + 1) places pos' → Uses n pos (place n pos :: places) pos'

variable {n pos pos' pos'' : Nat} {places places' : List Nat}

theorem place_lt (hn : 0 < n) (pos : Nat) : place n pos < n := by
  unfold place
  split_ifs <;> omega

/-- The cursor is never further than one past the last entry. -/
theorem place_eq_mod (hpos : pos ≤ n) : place n pos = pos % n := by
  unfold place
  split_ifs with hle
  · rw [le_antisymm hpos hle, Nat.mod_self]
  · rw [Nat.mod_eq_of_lt (not_le.mp hle)]

theorem Uses.once (n pos : Nat) : Uses n pos [place n pos] (place n pos + 1) :=
  .cons (.nil _)

theorem Uses.append (h : Uses n pos places pos') (h' : Uses n pos' places' pos'') :
    Uses n pos (places ++ places') pos'' := by
  induction h with
  | nil => exact h'
  | cons _ ih => exact .cons (ih h')

theorem Uses.lt (hn : 0 < n) (h : Uses n pos places pos') : ∀ i ∈ places, i < n := by
  induction h with
  | nil => simp
  | cons _ ih =>
    intro i hi
    obtain rfl | hi := List.mem_cons.mp hi
    · exact place_lt hn _
    · exact ih i hi

/-- The places a cursor takes are the numbers from where it stands on, mod `n`. -/
theorem Uses.eq_map (hn : 0 < n) (h : Uses n pos places pos') (hpos : pos ≤ n) :
    places = (List.range places.length).map fun i => (pos + i) % n := by
  induction h with
  | nil => rfl
  | @cons pos places pos' _ ih =>
    have hplace : place n pos = pos % n := place_eq_mod hpos
    have hrest := ih (place_lt hn pos)
    rw [List.length_cons, List.range_succ_eq_map, List.map_cons, List.map_map, Nat.add_zero,
      hplace]
    congr 1
    rw [hrest, List.length_map, List.length_range]
    apply List.map_congr_left
    intro i _
    show (place n pos + 1 + i) % n = (pos + (i + 1)) % n
    rw [hplace, Nat.add_assoc, Nat.mod_add_mod, Nat.add_comm 1 i]

/-- In rounds that start with the first entry, the first `k % n` entries are one turn ahead. -/
theorem count_range_mod {j : Nat} (hn : 0 < n) (hj : j < n) (k : Nat) :
    ((List.range k).map (· % n)).count j = k / n + if j < k % n then 1 else 0 := by
  have hcount : ((List.range k).map (· % n)).count j = k.count (· ≡ j [MOD n]) := by
    rw [List.count, List.countP_map, Nat.count]
    apply List.countP_congr
    intro i _
    simp [Nat.ModEq, Nat.mod_eq_of_lt hj]
  rw [hcount, Nat.count_modEq_card k hn, Nat.mod_eq_of_lt hj]

theorem ceilDiv_eq_of_pos_mod (hn : 0 < n) {k : Nat} (hk : 0 < k % n) : k ⌈/⌉ n = k / n + 1 := by
  have hdiv : n * (k / n) + k % n = k := Nat.div_add_mod k n
  have hlt : k % n < n := Nat.mod_lt k hn
  have hsum : k + n - 1 = (k % n - 1) + n * (k / n + 1) := by
    rw [Nat.mul_succ]
    omega
  rw [Nat.ceilDiv_eq_add_pred_div, hsum, Nat.add_mul_div_left _ _ hn,
    Nat.div_eq_of_lt (by omega), Nat.zero_add]

/-- The uses are shared out evenly at any time. -/
theorem Uses.count_take {j k : Nat} (hn : 0 < n) (h : Uses n 0 places pos') (hj : j < n)
    (hk : k ≤ places.length) :
    (places.take k).count j = k / n ∨ (places.take k).count j = k ⌈/⌉ n := by
  have hplaces : places.take k = (List.range k).map (· % n) := by
    rw [h.eq_map hn (Nat.zero_le n), ← List.map_take, List.take_range, Nat.min_eq_left hk]
    simp only [Nat.zero_add]
  rw [hplaces, count_range_mod hn hj]
  split_ifs with hlt
  · exact .inr (ceilDiv_eq_of_pos_mod hn (Nat.zero_lt_of_lt hlt)).symm
  · exact .inl rfl

end Turns
