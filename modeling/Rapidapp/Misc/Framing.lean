import Mathlib.Data.List.Basic
import Mathlib.Algebra.BigOperators.Group.List.Basic
import Mathlib.Algebra.Ring.Nat

/-!
# Self-delimiting frames in a buffer

A decoder looks at the head of a buffer and either finds a complete frame there, and says
how long it is, or does not (yet). `cuts` are the lengths of the frames that stand one
after the other at the head of a buffer. The main result, `cuts_of_prefix`, is what makes
a decoder usable on a byte stream that arrives in pieces: when the buffer is any prefix of
a concatenation of frames, however it was cut, `cuts` finds a prefix of these frames and
leaves nothing complete behind.
-/

namespace Framing

/-- A decoder of the head of a buffer: `next buf = some n` when `buf` begins with a complete
frame, of `n` symbols. -/
structure Decoder (α : Type*) where
  next : List α → Option Nat
  next_pos : ∀ {buf n}, next buf = some n → 0 < n
  next_le : ∀ {buf n}, next buf = some n → n ≤ buf.length

namespace Decoder

variable {α : Type*} (d : Decoder α)

/-- The lengths of the complete frames at the head of the buffer, in order. -/
def cuts (buf : List α) : List Nat :=
  match _h : d.next buf with
  | none => []
  | some n => n :: cuts (buf.drop n)
termination_by buf.length
decreasing_by
  have := d.next_pos _h
  have := d.next_le _h
  simp only [List.length_drop]
  omega

variable {d}

theorem next_nil : d.next [] = none := by
  cases h : d.next [] with
  | none => rfl
  | some n =>
    have := d.next_pos h
    have := d.next_le h
    simp only [List.length_nil] at this
    omega

theorem cuts_of_none {buf : List α} (h : d.next buf = none) : d.cuts buf = [] := by
  rw [cuts]; split <;> simp_all

theorem cuts_of_some {buf : List α} {n : Nat} (h : d.next buf = some n) :
    d.cuts buf = n :: d.cuts (buf.drop n) := by
  rw [cuts]; split <;> simp_all

/-- Case analysis along `cuts`: the head holds no frame, or one frame and then the rest. -/
theorem cuts_induction {motive : List α → Prop}
    (none : ∀ buf, d.next buf = none → motive buf)
    (some : ∀ buf n, d.next buf = some n → motive (buf.drop n) → motive buf)
    (buf : List α) : motive buf := by
  induction buf using cuts.induct d with
  | case1 buf h => exact none buf h
  | case2 buf n h ih => exact some buf n h ih

theorem sum_cuts_le (buf : List α) : (d.cuts buf).sum ≤ buf.length := by
  induction buf using cuts_induction (d := d) with
  | none buf h => rw [cuts_of_none h]; simp
  | some buf n h ih =>
    have := d.next_le h
    rw [cuts_of_some h, List.sum_cons]
    rw [List.length_drop] at ih
    omega

variable (d) in
/-- `w` is one frame of the decoder: it is found whole whatever follows it, and nothing is
found in a proper prefix of it. -/
structure IsFrame (w : List α) : Prop where
  complete : ∀ t, d.next (w ++ t) = some w.length
  pending : ∀ p, p <+: w → p ≠ w → d.next p = none

/-- Of a frame that stands first, the decoder finds all or nothing. -/
theorem IsFrame.next_head {w t buf : List α} (hw : d.IsFrame w) (hbuf : buf <+: w ++ t) :
    d.next buf = if w.length ≤ buf.length then some w.length else none := by
  by_cases hlen : w.length ≤ buf.length
  · rw [if_pos hlen]
    obtain ⟨u, rfl⟩ := List.prefix_of_prefix_length_le (List.prefix_append w _) hbuf hlen
    exact hw.complete u
  · rw [if_neg hlen]
    have hprefix : buf <+: w :=
      List.prefix_of_prefix_length_le hbuf (List.prefix_append w _) (by omega)
    exact hw.pending buf hprefix fun heq => hlen (by rw [heq])

/-- The frames found in a prefix of a concatenation of frames are a prefix of these frames. -/
theorem cuts_of_prefix {ws : List (List α)} (hws : ∀ w ∈ ws, d.IsFrame w) {buf : List α}
    (hbuf : buf <+: ws.flatten) :
    ∃ us vs, ws = us ++ vs ∧ d.cuts buf = us.map List.length ∧ us.flatten <+: buf := by
  induction ws generalizing buf with
  | nil =>
    have hb : buf = [] := by simpa using hbuf
    exact ⟨[], [], rfl, by rw [hb, cuts_of_none next_nil]; rfl, by simp⟩
  | cons w ws ih =>
    have hw := hws w (by simp)
    rw [List.flatten_cons] at hbuf
    by_cases hlen : w.length ≤ buf.length
    · -- the first frame has arrived whole
      obtain ⟨t, rfl⟩ := List.prefix_of_prefix_length_le (List.prefix_append w _) hbuf hlen
      have ht : t <+: ws.flatten := (List.prefix_append_right_inj w).mp hbuf
      obtain ⟨us, vs, hsplit, hcuts, hus⟩ := ih (fun x hx => hws x (by simp [hx])) ht
      refine ⟨w :: us, vs, by rw [hsplit]; rfl, ?_, ?_⟩
      · rw [cuts_of_some (hw.complete t), List.drop_left, hcuts]; rfl
      · rw [List.flatten_cons]; exact (List.prefix_append_right_inj w).mpr hus
    · have hb : buf <+: w :=
        List.prefix_of_prefix_length_le hbuf (List.prefix_append w _) (by omega)
      have hne : buf ≠ w := fun h => hlen (by simp [h])
      exact ⟨[], w :: ws, rfl, by rw [cuts_of_none (hw.pending buf hb hne)]; rfl, by simp⟩

/-! ## The frames themselves, and a stream that arrives in pieces -/

variable (d) in
/-- The complete frames at the head of the buffer, and what is left behind them. -/
def split (buf : List α) : List (List α) × List α :=
  match _h : d.next buf with
  | none => ([], buf)
  | some n => (buf.take n :: (split (buf.drop n)).1, (split (buf.drop n)).2)
termination_by buf.length
decreasing_by
  all_goals
    have := d.next_pos _h
    have := d.next_le _h
    simp only [List.length_drop]
    omega

theorem split_of_none {buf : List α} (h : d.next buf = none) : d.split buf = ([], buf) := by
  rw [split]; split <;> simp_all

theorem split_of_some {buf : List α} {n : Nat} (h : d.next buf = some n) :
    d.split buf = (buf.take n :: (d.split (buf.drop n)).1, (d.split (buf.drop n)).2) := by
  rw [split]; split <;> simp_all

/-- Nothing is lost. -/
theorem flatten_split (buf : List α) : (d.split buf).1.flatten ++ (d.split buf).2 = buf := by
  induction buf using cuts_induction (d := d) with
  | none buf h => rw [split_of_none h]; rfl
  | some buf n h ih =>
    rw [split_of_some h, List.flatten_cons, List.append_assoc, ih, List.take_append_drop]

theorem length_rest_le (buf : List α) : (d.split buf).2.length ≤ buf.length := by
  have hlength := congrArg List.length (flatten_split (d := d) buf)
  rw [List.length_append] at hlength
  omega

variable (d) in
/-- What the decoder has found at the head of a buffer it still finds when more has come. -/
def Stable : Prop := ∀ {buf n}, d.next buf = some n → ∀ t, d.next (buf ++ t) = some n

/-- The frames of a buffer stand at the head of any longer one; the decoder goes on behind them. -/
theorem split_append (hd : d.Stable) (buf t : List α) :
    d.split (buf ++ t) = ((d.split buf).1 ++ (d.split ((d.split buf).2 ++ t)).1,
      (d.split ((d.split buf).2 ++ t)).2) := by
  induction buf using cuts_induction (d := d) with
  | none buf h => rw [split_of_none h]; rfl
  | some buf n h ih =>
    have hle := d.next_le h
    rw [split_of_some (hd h t), split_of_some h, List.drop_append_of_le_length hle,
      List.take_append_of_le_length hle, ih]
    rfl

/-- Frames that are found whole as long as something follows them. -/
theorem split_frames {ws : List (List α)} (hws : ∀ w ∈ ws, ∀ t, t ≠ [] →
    d.next (w ++ t) = some w.length) {t : List α} (ht : t ≠ []) :
    d.split (ws.flatten ++ t) = (ws ++ (d.split t).1, (d.split t).2) := by
  induction ws with
  | nil => rfl
  | cons w ws ih =>
    have hrest : ws.flatten ++ t ≠ [] := List.append_ne_nil_of_right_ne_nil _ ht
    have hw := hws w List.mem_cons_self (ws.flatten ++ t) hrest
    rw [List.flatten_cons, List.append_assoc, split_of_some hw, List.drop_left, List.take_left,
      ih fun w hw => hws w (List.mem_cons_of_mem _ hw)]
    rfl

end Decoder

end Framing
