import Mathlib.Data.List.Infix
import Mathlib.Data.List.TakeWhile

/-!
# The words of a list

A list is cut into words by a separator: its words are the longest runs without the separator.
Leading, repeated and trailing separators make no word.
-/

namespace Words

variable {α : Type*} [DecidableEq α] {sep : α}

/-- The words of a list, in order. -/
def words (sep : α) (l : List α) : List (List α) := (l.splitOn sep).filter (· ≠ [])

@[simp] theorem words_nil : words sep [] = [] := by
  simp [words]

@[simp] theorem words_cons_sep (l : List α) : words sep (sep :: l) = words sep l := by
  have h := List.splitOn_append_cons_self_of_not_mem (List.not_mem_nil (a := sep)) l
  rw [List.nil_append] at h
  simp [words, h]

theorem words_of_notMem {w : List α} (hsep : sep ∉ w) (hw : w ≠ []) : words sep w = [w] := by
  simp [words, List.splitOn_eq_singleton hsep, hw]

theorem words_append_sep {w : List α} (hsep : sep ∉ w) (hw : w ≠ []) (l : List α) :
    words sep (w ++ sep :: l) = w :: words sep l := by
  simp [words, List.splitOn_append_cons_self_of_not_mem hsep, hw]

theorem ne_nil_of_words_cons {l w : List α} {ws : List (List α)} (h : words sep l = w :: ws) :
    w ≠ [] := by
  have hmem : w ∈ words sep l := by
    rw [h]
    exact List.mem_cons_self
  simpa using (List.mem_filter.mp hmem).2

/-- How a list starts: there is nothing, a separator, or a word that goes on to the end or to a
separator. -/
inductive Start (sep : α) : List α → Prop
  | nil : Start sep []
  | sep (l : List α) : Start sep (sep :: l)
  | last (w : List α) : sep ∉ w → w ≠ [] → Start sep w
  | word (w l : List α) : sep ∉ w → w ≠ [] → Start sep (w ++ sep :: l)

theorem start (sep : α) (l : List α) : Start sep l := by
  induction l with
  | nil => exact .nil
  | cons c l ih =>
    by_cases hc : c = sep
    · subst hc
      exact .sep l
    · have hmem : ∀ w : List α, sep ∉ w → sep ∉ c :: w := fun w hw hmem =>
        (List.mem_cons.mp hmem).elim (fun heq => hc heq.symm) hw
      cases ih with
      | nil => exact .last [c] (hmem [] List.not_mem_nil) (List.cons_ne_nil _ _)
      | sep l => exact .word [c] l (hmem [] List.not_mem_nil) (List.cons_ne_nil _ _)
      | last w hw _ => exact .last (c :: l) (hmem l hw) (List.cons_ne_nil _ _)
      | word w l hw _ => exact .word (c :: w) l (hmem w hw) (List.cons_ne_nil _ _)

/-- A list that starts with a word: what follows the first element is the rest of the word, to the
end or to a separator. -/
theorem words_cons_of_ne {c : α} (hc : c ≠ sep) (l : List α) :
    ∃ w ws, words sep (c :: l) = (c :: w) :: ws ∧ (l = w ∨ ∃ l', l = w ++ sep :: l') := by
  have hstart := start sep (c :: l)
  generalize hl : c :: l = l' at hstart
  cases hstart with
  | nil => cases hl
  | sep l' => exact absurd (List.cons.inj hl).1 hc
  | last w hsep hw =>
    subst hl
    exact ⟨l, [], words_of_notMem hsep hw, .inl rfl⟩
  | word w l' hsep hw =>
    obtain ⟨x, w, rfl⟩ := List.exists_cons_of_ne_nil hw
    obtain ⟨rfl, htail⟩ := List.cons.inj hl
    refine ⟨w, words sep l', ?_, .inr ⟨l', htail⟩⟩
    exact words_append_sep hsep hw l'

/-- The first word has no separator in it. -/
theorem notMem_of_words_cons {l w : List α} {ws : List (List α)} (h : words sep l = w :: ws) :
    sep ∉ w := by
  induction l with
  | nil => simp at h
  | cons c l ih =>
    have hstart := start sep (c :: l)
    generalize hl : c :: l = l' at hstart h
    cases hstart with
    | nil => cases hl
    | sep l' =>
      obtain ⟨rfl, rfl⟩ := List.cons.inj hl
      exact ih (by simpa using h)
    | last w' hw hne =>
      rw [words_of_notMem hw hne] at h
      exact (List.cons.inj h).1 ▸ hw
    | word w' l' hw hne =>
      rw [words_append_sep hw hne] at h
      exact (List.cons.inj h).1 ▸ hw

end Words
