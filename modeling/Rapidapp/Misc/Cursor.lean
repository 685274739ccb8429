import Mathlib.Data.List.Basic
import Mathlib.Data.List.Nodup

/-!
# A cursor in a table that changes

A walk over a table that is interrupted: between two parts of it, elements may appear and disappear
on both sides of the cursor. `passed` are the elements behind the cursor and `ahead` the one at it
and those that follow, each in the order of the table. `Round` is what there is to remember of a
round, and `Round.Ok` the invariant by which every element that stays is visited once.
-/

namespace Cursor

variable {α : Type*}

/-- A round of the walk: what was visited in it, and what was in the table when it began and was
not removed since. -/
structure Round (α : Type*) where
  visited : List α
  stayed : List α
  deriving DecidableEq

namespace Round

/-- At the start nothing was visited. -/
def new (table : List α) : Round α := ⟨[], table⟩

/-- The round after these visits, when this is what is left of the table. -/
def after [DecidableEq α] (r : Round α) (visits table : List α) : Round α :=
  ⟨r.visited ++ visits, r.stayed.filter (· ∈ table)⟩

/-- What holds in the middle of a round. -/
structure Ok (passed ahead : List α) (r : Round α) : Prop where
  once : r.visited.Nodup
  unvisited : ∀ x ∈ ahead, x ∉ r.visited
  seen : ∀ x ∈ r.stayed, x ∈ passed → x ∈ r.visited
  present : ∀ x ∈ r.stayed, x ∈ passed ∨ x ∈ ahead

/-- Two parts of a round in a table that only shrinks in the second. -/
theorem after_after [DecidableEq α] (r : Round α) (visits visits' : List α) {table table' : List α}
    (h : table' ⊆ table) :
    (r.after visits table).after visits' table' = r.after (visits ++ visits') table' := by
  unfold after
  rw [List.append_assoc, List.filter_filter]
  congr 1
  refine List.filter_congr fun x _ => ?_
  by_cases hx : x ∈ table'
  · simp [hx, h hx]
  · simp [hx]

variable {passed ahead passed' ahead' : List α} {r : Round α} {x : α}

theorem ok_new (table : List α) : Ok [] table (new table) where
  once := List.nodup_nil
  unvisited _ _ := List.not_mem_nil
  seen _ _ hx := absurd hx List.not_mem_nil
  present _ hx := .inr hx

/-- The table changes. What is new in it was not visited in this round and did not stay, and no
element has changed sides. -/
theorem Ok.change (h : r.Ok passed ahead) {stayed : List α} (hstayed : stayed ⊆ r.stayed)
    (hpassed : ∀ x ∈ passed', x ∈ passed ∨ x ∉ r.stayed)
    (hahead : ∀ x ∈ ahead', x ∈ ahead ∨ x ∉ r.visited)
    (hpresent : ∀ x ∈ stayed, x ∈ passed' ∨ x ∈ ahead') :
    Ok passed' ahead' ⟨r.visited, stayed⟩ where
  once := h.once
  unvisited x hx := by
    obtain hx | hx := hahead x hx
    · exact h.unvisited x hx
    · exact hx
  seen x hx hp := by
    obtain hp | hnew := hpassed x hp
    · exact h.seen x (hstayed hx) hp
    · exact absurd (hstayed hx) hnew
  present := hpresent

/-- The element at the cursor is visited, and the cursor moves on. -/
theorem Ok.visit (h : r.Ok passed (x :: ahead)) (hx : x ∉ ahead) :
    Ok (passed ++ [x]) ahead ⟨r.visited ++ [x], r.stayed⟩ where
  once := List.nodup_append.mpr ⟨h.once, List.nodup_singleton x, fun y hy z hz => by
    rintro rfl
    rw [List.mem_singleton.mp hz] at hy
    exact h.unvisited x List.mem_cons_self hy⟩
  unvisited y hy hvisited := by
    obtain hold | hnew := List.mem_append.mp hvisited
    · exact h.unvisited y (List.mem_cons_of_mem x hy) hold
    · exact hx (List.mem_singleton.mp hnew ▸ hy)
  seen y hy hp := by
    obtain hold | hnew := List.mem_append.mp hp
    · exact List.mem_append_left _ (h.seen y hy hold)
    · exact List.mem_append_right _ hnew
  present y hy := by
    obtain hp | ha := h.present y hy
    · exact .inl (List.mem_append_left _ hp)
    · obtain rfl | ha := List.mem_cons.mp ha
      · exact .inl (List.mem_append_right _ (List.mem_singleton_self y))
      · exact .inr ha

/-- The cursor is at the end: every element that stayed was visited, and once. -/
theorem Ok.count_eq_one [DecidableEq α] (h : r.Ok passed []) (hx : x ∈ r.stayed) :
    r.visited.count x = 1 := by
  obtain hp | ha := h.present x hx
  · exact List.count_eq_one_of_mem h.once (h.seen x hx hp)
  · exact absurd ha List.not_mem_nil

end Round

end Cursor
