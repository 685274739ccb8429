import Mathlib.Data.List.Infix
import Mathlib.Data.List.TakeWhile

/-!
# Loops over a vector

Two loops of the C++ library's `vector` in general: one that erases elements while it walks
over them with an iterator, and the binary search of `upper_bound`. An iterator is the list of
the elements from it on, `end()` the empty one; the elements before it play no part.
-/

namespace VectorOps

variable {α : Type*}

/-! ## Erasing in a loop -/

/-- `for (it = begin(); it != end(); ++it) if (p(*it)) erase(it);` with the elements it keeps and
those it erases. After `erase` the iterator stands at the next element, which `++it` skips; when
there is none `++it` leaves the vector and the loop has no defined behaviour. -/
def eraseLoop (p : α → Bool) : List α → Option (List α × List α)
  | [] => some ([], [])
  | x :: rest =>
    if p x then
      match rest with
      | [] => none
      | y :: rest => (eraseLoop p rest).map fun r => (y :: r.1, x :: r.2)
    else (eraseLoop p rest).map fun r => (x :: r.1, r.2)

theorem eraseLoop_skip {p : α → Bool} {x : α} (h : p x = false) (rest : List α) :
    eraseLoop p (x :: rest) = (eraseLoop p rest).map fun r => (x :: r.1, r.2) := by
  rw [eraseLoop.eq_def]
  simp [h]

theorem eraseLoop_hit {p : α → Bool} {x : α} (h : p x = true) (y : α) (rest : List α) :
    eraseLoop p (x :: y :: rest) = (eraseLoop p rest).map fun r => (y :: r.1, x :: r.2) := by
  rw [eraseLoop.eq_def]
  simp [h]

/-- The loop passes over what it does not look for. -/
theorem eraseLoop_append {p : α → Bool} {before : List α} (h : ∀ x ∈ before, p x = false)
    (rest : List α) :
    eraseLoop p (before ++ rest) = (eraseLoop p rest).map fun r => (before ++ r.1, r.2) := by
  induction before with
  | nil => simp
  | cons x xs ih =>
    have hx : p x = false := h x List.mem_cons_self
    have hxs : ∀ y ∈ xs, p y = false := fun y hy => h y (List.mem_cons_of_mem x hy)
    rw [List.cons_append, eraseLoop_skip hx, ih hxs, Option.map_map]
    rfl

/-- Without such an element the loop erases nothing. -/
theorem eraseLoop_of_forall {p : α → Bool} {xs : List α} (h : ∀ x ∈ xs, p x = false) :
    eraseLoop p xs = some (xs, []) := by
  have happend := eraseLoop_append h []
  simpa [eraseLoop] using happend

/-- The only such element is erased where another one follows it. -/
theorem eraseLoop_only {p : α → Bool} {before after : List α} {x y : α}
    (hbefore : ∀ z ∈ before, p z = false) (hx : p x = true)
    (hafter : ∀ z ∈ y :: after, p z = false) :
    eraseLoop p (before ++ x :: y :: after) = some (before ++ y :: after, [x]) := by
  have hrest : eraseLoop p after = some (after, []) :=
    eraseLoop_of_forall fun z hz => hafter z (List.mem_cons_of_mem y hz)
  rw [eraseLoop_append hbefore, eraseLoop_hit hx]
  simp [hrest]

/-- Where it stands at the end, the loop runs out of the vector. -/
theorem eraseLoop_last {p : α → Bool} {before : List α} {x : α}
    (hbefore : ∀ z ∈ before, p z = false) (hx : p x = true) :
    eraseLoop p (before ++ [x]) = none := by
  rw [eraseLoop_append hbefore]
  simp [eraseLoop, hx]

/-- What the loop keeps is in the order it was in. -/
theorem eraseLoop_sublist {p : α → Bool} {xs : List α} {r : List α × List α}
    (h : eraseLoop p xs = some r) : r.1.Sublist xs := by
  fun_induction eraseLoop p xs generalizing r with
  | case1 => cases h; exact List.Sublist.refl _
  | case2 x hx => cases h
  | case3 x hx y rest ih =>
    obtain ⟨r', hr', rfl⟩ := Option.map_eq_some_iff.mp h
    exact ((ih hr').cons_cons y).cons x
  | case4 x rest hx ih =>
    obtain ⟨r', hr', rfl⟩ := Option.map_eq_some_iff.mp h
    exact (ih hr').cons_cons x

/-! ## Searching -/

/-- The loop of `upper_bound` over the `len` elements from `first` on; `before x` is the
comparison of the value with the element `x`. -/
def upperBoundLoop (before : α → Bool) (xs : List α) (first len : Nat) : Nat :=
  if len = 0 then first
  else
    let half := len / 2
    let middle := first + half
    if (xs[middle]?).any before then upperBoundLoop before xs first half
    else upperBoundLoop before xs (middle + 1) (len - half - 1)
  termination_by len
  decreasing_by all_goals omega

/-- `upper_bound`: the index of the first element the value comes before. -/
def upperBound (before : α → Bool) (xs : List α) : Nat := upperBoundLoop before xs 0 xs.length

/-- The elements the value comes before stand behind all the others. -/
def Partitioned (before : α → Bool) (xs : List α) : Prop :=
  xs.Pairwise fun a b => before a = true → before b = true

theorem Partitioned.getElem {before : α → Bool} {xs : List α} (h : Partitioned before xs)
    {i j : Nat} {a b : α} (hij : i ≤ j) (ha : xs[i]? = some a) (hb : xs[j]? = some b)
    (hbefore : before a = true) : before b = true := by
  obtain ⟨hi, rfl⟩ := List.getElem?_eq_some_iff.mp ha
  obtain ⟨hj, rfl⟩ := List.getElem?_eq_some_iff.mp hb
  rcases Nat.lt_or_eq_of_le hij with hlt | rfl
  · exact List.pairwise_iff_getElem.mp h i j hi hj hlt hbefore
  · exact hbefore

/-- The loop keeps that the value comes before no element left of the range, and before each
right of it. -/
theorem upperBoundLoop_spec {before : α → Bool} {xs : List α} (h : Partitioned before xs)
    (first len : Nat) (hlen : first + len ≤ xs.length)
    (hleft : ∀ i a, i < first → xs[i]? = some a → before a = false)
    (hright : ∀ i a, first + len ≤ i → xs[i]? = some a → before a = true) :
    upperBoundLoop before xs first len ≤ xs.length ∧
      (∀ i a, i < upperBoundLoop before xs first len → xs[i]? = some a → before a = false) ∧
      ∀ i a, upperBoundLoop before xs first len ≤ i → xs[i]? = some a → before a = true := by
  fun_induction upperBoundLoop before xs first len with
  | case1 first => exact ⟨hlen, hleft, hright⟩
  | case2 first len hne half middle hmid ih =>
    obtain ⟨m, hm, hbefore⟩ : ∃ m, xs[middle]? = some m ∧ before m = true := by
      cases hm : xs[middle]? with
      | none => simp [hm] at hmid
      | some m => exact ⟨m, rfl, by simpa [hm] using hmid⟩
    apply ih
    · omega
    · exact hleft
    · intro i a hi ha
      exact h.getElem hi hm ha hbefore
  | case3 first len hne half middle hmid ih =>
    have hlt : middle < xs.length := by omega
    have hafter : before xs[middle] = false := by simpa [hlt] using hmid
    apply ih
    · omega
    · intro i a hi ha
      by_contra hbefore
      have hmiddle : before xs[middle] = true :=
        h.getElem (by omega) ha (List.getElem?_eq_getElem hlt) (by simpa using hbefore)
      rw [hafter] at hmiddle
      cases hmiddle
    · intro i a hi ha
      exact hright i a (by omega) ha

/-- On a partitioned vector the search finds the border. -/
theorem upperBound_eq {before : α → Bool} {left right : List α}
    (hleft : ∀ x ∈ left, before x = false) (hright : ∀ x ∈ right, before x = true) :
    upperBound before (left ++ right) = left.length := by
  have hpart : Partitioned before (left ++ right) := by
    refine List.pairwise_append.mpr ⟨?_, ?_, ?_⟩
    · refine List.pairwise_of_forall_mem_list fun a ha b _ hbefore => ?_
      rw [hleft a ha] at hbefore
      cases hbefore
    · exact List.pairwise_of_forall_mem_list fun a _ b hb _ => hright b hb
    · exact fun a _ b hb _ => hright b hb
  have hend : ∀ i a, 0 + (left ++ right).length ≤ i → (left ++ right)[i]? = some a →
      before a = true := by
    intro i a hi ha
    rw [Nat.zero_add] at hi
    rw [List.getElem?_eq_none hi] at ha
    cases ha
  obtain ⟨hle, hbelow, habove⟩ := upperBoundLoop_spec hpart 0 (left ++ right).length (by simp)
    (fun i a hi => absurd hi (Nat.not_lt_zero i)) hend
  change upperBound before (left ++ right) ≤ _ at hle
  change ∀ i a, i < upperBound before (left ++ right) → _ at hbelow
  change ∀ i a, upperBound before (left ++ right) ≤ i → _ at habove
  rw [List.length_append] at hle
  rcases Nat.lt_trichotomy (upperBound before (left ++ right)) left.length with hlt | heq | hgt
  · have hget : (left ++ right)[upperBound before (left ++ right)]? =
        some left[upperBound before (left ++ right)] := by
      rw [List.getElem?_append_left hlt, List.getElem?_eq_getElem hlt]
    have hbefore := habove _ _ le_rfl hget
    rw [hleft _ (List.getElem_mem hlt)] at hbefore
    cases hbefore
  · exact heq
  · have hright0 : 0 < right.length := by omega
    have hget : (left ++ right)[left.length]? = some right[0] := by
      rw [List.getElem?_append_right le_rfl, Nat.sub_self, List.getElem?_eq_getElem hright0]
    have hbefore := hbelow _ _ hgt hget
    rw [hright _ (List.getElem_mem hright0)] at hbefore
    cases hbefore

end VectorOps
