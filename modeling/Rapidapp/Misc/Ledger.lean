import Mathlib.Data.List.Basic
import Mathlib.Data.List.Nodup

/-!
# Ledgers of open items

A ledger is a list of items. Each item has a number of its own and an owner. Items are looked up
by their number or listed by owner; one item is settled, or an owner's items are all closed.
-/

namespace Ledger

variable {α ι κ : Type*}

section Number

variable [DecidableEq ι] (id : α → ι)

/-- The item with this number. -/
def find (l : List α) (i : ι) : Option α := l.find? fun a => id a = i

/-- The item with this number is taken out. -/
def settle (l : List α) (i : ι) : List α := l.filter fun a => id a ≠ i

variable {id}

theorem find_eq_none_iff {l : List α} {i : ι} : find id l i = none ↔ ∀ a ∈ l, id a ≠ i := by
  unfold find
  rw [List.find?_eq_none]
  simp only [decide_eq_true_eq, ne_eq]

theorem mem_of_find {l : List α} {i : ι} {a : α} (h : find id l i = some a) :
    a ∈ l ∧ id a = i :=
  ⟨List.mem_of_find?_eq_some h, by simpa using List.find?_some h⟩

/-- Numbers tell the items apart. -/
theorem find_of_mem {l : List α} (hl : (l.map id).Nodup) {a : α} (ha : a ∈ l) :
    find id l (id a) = some a := by
  cases h : find id l (id a) with
  | none => exact absurd rfl (find_eq_none_iff.mp h a ha)
  | some b =>
    obtain ⟨hb, hid⟩ := mem_of_find h
    rw [List.inj_on_of_nodup_map hl hb ha hid]

theorem find_append_self {l : List α} {a : α} (h : ∀ b ∈ l, id b ≠ id a) :
    find id (l ++ [a]) (id a) = some a := by
  have hnone : find id l (id a) = none := find_eq_none_iff.mpr h
  unfold find at hnone ⊢
  rw [List.find?_append, hnone]
  simp

theorem find_append_ne (l : List α) {a : α} {i : ι} (h : i ≠ id a) :
    find id (l ++ [a]) i = find id l i := by
  unfold find
  rw [List.find?_append]
  simp [Ne.symm h]

theorem find_settle_self (l : List α) (i : ι) : find id (settle id l i) i = none := by
  refine find_eq_none_iff.mpr fun a ha => ?_
  exact of_decide_eq_true (List.mem_filter.mp ha).2

theorem find_settle_ne (l : List α) {i j : ι} (h : j ≠ i) :
    find id (settle id l i) j = find id l j := by
  unfold find settle
  rw [List.find?_filter]
  congr 1
  funext a
  by_cases ha : id a = j
  · simp [ha, h]
  · simp [ha]

end Number

section Owner

variable [DecidableEq κ] (owner : α → κ)

/-- The items of an owner. -/
def ofOwner (l : List α) (k : κ) : List α := l.filter fun a => owner a = k

/-- The items of an owner are all taken out. -/
def close (l : List α) (k : κ) : List α := l.filter fun a => owner a ≠ k

variable {owner}

theorem mem_ofOwner {l : List α} {k : κ} {a : α} :
    a ∈ ofOwner owner l k ↔ a ∈ l ∧ owner a = k := by
  unfold ofOwner
  rw [List.mem_filter, decide_eq_true_eq]

theorem mem_close {l : List α} {k : κ} {a : α} :
    a ∈ close owner l k ↔ a ∈ l ∧ owner a ≠ k := by
  unfold close
  rw [List.mem_filter, decide_eq_true_eq]

theorem ofOwner_append_self (l : List α) (a : α) :
    ofOwner owner (l ++ [a]) (owner a) = ofOwner owner l (owner a) ++ [a] := by
  simp [ofOwner]

theorem ofOwner_append_ne (l : List α) {a : α} {k : κ} (h : k ≠ owner a) :
    ofOwner owner (l ++ [a]) k = ofOwner owner l k := by
  simp [ofOwner, Ne.symm h]

theorem ofOwner_close_ne (l : List α) {k j : κ} (h : j ≠ k) :
    ofOwner owner (close owner l k) j = ofOwner owner l j := by
  unfold ofOwner close
  rw [List.filter_filter]
  refine List.filter_congr fun a _ => ?_
  by_cases ha : owner a = j
  · simp [ha, h]
  · simp [ha]

end Owner

section Both

variable [DecidableEq ι] [DecidableEq κ] {id : α → ι} {owner : α → κ}

theorem ofOwner_settle (l : List α) (i : ι) (k : κ) :
    ofOwner owner (settle id l i) k = settle id (ofOwner owner l k) i := by
  unfold ofOwner settle
  rw [List.filter_filter, List.filter_filter]
  exact List.filter_congr fun a _ => Bool.and_comm _ _

/-- Settling an item of another owner does not show. -/
theorem settle_of_forall_ne {l : List α} {i : ι} (h : ∀ a ∈ l, id a ≠ i) : settle id l i = l := by
  refine List.filter_eq_self.mpr fun a ha => ?_
  exact decide_eq_true (h a ha)

/-- An item stays findable after the closing of another owner's items. -/
theorem find_close {l : List α} (hl : (l.map id).Nodup) (i : ι) (k : κ) :
    find id (close owner l k) i = (find id l i).filter fun a => owner a ≠ k := by
  cases h : find id l i with
  | none =>
    rw [Option.filter_none, find_eq_none_iff]
    intro a ha
    exact find_eq_none_iff.mp h a (mem_close.mp ha).1
  | some a =>
    obtain ⟨ha, rfl⟩ := mem_of_find h
    by_cases hk : owner a = k
    · rw [Option.filter_some_neg (by simpa using hk), find_eq_none_iff]
      intro b hb hid
      obtain ⟨hb, hbk⟩ := mem_close.mp hb
      exact hbk (List.inj_on_of_nodup_map hl hb ha hid ▸ hk)
    · rw [Option.filter_some_pos (by simpa using hk)]
      refine find_of_mem ?_ (mem_close.mpr ⟨ha, hk⟩)
      exact hl.sublist (List.filter_sublist.map id)

end Both

end Ledger
