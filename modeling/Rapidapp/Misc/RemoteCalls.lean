import Mathlib.Data.List.Nodup
import Rapidapp.Misc.Lane

/-!
# Remote calls

A caller and a server with one lane each way. A call goes out under a number. The server takes the
calls in their order, and takes each up or lets it drop; what it has taken up it answers at any
later time and in any order. The answers go back under the numbers of their calls. Whatever the two
do, no call is answered twice, what is answered was called and taken up, and what was taken up is
open until it is answered (`Ok`).
-/

namespace RemoteCalls

open Framing

variable {I Q A : Type*}

/-- The calls on their way and those that were taken, the calls that were ever taken up, those of
them that are open, and the answers. -/
structure Calls (I Q A : Type*) where
  ask : Lane (I × Q)
  served : List (I × Q)
  serving : List (I × Q)
  tell : Lane (I × A)

namespace Calls

/-- Nobody has called yet. -/
def start : Calls I Q A := ⟨.empty, [], [], .empty⟩

/-- The call with this number is answered, and not open any more. -/
def answer [DecidableEq I] (c : Calls I Q A) (i : I) (a : A) : Calls I Q A :=
  { c with serving := c.serving.filter (·.1 ≠ i), tell := c.tell.put [(i, a)] }

/-- What may happen. `may` says which answers a call may have. -/
inductive Step [DecidableEq I] (may : Q → A → Prop) : Calls I Q A → Calls I Q A → Prop where
  | call {c : Calls I Q A} (x : I × Q) : x.1 ∉ c.ask.all.map Prod.fst →
      Step may c { c with ask := c.ask.put [x] }
  | serve {c : Calls I Q A} {x : I × Q} {ask : Lane (I × Q)} : c.ask.Takes x ask →
      Step may c { c with ask := ask, served := c.served ++ [x], serving := c.serving ++ [x] }
  | refuse {c : Calls I Q A} {x : I × Q} {ask : Lane (I × Q)} : c.ask.Takes x ask →
      Step may c { c with ask := ask }
  | answer {c : Calls I Q A} {x : I × Q} {a : A} : x ∈ c.serving → may x.2 a →
      Step may c (c.answer x.1 a)
  | hear {c : Calls I Q A} {y : I × A} {tell : Lane (I × A)} : c.tell.Takes y tell →
      Step may c { c with tell := tell }

/-- Any number of steps. -/
abbrev Steps [DecidableEq I] (may : Q → A → Prop) : Calls I Q A → Calls I Q A → Prop :=
  Relation.ReflTransGen (Step may)

/-- What holds whatever has happened. -/
structure Ok (may : Q → A → Prop) (c : Calls I Q A) : Prop where
  once : (c.ask.all.map Prod.fst).Nodup
  took : c.served.Sublist c.ask.past
  busy : c.serving.Sublist c.served
  waiting : ∀ x ∈ c.serving, x.1 ∉ c.tell.all.map Prod.fst
  single : (c.tell.all.map Prod.fst).Nodup
  answered : ∀ y ∈ c.tell.all, ∃ q, (y.1, q) ∈ c.served ∧ may q y.2
  kept : ∀ x ∈ c.served, x ∈ c.serving ∨ x.1 ∈ c.tell.all.map Prod.fst

theorem ok_start (may : Q → A → Prop) : Ok may (start : Calls I Q A) :=
  ⟨.nil, .slnil, .slnil, nofun, .nil, nofun, nofun⟩

namespace Ok

variable {may : Q → A → Prop} {c : Calls I Q A}

/-- What was taken up was called. -/
theorem mem_all (h : Ok may c) {x : I × Q} (hx : x ∈ c.served) : x ∈ c.ask.all :=
  List.mem_append_left _ (h.took.subset hx)

/-- A number stands for one call. -/
theorem eq_of_fst (h : Ok may c) {x x' : I × Q} (hx : x ∈ c.ask.all) (hx' : x' ∈ c.ask.all)
    (heq : x.1 = x'.1) : x = x' :=
  List.inj_on_of_nodup_map h.once hx hx' heq

/-- Nothing on its way has been taken up. -/
theorem notServed (h : Ok may c) {x : I × Q} {ask : Lane (I × Q)} (ht : c.ask.Takes x ask) :
    x.1 ∉ c.served.map Prod.fst := by
  have honce := h.once
  rw [Lane.all, ht.ahead, List.map_append, List.nodup_append] at honce
  intro hmem
  have hpast := (h.took.map Prod.fst).subset hmem
  exact honce.2.2 x.1 hpast x.1 List.mem_cons_self rfl

theorem answered_fst (h : Ok may c) {i : I} (hi : i ∈ c.tell.all.map Prod.fst) :
    i ∈ c.served.map Prod.fst := by
  obtain ⟨y, hy, rfl⟩ := List.mem_map.mp hi
  obtain ⟨q, hq, _⟩ := h.answered y hy
  exact List.mem_map.mpr ⟨_, hq, rfl⟩

section Step

variable [DecidableEq I]

/-- An open call is answered. -/
theorem answer (h : Ok may c) {x : I × Q} (hx : x ∈ c.serving) {a : A} (hmay : may x.2 a) :
    Ok may (c.answer x.1 a) where
  once := h.once
  took := h.took
  busy := List.filter_sublist.trans h.busy
  waiting y hy hmem := by
    obtain ⟨hy, hne⟩ := List.mem_filter.mp hy
    rw [Calls.answer, Lane.all_put, List.map_append, List.mem_append] at hmem
    obtain hmem | hmem := hmem
    · exact h.waiting y hy hmem
    · rw [List.map_singleton, List.mem_singleton] at hmem
      simp [hmem] at hne
  single := by
    rw [Calls.answer, Lane.all_put, List.map_append, List.nodup_append]
    refine ⟨h.single, List.nodup_singleton _, ?_⟩
    rintro i hi j hj rfl
    rw [List.map_singleton, List.mem_singleton] at hj
    exact h.waiting x hx (hj ▸ hi)
  answered y hy := by
    rw [Calls.answer, Lane.all_put, List.mem_append] at hy
    obtain hy | hy := hy
    · exact h.answered y hy
    · rw [List.mem_singleton.mp hy]
      exact ⟨x.2, h.busy.subset hx, hmay⟩
  kept y hy := by
    simp only [Calls.answer, Lane.all_put, List.map_append, List.map_singleton, List.mem_append,
      List.mem_singleton, List.mem_filter, decide_eq_true_eq]
    obtain hy | hy := h.kept y hy
    · by_cases heq : y.1 = x.1
      · exact .inr (.inr heq)
      · exact .inl ⟨hy, heq⟩
    · exact .inr (.inl hy)

/-- Every step keeps it. -/
theorem step (h : Ok may c) {c' : Calls I Q A} (hs : Step may c c') : Ok may c' := by
  cases hs with
  | call x hx =>
    refine { h with once := ?_, took := h.took }
    rw [Lane.all_put, List.map_append, List.nodup_append]
    refine ⟨h.once, List.nodup_singleton _, ?_⟩
    rintro i hi j hj rfl
    rw [List.map_singleton, List.mem_singleton] at hj
    exact hx (hj ▸ hi)
  | @serve x ask ht =>
    have hnot := h.notServed ht
    refine ⟨by rw [ht.all]; exact h.once, ?_, h.busy.append (List.Sublist.refl _), ?_, h.single, ?_,
      ?_⟩
    · rw [ht.past]
      exact h.took.append (List.Sublist.refl _)
    · intro y hy hmem
      obtain hy | hy := List.mem_append.mp hy
      · exact h.waiting y hy hmem
      · rw [List.mem_singleton.mp hy] at hmem
        exact hnot (h.answered_fst hmem)
    · intro y hy
      obtain ⟨q, hq, hmay⟩ := h.answered y hy
      exact ⟨q, List.mem_append_left _ hq, hmay⟩
    · intro y hy
      obtain hy | hy := List.mem_append.mp hy
      · exact (h.kept y hy).imp_left (List.mem_append_left _)
      · exact .inl (List.mem_append_right _ hy)
  | @refuse x ask ht =>
    refine { h with once := ?_, took := ?_ }
    · rw [ht.all]
      exact h.once
    · rw [ht.past]
      exact h.took.trans (List.sublist_append_left _ _)
  | answer hx hmay => exact h.answer hx hmay
  | @hear y tell ht => exact { h with
      waiting := by rw [ht.all]; exact h.waiting
      single := by rw [ht.all]; exact h.single
      answered := by rw [ht.all]; exact h.answered
      kept := by rw [ht.all]; exact h.kept }

theorem steps (h : Ok may c) {c' : Calls I Q A} (hs : Steps may c c') : Ok may c' := by
  induction hs with
  | refl => exact h
  | tail _ hstep ih => exact ih.step hstep

end Step

/-- The answer that comes next is to a call that has had none. -/
theorem next (h : Ok may c) {y : I × A} {tell : Lane (I × A)} (ht : c.tell.Takes y tell) :
    (∃ q, (y.1, q) ∈ c.ask.all ∧ may q y.2) ∧ y.1 ∉ c.tell.past.map Prod.fst := by
  have hall : c.tell.all = c.tell.past ++ y :: tell.ahead := by rw [Lane.all, ht.ahead]
  constructor
  · obtain ⟨q, hq, hmay⟩ := h.answered y (by rw [hall]; simp)
    exact ⟨q, h.mem_all hq, hmay⟩
  · have hsingle := h.single
    rw [hall, List.map_append, List.nodup_append] at hsingle
    exact fun hmem => hsingle.2.2 y.1 hmem y.1 List.mem_cons_self rfl

/-- When no call is open and every answer has come back, each call that was taken up has had its
answer. -/
theorem all_answered (h : Ok may c) (hidle : c.serving = []) (hahead : c.tell.ahead = [])
    {x : I × Q} (hx : x ∈ c.served) : ∃ a, (x.1, a) ∈ c.tell.past ∧ may x.2 a := by
  have hall : c.tell.all = c.tell.past := by rw [Lane.all, hahead, List.append_nil]
  obtain hopen | htold := h.kept x hx
  · rw [hidle] at hopen
    exact absurd hopen List.not_mem_nil
  · obtain ⟨y, hy, heq⟩ := List.mem_map.mp htold
    obtain ⟨q, hq, hmay⟩ := h.answered y hy
    obtain rfl : x = (y.1, q) := h.eq_of_fst (h.mem_all hx) (h.mem_all hq) heq.symm
    exact ⟨y.2, hall ▸ hy, hmay⟩

end Ok

end Calls

end RemoteCalls
