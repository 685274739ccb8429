import Mathlib.Data.List.Induction

/-!
# Exchanges: requests that wait for an answer

What a table of outstanding requests is for. A request is issued by an owner under an
identifier and then waits; a message that comes in for the owner with the identifier is its
answer, and the request waits no longer. When no two requests share owner and identifier, the
answer to a request is the first message that comes in for it after it was issued, and there
is no other (`after_issue`).
-/

namespace Exchange

variable {O I V M : Type*}

/-- A request, with what its issuer wants to have back with the answer. -/
structure Request (O I V : Type*) where
  owner : O
  id : I
  val : V

/-- What happens at the desk. -/
inductive Event (O I V M : Type*) where
  | issue (r : Request O I V)
  | hear (owner : O) (id : I) (msg : M)

/-- The requests that wait, oldest first, and the answers given so far. -/
structure Desk (O I V M : Type*) where
  waiting : List (Request O I V)
  answered : List (Request O I V × M)

/-- The requests issued in a log. -/
def issues : List (Event O I V M) → List (Request O I V)
  | [] => []
  | .issue r :: log => r :: issues log
  | .hear .. :: log => issues log

theorem issues_append (l l' : List (Event O I V M)) : issues (l ++ l') = issues l ++ issues l' := by
  induction l with
  | nil => rfl
  | cons e l ih => cases e <;> simp [issues, ih]

/-- Where a request of the log was issued. -/
theorem exists_of_mem_issues {log : List (Event O I V M)} {r : Request O I V}
    (h : r ∈ issues log) : ∃ l l', log = l ++ .issue r :: l' := by
  induction log with
  | nil => cases h
  | cons e log ih =>
    have hrest : r ∈ issues log → ∃ l l', e :: log = l ++ .issue r :: l' := by
      intro h
      obtain ⟨l, l', rfl⟩ := ih h
      exact ⟨e :: l, l', rfl⟩
    cases e with
    | issue r' =>
      rcases List.mem_cons.mp h with rfl | h
      · exact ⟨[], log, rfl⟩
      · exact hrest h
    | hear => exact hrest h

variable [DecidableEq O] [DecidableEq I]

/-- A message for this owner and identifier is for the request. -/
def Request.takes (r : Request O I V) (owner : O) (id : I) : Bool := r.owner = owner ∧ r.id = id

theorem Request.takes_iff {r : Request O I V} {owner : O} {id : I} :
    r.takes owner id = true ↔ r.owner = owner ∧ r.id = id := decide_eq_true_iff

@[simp] theorem Request.takes_self (r : Request O I V) : r.takes r.owner r.id = true :=
  takes_iff.mpr ⟨rfl, rfl⟩

theorem Request.takes_of_find? {rs : List (Request O I V)} {r : Request O I V} {owner : O} {id : I}
    (h : rs.find? (·.takes owner id) = some r) : r.takes owner id = true :=
  List.find?_some (p := fun x : Request O I V => x.takes owner id) h

/-- One event at the desk. -/
def Desk.step (d : Desk O I V M) : Event O I V M → Desk O I V M
  | .issue r => { d with waiting := d.waiting ++ [r] }
  | .hear owner id msg =>
    match d.waiting.find? (·.takes owner id) with
    | none => d
    | some r =>
      { waiting := d.waiting.filter (!·.takes owner id)
        answered := d.answered ++ [(r, msg)] }

theorem Desk.step_hear_of_none {d : Desk O I V M} {owner : O} {id : I} (msg : M)
    (h : d.waiting.find? (·.takes owner id) = none) : d.step (.hear owner id msg) = d := by
  rw [step, h]

theorem Desk.step_hear_of_some {d : Desk O I V M} {owner : O} {id : I} (msg : M)
    {r : Request O I V} (h : d.waiting.find? (·.takes owner id) = some r) :
    d.step (.hear owner id msg) =
      { waiting := d.waiting.filter (!·.takes owner id)
        answered := d.answered ++ [(r, msg)] } := by
  rw [step, h]

/-- The desk after a log of events. -/
def after (log : List (Event O I V M)) : Desk O I V M := log.foldl Desk.step ⟨[], []⟩

theorem after_concat (log : List (Event O I V M)) (e : Event O I V M) :
    after (log ++ [e]) = (after log).step e := by
  simp only [after, List.foldl_append, List.foldl_cons, List.foldl_nil]

/-- The answers given to the request with this owner and identifier. -/
def Desk.answersTo (d : Desk O I V M) (owner : O) (id : I) : List (Request O I V × M) :=
  d.answered.filter (·.1.takes owner id)

/-- The message of an event that is for the request. -/
def Request.hears (r : Request O I V) : Event O I V M → Option M
  | .issue _ => none
  | .hear owner id msg => if r.takes owner id then some msg else none

/-- No two requests of the log share owner and identifier. -/
def Distinct (log : List (Event O I V M)) : Prop :=
  (issues log).Pairwise fun a b => ¬ b.takes a.owner a.id

/-! ## What a request is answered -/

/-- The requests that wait for a message of `owner` and `id`, and the answers they were given,
after an event that does not issue one. -/
theorem Desk.step_key {d : Desk O I V M} {e : Event O I V M} {owner : O} {id : I}
    (he : ∀ r, e = .issue r → ¬ r.takes owner id) :
    ((d.step e).waiting.filter (·.takes owner id) = d.waiting.filter (·.takes owner id) ∧
      (d.step e).answersTo owner id = d.answersTo owner id ∧
      ((∀ msg, e ≠ .hear owner id msg) ∨ d.waiting.filter (·.takes owner id) = [])) ∨
    ∃ r msg, e = .hear owner id msg ∧ (d.waiting.filter (·.takes owner id)).head? = some r ∧
      (d.step e).waiting.filter (·.takes owner id) = [] ∧
      (d.step e).answersTo owner id = d.answersTo owner id ++ [(r, msg)] := by
  cases e with
  | issue r =>
    refine .inl ⟨?_, rfl, .inl nofun⟩
    simp only [step, List.filter_append, List.filter_cons, he r rfl, List.filter_nil]
    simp
  | hear o i msg =>
    by_cases hkey : o = owner ∧ i = id
    · obtain ⟨rfl, rfl⟩ := hkey
      rcases hfind : d.waiting.find? (·.takes o i) with _ | r
      · have hnone : d.waiting.filter (·.takes o i) = [] := by
          rw [← List.head?_eq_none_iff, List.head?_filter, hfind]
        rw [step_hear_of_none msg hfind]
        exact .inl ⟨rfl, rfl, .inr hnone⟩
      · have htakes := Request.takes_of_find? hfind
        rw [step_hear_of_some msg hfind]
        refine .inr ⟨r, msg, rfl, by rw [List.head?_filter, hfind], ?_, ?_⟩
        · rw [List.filter_filter, List.filter_eq_nil_iff]
          simp
        · simp [answersTo, htakes]
    · have hother : ∀ r : Request O I V, r.takes owner id → ¬ r.takes o i := by
        intro r hr hr'
        obtain ⟨rfl, rfl⟩ := Request.takes_iff.mp hr
        obtain ⟨h₁, h₂⟩ := Request.takes_iff.mp hr'
        exact hkey ⟨h₁.symm, h₂.symm⟩
      refine .inl ?_
      have hmsg : ∀ msg', Event.hear o i msg ≠ (Event.hear owner id msg' : Event O I V M) := by
        rintro msg' ⟨⟩
        exact hkey ⟨rfl, rfl⟩
      rcases hfind : d.waiting.find? (·.takes o i) with _ | r
      · rw [step_hear_of_none msg hfind]
        exact ⟨rfl, rfl, .inl hmsg⟩
      · have hr : r.takes owner id = false := by
          rw [Bool.eq_false_iff]
          exact fun h => hother r h (Request.takes_of_find? hfind)
        rw [step_hear_of_some msg hfind]
        simp only [answersTo, List.filter_filter, List.filter_append,
          List.filter_cons, hr, List.filter_nil, List.append_nil, Bool.false_eq_true, if_false]
        refine ⟨List.filter_congr fun x _ => ?_, trivial, .inl hmsg⟩
        cases hx : x.takes owner id with
        | false => rfl
        | true => simp [Bool.eq_false_iff.mpr (hother x hx)]

/-- Once nothing waits for a message of `owner` and `id`, nothing does, and there are no more
answers to one. -/
theorem foldl_of_none {owner : O} {id : I} {log : List (Event O I V M)}
    (hlog : ∀ r ∈ issues log, ¬ r.takes owner id) {d : Desk O I V M}
    (hd : d.waiting.filter (·.takes owner id) = []) :
    (log.foldl Desk.step d).waiting.filter (·.takes owner id) = [] ∧
      (log.foldl Desk.step d).answersTo owner id = d.answersTo owner id := by
  induction log generalizing d with
  | nil => exact ⟨hd, rfl⟩
  | cons e log ih =>
    have he : ∀ r, e = .issue r → ¬ r.takes owner id := by
      rintro r rfl
      exact hlog r List.mem_cons_self
    have hrest : ∀ r ∈ issues log, ¬ r.takes owner id := by
      intro r hr
      refine hlog r ?_
      cases e with
      | issue _ => exact List.mem_cons_of_mem _ hr
      | hear => exact hr
    rw [List.foldl_cons]
    obtain ⟨hw, ha, _⟩ | ⟨r, msg, _, hhead, _⟩ := d.step_key he
    · rw [← ha]
      exact ih hrest (hw.trans hd)
    · rw [hd] at hhead
      cases hhead

/-- A request that waits is answered by the first message that is for it. -/
theorem foldl_of_waiting {r : Request O I V} {log : List (Event O I V M)}
    (hlog : ∀ r' ∈ issues log, ¬ r'.takes r.owner r.id) {d : Desk O I V M}
    (hd : d.waiting.filter (·.takes r.owner r.id) = [r]) :
    ((log.foldl Desk.step d).waiting.filter (·.takes r.owner r.id) = [] ↔
        (log.findSome? r.hears).isSome) ∧
      (log.foldl Desk.step d).answersTo r.owner r.id =
        d.answersTo r.owner r.id ++ ((log.findSome? r.hears).map (r, ·)).toList := by
  induction log generalizing d with
  | nil => simp [hd]
  | cons e log ih =>
    have he : ∀ r', e = .issue r' → ¬ r'.takes r.owner r.id := by
      rintro r' rfl
      exact hlog r' List.mem_cons_self
    have hrest : ∀ r' ∈ issues log, ¬ r'.takes r.owner r.id := by
      intro r' hr
      refine hlog r' ?_
      cases e with
      | issue _ => exact List.mem_cons_of_mem _ hr
      | hear => exact hr
    rw [List.foldl_cons]
    obtain ⟨hw, ha, hmsg⟩ | ⟨r', msg, rfl, hhead, hw, ha⟩ := d.step_key he
    · have hnone : r.hears e = none := by
        cases e with
        | issue _ => rfl
        | hear o i msg =>
          refine if_neg fun htakes => ?_
          obtain ⟨rfl, rfl⟩ := Request.takes_iff.mp htakes
          rcases hmsg with hmsg | hmsg
          · exact hmsg msg rfl
          · rw [hd] at hmsg
            cases hmsg
      rw [List.findSome?_cons, hnone, ← ha]
      exact ih hrest (hw.trans hd)
    · obtain rfl : r = r' := by
        rw [hd] at hhead
        exact Option.some.inj hhead
      have hsome : r.hears (.hear r.owner r.id msg) = some msg := if_pos r.takes_self
      obtain ⟨hw', ha'⟩ := foldl_of_none hrest hw
      rw [hw', ha', ha, List.findSome?_cons, hsome]
      exact ⟨by simp, rfl⟩

/-- The requests that wait are requests of the log, in their order. -/
theorem waiting_sublist (log : List (Event O I V M)) :
    (after log).waiting.Sublist (issues log) := by
  induction log using List.reverseRecOn with
  | nil => exact List.Sublist.refl []
  | append_singleton log e ih =>
    rw [after_concat, issues_append]
    cases e with
    | issue r => exact ih.append (List.Sublist.refl [r])
    | hear o i msg =>
      rw [show issues [(.hear o i msg : Event O I V M)] = [] from rfl, List.append_nil]
      rcases hfind : (after log).waiting.find? (·.takes o i) with _ | r
      · rw [Desk.step_hear_of_none msg hfind]
        exact ih
      · rw [Desk.step_hear_of_some msg hfind]
        exact List.filter_sublist.trans ih

/-- Only requests of the log are answered. -/
theorem mem_issues_of_answered {log : List (Event O I V M)} {a : Request O I V × M}
    (h : a ∈ (after log).answered) : a.1 ∈ issues log := by
  induction log using List.reverseRecOn with
  | nil => cases h
  | append_singleton log e ih =>
    rw [after_concat] at h
    rw [issues_append]
    cases e with
    | issue r => exact List.mem_append_left _ (ih h)
    | hear o i msg =>
      rcases hfind : (after log).waiting.find? (·.takes o i) with _ | r
      · rw [Desk.step_hear_of_none msg hfind] at h
        exact List.mem_append_left _ (ih h)
      · rw [Desk.step_hear_of_some msg hfind] at h
        rcases List.mem_append.mp h with h | h
        · exact List.mem_append_left _ (ih h)
        · rw [List.mem_singleton.mp h]
          exact List.mem_append_left _
            ((waiting_sublist log).subset (List.mem_of_find?_eq_some hfind))

/-- The answer to a request is the first message for it after it was issued; until then, and not
longer, it waits. -/
theorem after_issue {l l' : List (Event O I V M)} {r : Request O I V}
    (h : Distinct (l ++ .issue r :: l')) :
    ((after (l ++ .issue r :: l')).waiting.filter (·.takes r.owner r.id) = [] ↔
        (l'.findSome? r.hears).isSome) ∧
      (after (l ++ .issue r :: l')).answersTo r.owner r.id =
        ((l'.findSome? r.hears).map (r, ·)).toList := by
  rw [Distinct, issues_append, issues, List.pairwise_append, List.pairwise_cons] at h
  obtain ⟨_, ⟨hlater, _⟩, hearlier⟩ := h
  have hbefore : ∀ x ∈ issues l, x.takes r.owner r.id = false := by
    intro x hx
    rw [Bool.eq_false_iff]
    intro htakes
    obtain ⟨h₁, h₂⟩ := Request.takes_iff.mp htakes
    exact hearlier x hx r List.mem_cons_self (Request.takes_iff.mpr ⟨h₁.symm, h₂.symm⟩)
  have hwait : ((after l).step (.issue r)).waiting.filter (·.takes r.owner r.id) = [r] := by
    have hnone : (after l).waiting.filter (·.takes r.owner r.id) = [] :=
      List.filter_eq_nil_iff.mpr fun x hx => by
        rw [hbefore x ((waiting_sublist l).subset hx)]; decide
    rw [Desk.step, List.filter_append, hnone]
    simp
  have hans : ((after l).step (.issue r)).answersTo r.owner r.id = [] :=
    List.filter_eq_nil_iff.mpr fun a ha => by
      rw [hbefore a.1 (mem_issues_of_answered ha)]; decide
  rw [after, List.foldl_append, List.foldl_cons]
  have hserved := foldl_of_waiting hlater hwait
  rw [hans, List.nil_append] at hserved
  exact hserved

/-! ## The requests of one owner -/

/-- Who an event is about. -/
def Event.owner : Event O I V M → O
  | .issue r => r.owner
  | .hear owner _ _ => owner

/-- An event of another owner leaves the requests of this one waiting as they are. -/
theorem Desk.step_owner (d : Desk O I V M) {e : Event O I V M} {owner : O} (he : e.owner ≠ owner) :
    (d.step e).waiting.filter (·.owner = owner) = d.waiting.filter (·.owner = owner) := by
  cases e with
  | issue r =>
    have hr : r.owner ≠ owner := he
    simp [step, List.filter_append, hr]
  | hear o i msg =>
    have ho : o ≠ owner := he
    rcases hfind : d.waiting.find? (·.takes o i) with _ | r
    · rw [step_hear_of_none msg hfind]
    · rw [step_hear_of_some msg hfind, List.filter_filter]
      refine List.filter_congr fun x _ => ?_
      by_cases hx : x.owner = owner
      · simp [hx, Request.takes, ho.symm]
      · simp [hx]

omit [DecidableEq I] in
theorem issues_owner (log : List (Event O I V M)) {e : Event O I V M} {owner : O}
    (he : e.owner ≠ owner) :
    (issues (log ++ [e])).filter (·.owner = owner) = (issues log).filter (·.owner = owner) := by
  rw [issues_append, List.filter_append]
  cases e with
  | issue r =>
    have hr : r.owner ≠ owner := he
    simp [issues, hr]
  | hear => exact List.append_nil _

end Exchange
