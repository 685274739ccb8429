import Mathlib.Data.List.Basic
import Mathlib.Data.Option.Basic

/-!
# Runs of a partial step function

A transition system is given by a step function `σ → ε → Option σ`: the event `ε` is what
the environment chooses, `none` says that the event is not enabled (or that the program
stops there). `run` iterates it over a list of events, `Along` says that a condition on
(state before the step, event) holds at every step of a run, and `run_inv` is the
induction rule for invariants.
-/

namespace Run

variable {σ ε : Type*} {step : σ → ε → Option σ}

/-- The state after the events, or `none` when one of them is not enabled. -/
def run (step : σ → ε → Option σ) : σ → List ε → Option σ
  | s, [] => some s
  | s, e :: es => (step s e).bind fun s' => run step s' es

/-- `P` holds of every step the run takes (of the state before it and the event). -/
def Along (step : σ → ε → Option σ) (P : σ → ε → Prop) : σ → List ε → Prop
  | _, [] => True
  | s, e :: es => P s e ∧ ∀ s', step s e = some s' → Along step P s' es

/-- A run can be checked step by step. -/
instance Along.decidable {P : σ → ε → Prop} [∀ s e, Decidable (P s e)] :
    ∀ s es, Decidable (Along step P s es)
  | _, [] => isTrue trivial
  | s, e :: es =>
    match hs : step s e with
    | none => decidable_of_iff (P s e) (by simp [Along, hs])
    | some s' =>
      have := Along.decidable (P := P) s' es
      decidable_of_iff (P s e ∧ Along step P s' es) (by simp [Along, hs])

@[simp] theorem run_nil (s : σ) : run step s [] = some s := rfl

theorem run_cons (s : σ) (e : ε) (es : List ε) :
    run step s (e :: es) = (step s e).bind fun s' => run step s' es := rfl

theorem run_cons_some {s t : σ} {e : ε} {es : List ε} :
    run step s (e :: es) = some t ↔ ∃ s', step s e = some s' ∧ run step s' es = some t := by
  rw [run_cons, Option.bind_eq_some_iff]

theorem run_append (s : σ) (es es' : List ε) :
    run step s (es ++ es') = (run step s es).bind fun s' => run step s' es' := by
  induction es generalizing s with
  | nil => rfl
  | cons e es ih =>
    rw [List.cons_append, run_cons, run_cons, Option.bind_assoc]
    exact congrArg _ (funext ih)

theorem run_append_some {s t : σ} {es es' : List ε} :
    run step s (es ++ es') = some t ↔ ∃ s', run step s es = some s' ∧ run step s' es' = some t := by
  rw [run_append, Option.bind_eq_some_iff]

theorem run_singleton (s : σ) (e : ε) : run step s [e] = step s e := by
  rw [run_cons]; cases step s e <;> rfl

theorem run_concat_some {s t : σ} {es : List ε} {e : ε} :
    run step s (es ++ [e]) = some t ↔ ∃ s', run step s es = some s' ∧ step s' e = some t := by
  rw [run_append_some]; simp only [run_singleton]

/-- A step function that never refuses an event runs to the end of every list. -/
theorem run_isSome (htotal : ∀ s e, (step s e).isSome) (s : σ) (es : List ε) :
    (run step s es).isSome := by
  induction es generalizing s with
  | nil => rfl
  | cons e es ih =>
    obtain ⟨s', hs'⟩ := Option.isSome_iff_exists.mp (htotal s e)
    rw [run_cons, hs', Option.bind_some]
    exact ih s'

theorem along_cons {P : σ → ε → Prop} {s s' : σ} {e : ε} {es : List ε} (hp : P s e)
    (hs : step s e = some s') (h : Along step P s' es) : Along step P s (e :: es) :=
  ⟨hp, fun _ ht => Option.some.inj (hs.symm.trans ht) ▸ h⟩

theorem along_append {P : σ → ε → Prop} {s : σ} {es es' : List ε} :
    Along step P s (es ++ es') ↔
      Along step P s es ∧ ∀ s', run step s es = some s' → Along step P s' es' := by
  induction es generalizing s with
  | nil => simp [Along]
  | cons e es ih =>
    simp only [List.cons_append, Along, run_cons_some]
    constructor
    · rintro ⟨hp, hrest⟩
      refine ⟨⟨hp, fun s' hs' => (ih.mp (hrest s' hs')).1⟩, ?_⟩
      rintro t ⟨s', hs', ht⟩
      exact (ih.mp (hrest s' hs')).2 t ht
    · rintro ⟨⟨hp, hrest⟩, htail⟩
      exact ⟨hp, fun s' hs' => ih.mpr ⟨hrest s' hs', fun t ht => htail t ⟨s', hs', ht⟩⟩⟩

/-- A condition that every event of the list meets in any state. -/
theorem along_of_forall {P : σ → ε → Prop} {es : List ε} (h : ∀ e ∈ es, ∀ s, P s e) (s : σ) :
    Along step P s es := by
  induction es generalizing s with
  | nil => trivial
  | cons e es ih =>
    exact ⟨h e List.mem_cons_self s,
      fun s' _ => ih (fun e he => h e (List.mem_cons_of_mem _ he)) s'⟩

/-- The invariant rule: what every step that meets the condition preserves holds at the end
of every run whose steps all meet it. -/
theorem run_inv {I : σ → Prop} {P : σ → ε → Prop}
    (hstep : ∀ s e s', I s → P s e → step s e = some s' → I s')
    {s t : σ} {es : List ε} (hs : I s) (hP : Along step P s es)
    (hrun : run step s es = some t) : I t := by
  induction es generalizing s with
  | nil => cases hrun; exact hs
  | cons e es ih =>
    obtain ⟨s', hs', ht⟩ := run_cons_some.mp hrun
    exact ih (hstep s e s' hs hP.1 hs') (hP.2 s' hs') ht

/-- The invariant rule for what every step preserves. -/
theorem run_preserves {I : σ → Prop} (hstep : ∀ s e s', I s → step s e = some s' → I s')
    {s t : σ} {es : List ε} (hs : I s) (hrun : run step s es = some t) : I t :=
  run_inv (fun s e s' h _ => hstep s e s' h) hs
    (along_of_forall (P := fun _ _ => True) (fun _ _ _ => trivial) s) hrun

/-- The invariant rule for an invariant that also mentions the events taken so far. -/
theorem run_inv_trace {I : σ → List ε → Prop} {P : σ → ε → Prop}
    (hstep : ∀ s es e s', I s es → P s e → step s e = some s' → I s' (es ++ [e]))
    {s t : σ} (es₀ : List ε) {es : List ε} (hs : I s es₀) (hP : Along step P s es)
    (hrun : run step s es = some t) : I t (es₀ ++ es) := by
  induction es generalizing s es₀ with
  | nil => cases hrun; simpa using hs
  | cons e es ih =>
    obtain ⟨s', hs', ht⟩ := run_cons_some.mp hrun
    simpa using ih _ (hstep s es₀ e s' hs hP.1 hs') (hP.2 s' hs') ht

/-- A relation between the start of a step and its end that is reflexive and transitive holds
between the ends of a run. -/
theorem run_rel {R : σ → σ → Prop} (hrefl : ∀ s, R s s)
    (htrans : ∀ {a b c}, R a b → R b c → R a c)
    (hstep : ∀ s e s', step s e = some s' → R s s')
    {s t : σ} {es : List ε} (hrun : run step s es = some t) : R s t := by
  induction es generalizing s with
  | nil => cases hrun; exact hrefl _
  | cons e es ih =>
    obtain ⟨s', hs', ht⟩ := run_cons_some.mp hrun
    exact htrans (hstep s e s' hs') (ih ht)

/-- The invariant rule for a step function that is partial: where a step that meets the condition
is always enabled, the run gets to its end. -/
theorem run_goes_on {I : σ → Prop} {P : σ → ε → Prop}
    (hstep : ∀ s e, I s → P s e → ∃ s', step s e = some s' ∧ I s')
    {s : σ} {es : List ε} (hs : I s) (hP : Along step P s es) :
    ∃ t, run step s es = some t ∧ I t := by
  induction es generalizing s with
  | nil => exact ⟨s, rfl, hs⟩
  | cons e es ih =>
    obtain ⟨s', hs', hI⟩ := hstep s e hs hP.1
    obtain ⟨t, ht, hIt⟩ := ih hI (hP.2 s' hs')
    exact ⟨t, run_cons_some.mpr ⟨s', hs', ht⟩, hIt⟩

/-- What the invariant and the condition give at one step they give along the run. -/
theorem along_of_inv {I : σ → Prop} {P Q : σ → ε → Prop}
    (hstep : ∀ s e s', I s → P s e → step s e = some s' → I s')
    (hQ : ∀ s e, I s → P s e → Q s e) {s : σ} {es : List ε} (hs : I s)
    (hP : Along step P s es) : Along step Q s es := by
  induction es generalizing s with
  | nil => trivial
  | cons e es ih =>
    exact ⟨hQ s e hs hP.1, fun s' hs' => ih (hstep s e s' hs hP.1 hs') (hP.2 s' hs')⟩

/-- Two conditions that are the same under an invariant hold along the same runs. -/
theorem along_iff_of_inv {I : σ → Prop} {P Q : σ → ε → Prop}
    (hstep : ∀ s e s', I s → step s e = some s' → I s') (hPQ : ∀ s e, I s → (P s e ↔ Q s e))
    {s : σ} (hs : I s) (es : List ε) : Along step P s es ↔ Along step Q s es := by
  constructor
  · exact along_of_inv (fun s e s' hI _ => hstep s e s' hI) (fun s e hI => (hPQ s e hI).mp) hs
  · exact along_of_inv (fun s e s' hI _ => hstep s e s' hI) (fun s e hI => (hPQ s e hI).mpr) hs

/-- Two conditions that are the same under an invariant for every event that is enabled. -/
theorem along_iff_of_run {I : σ → Prop} {P Q : σ → ε → Prop}
    (hstep : ∀ s e s', I s → step s e = some s' → I s')
    (hPQ : ∀ s e s', I s → step s e = some s' → (P s e ↔ Q s e)) {s t : σ} {es : List ε} (hs : I s)
    (hrun : run step s es = some t) : Along step P s es ↔ Along step Q s es := by
  induction es generalizing s with
  | nil => exact Iff.rfl
  | cons e es ih =>
    obtain ⟨s', hs', ht⟩ := run_cons_some.mp hrun
    have hrest := ih (hstep s e s' hs hs') ht
    have hhead := hPQ s e s' hs hs'
    constructor
    · rintro ⟨hp, hall⟩
      exact along_cons (hhead.mp hp) hs' (hrest.mp (hall s' hs'))
    · rintro ⟨hq, hall⟩
      exact along_cons (hhead.mpr hq) hs' (hrest.mpr (hall s' hs'))

/-- `P` holds in every state that a part of the run comes to. -/
def Always (step : σ → ε → Option σ) (P : σ → Prop) (s : σ) (es : List ε) : Prop :=
  ∀ before rest t, es = before ++ rest → run step s before = some t → P t

theorem always_nil {P : σ → Prop} {s : σ} : Always step P s [] ↔ P s := by
  constructor
  · intro h
    exact h [] [] s rfl rfl
  · intro h before rest t hes ht
    obtain ⟨rfl, -⟩ := List.append_eq_nil_iff.mp hes.symm
    cases ht
    exact h

theorem always_cons {P : σ → Prop} {s : σ} {e : ε} {es : List ε} :
    Always step P s (e :: es) ↔ P s ∧ ∀ s', step s e = some s' → Always step P s' es := by
  constructor
  · intro h
    refine ⟨h [] _ s rfl rfl, fun s' hs' before rest t hes ht => ?_⟩
    exact h (e :: before) rest t (congrArg (e :: ·) hes) (run_cons_some.mpr ⟨s', hs', ht⟩)
  · rintro ⟨hs, hrest⟩ before rest t hes ht
    cases before with
    | nil =>
      cases ht
      exact hs
    | cons a before =>
      obtain ⟨rfl, htail⟩ := List.cons.inj hes
      obtain ⟨s', hs', ht⟩ := run_cons_some.mp ht
      exact hrest s' hs' before rest t htail ht

/-- A run stays good exactly as long as its steps meet the condition, when under the invariant it is
the steps that break the condition that lead out of the good states. -/
theorem always_iff_along {I G : σ → Prop} {P : σ → ε → Prop}
    (hstep : ∀ s e s', I s → step s e = some s' → I s')
    (hgood : ∀ s e s', I s → G s → step s e = some s' → (G s' ↔ P s e))
    (henabled : ∀ s e, I s → G s → ¬ P s e → (step s e).isSome)
    {s : σ} (hI : I s) (hG : G s) (es : List ε) : Always step G s es ↔ Along step P s es := by
  induction es generalizing s with
  | nil => exact always_nil.trans (iff_of_true hG trivial)
  | cons e es ih =>
    rw [always_cons, Along, and_iff_right hG]
    constructor
    · intro h
      have hP : P s e := by
        by_contra hnot
        obtain ⟨s', hs'⟩ := Option.isSome_iff_exists.mp (henabled s e hI hG hnot)
        have hG' : G s' := h s' hs' [] es s' rfl rfl
        exact hnot ((hgood s e s' hI hG hs').mp hG')
      refine ⟨hP, fun s' hs' => ?_⟩
      exact (ih (hstep s e s' hI hs') ((hgood s e s' hI hG hs').mpr hP)).mp (h s' hs')
    · rintro ⟨hP, hrest⟩ s' hs'
      exact (ih (hstep s e s' hI hs') ((hgood s e s' hI hG hs').mpr hP)).mpr (hrest s' hs')

/-- The same for a run that goes through to its end. -/
theorem always_iff_along_of_run {I G : σ → Prop} {P : σ → ε → Prop}
    (hstep : ∀ s e s', I s → step s e = some s' → I s')
    (hgood : ∀ s e s', I s → G s → step s e = some s' → (G s' ↔ P s e))
    {s t : σ} {es : List ε} (hI : I s) (hG : G s) (hrun : run step s es = some t) :
    Always step G s es ↔ Along step P s es := by
  induction es generalizing s with
  | nil => exact always_nil.trans (iff_of_true hG trivial)
  | cons e es ih =>
    obtain ⟨s', hs', ht⟩ := run_cons_some.mp hrun
    have hiff := hgood s e s' hI hG hs'
    rw [always_cons, and_iff_right hG]
    constructor
    · intro h
      have hG' : G s' := h s' hs' [] es s' rfl rfl
      exact along_cons (hiff.mp hG') hs' ((ih (hstep s e s' hI hs') hG' ht).mp (h s' hs'))
    · rintro ⟨hP, hrest⟩ s'' hs''
      cases hs'.symm.trans hs''
      have hG' : G s' := hiff.mpr hP
      exact (ih (hstep s e s' hI hs') hG' ht).mpr (hrest s' hs')

/-! ## What is observed on a run -/

section Trace

variable {β : Type*}

/-- What `f` reads off the steps of the run, one after the other. -/
def trace (step : σ → ε → Option σ) (f : σ → ε → List β) : σ → List ε → List β
  | _, [] => []
  | s, e :: es =>
    f s e ++ match step s e with
      | none => []
      | some s' => trace step f s' es

theorem trace_cons {f : σ → ε → List β} {s s' : σ} {e : ε} (h : step s e = some s')
    (es : List ε) : trace step f s (e :: es) = f s e ++ trace step f s' es := by
  rw [trace, h]

theorem trace_cons_none {f : σ → ε → List β} {s : σ} {e : ε} (h : step s e = none)
    (es : List ε) : trace step f s (e :: es) = f s e := by
  rw [trace, h, List.append_nil]

/-- What holds of everything observed holds of what each step shows. -/
theorem forall_mem_trace {f : σ → ε → List β} {P : β → Prop} {s : σ} {es : List ε} :
    (∀ x ∈ trace step f s es, P x) ↔ Along step (fun s e => ∀ x ∈ f s e, P x) s es := by
  induction es generalizing s with
  | nil => simp [trace, Along]
  | cons e es ih =>
    rw [Along]
    cases hs : step s e with
    | none => simp [trace_cons_none hs]
    | some s' =>
      rw [trace_cons hs, List.forall_mem_append, ih]
      simp

/-- The invariant rule for an invariant that mentions what was observed so far. -/
theorem run_inv_observed {f : σ → ε → List β} {I : σ → List β → Prop} {P : σ → ε → Prop}
    (hstep : ∀ s bs e s', I s bs → P s e → step s e = some s' → I s' (bs ++ f s e))
    {s t : σ} {bs : List β} {es : List ε} (hs : I s bs) (hP : Along step P s es)
    (hrun : run step s es = some t) : I t (bs ++ trace step f s es) := by
  induction es generalizing s bs with
  | nil => cases hrun; simpa [trace] using hs
  | cons e es ih =>
    obtain ⟨s', hs', ht⟩ := run_cons_some.mp hrun
    have hrest := ih (hstep s bs e s' hs hP.1 hs') (hP.2 s' hs') ht
    rwa [List.append_assoc, ← trace_cons hs'] at hrest

end Trace

end Run
