import Mathlib.Data.List.Basic
import Mathlib.Tactic.Cases
import Rapidapp.Misc.Run

/-!
# Signals and the flags running_ and reloading_

`signal_stop_handler` and `signal_reload_handler` (`framework/rapidapp_framework_imp.h:166-172`)
may run between any two steps of the program once `InitSignalHandle`
(`framework/rapidapp_framework_imp.cpp:119-139`) has installed them. They set a flag that
`Tick` looks at (`:846-863`); `MainLoop` (`:834-844`) and `Tick` assign the same flags. A stop
request is lost when it comes before `MainLoop` sets `running_`, a reload request when it comes
during `Reload`.
-/

namespace Rapidapp

namespace Signals

/-- Where the program stands: in `Init` after `InitSignalHandle`, or in `RapidApp::OnInit`; at
`running_ = true` in `MainLoop`; in `event_base_dispatch`; in `Tick` at `if (!running_)`, at
`event_base_loopbreak`, at `if (reloading_)`, at the call of `Reload`, inside of it, at
`reloading_ = false`, or further on; behind `event_base_dispatch`. -/
inductive ProgramPoint where
  | init
  | mainLoop
  | dispatch
  | tick
  | loopbreak
  | ifReloading
  | callReload
  | reload
  | reloaded
  | restOfTick
  | exited
  deriving DecidableEq

/-- One evaluation of a condition of `Tick`: whether a request was waiting, and whether the
condition answered it. -/
structure Check where
  requested : Bool
  answered : Bool
  deriving DecidableEq

/-- The two flags, and whether `event_base_loopbreak` was called. Ghost: a stop signal has come; a
reload signal has come since `Reload` last began; the checks `Tick` has made. -/
structure State where
  point : ProgramPoint
  running : Bool
  reloading : Bool
  loopBroken : Bool
  stopRequested : Bool
  reloadRequested : Bool
  checks : List Check
  deriving DecidableEq

/-- When `InitSignalHandle` returns. -/
def start : State where
  point := .init
  running := false
  reloading := false
  loopBroken := false
  stopRequested := false
  reloadRequested := false
  checks := []

/-- A signal is delivered, `Init` or `OnInit` fails, or the program takes its next step. -/
inductive Event where
  | stopSignal
  | reloadSignal
  | initFails
  | next
  deriving DecidableEq

/-- `Tick` evaluates a condition. -/
def State.check (s : State) (requested answered : Bool) : State :=
  { s with checks := s.checks ++ [⟨requested, answered⟩] }

/-- The next step of the program. -/
def State.next (s : State) : Option State :=
  match s.point with
  | .init => some { s with point := .mainLoop }
  | .mainLoop => some { s with point := .dispatch, running := true }
  | .dispatch => some { s with point := if s.loopBroken then .exited else .tick }
  | .tick => some { s.check s.stopRequested !s.running with
      point := if s.running then .ifReloading else .loopbreak }
  | .loopbreak => some { s with point := .ifReloading, loopBroken := true }
  | .ifReloading => some { s.check s.reloadRequested s.reloading with
      point := if s.reloading then .callReload else .restOfTick }
  | .callReload => some { s with point := .reload, reloadRequested := false }
  | .reload => some { s with point := .reloaded }
  | .reloaded => some { s with point := .restOfTick, reloading := false }
  | .restOfTick => some { s with point := .dispatch }
  | .exited => none

/-- One event. -/
def step (s : State) : Event → Option State
  | .stopSignal =>
    if s.point = .exited then none else some { s with running := false, stopRequested := true }
  | .reloadSignal =>
    if s.point = .exited then none
    else some { s with reloading := true, reloadRequested := true }
  | .initFails => if s.point = .init then some { s with point := .exited } else none
  | .next => s.next

/-- No request is lost so far: the flag of a request that waits is set, and whenever `Tick`
looked while one was waiting it saw it. -/
structure NoneLost (s : State) : Prop where
  stop : s.stopRequested = true → s.running = false
  reload : s.reloadRequested = true → s.reloading = true
  seen : ∀ c ∈ s.checks, c.requested = true → c.answered = true

/-- `MainLoop` has not set `running_` yet. -/
def ProgramPoint.BeforeLoop (point : ProgramPoint) : Prop := point = .init ∨ point = .mainLoop

/-- `Reload` has begun and `reloading_` is not reset yet. -/
def ProgramPoint.Reloading (point : ProgramPoint) : Prop := point = .reload ∨ point = .reloaded

/-- No stop signal comes before `MainLoop` has set `running_`, and no reload signal between the
beginning of `Reload` and `reloading_ = false`. -/
def Timely (s : State) : Event → Prop
  | .stopSignal => ¬ s.point.BeforeLoop
  | .reloadSignal => ¬ s.point.Reloading
  | _ => True

/-- What holds as long as the signals come in time: nothing is lost, and nothing waits where the
program is about to assign a flag. -/
structure Inv (s : State) : Prop where
  noneLost : NoneLost s
  noStop : s.point.BeforeLoop → s.stopRequested = false
  noReload : s.point.Reloading → s.reloadRequested = false

theorem inv_start : Inv start where
  noneLost := ⟨nofun, nofun, by simp [start]⟩
  noStop _ := rfl
  noReload _ := rfl

theorem NoneLost.check {s : State} (h : NoneLost s) {requested answered : Bool}
    (hc : requested = true → answered = true) : NoneLost (s.check requested answered) where
  stop := h.stop
  reload := h.reload
  seen := by
    intro c hmem
    rcases List.mem_append.mp hmem with hold | hnew
    · exact h.seen c hold
    · rw [List.mem_singleton.mp hnew]
      exact hc

/-- Only the assignments to the flags could lose a request. -/
theorem Inv.next {s s' : State} (h : Inv s) (hs : s.next = some s') : Inv s' := by
  rw [State.next] at hs
  cases hpoint : s.point with
  | init =>
    simp only [hpoint, Option.some.injEq] at hs
    subst hs
    exact ⟨⟨h.noneLost.stop, h.noneLost.reload, h.noneLost.seen⟩,
      fun _ => h.noStop (.inl hpoint), by rintro (hp | hp) <;> cases hp⟩
  | mainLoop =>
    simp only [hpoint, Option.some.injEq] at hs
    subst hs
    have hnostop := h.noStop (.inr hpoint)
    refine ⟨⟨fun hstop => ?_, h.noneLost.reload, h.noneLost.seen⟩, ?_, ?_⟩
    · exact absurd (hnostop.symm.trans hstop) Bool.false_ne_true
    · rintro (hp | hp) <;> cases hp
    · rintro (hp | hp) <;> cases hp
  | dispatch =>
    simp only [hpoint, Option.some.injEq] at hs
    subst hs
    refine ⟨⟨h.noneLost.stop, h.noneLost.reload, h.noneLost.seen⟩, ?_, ?_⟩ <;> rintro (hp | hp) <;>
      cases hbroken : s.loopBroken <;> simp [hbroken] at hp
  | tick =>
    simp only [hpoint, Option.some.injEq] at hs
    subst hs
    have hcheck : NoneLost (s.check s.stopRequested !s.running) :=
      h.noneLost.check fun hstop => by rw [h.noneLost.stop hstop]; rfl
    refine ⟨⟨hcheck.stop, hcheck.reload, hcheck.seen⟩, ?_, ?_⟩ <;> rintro (hp | hp) <;>
      cases hrunning : s.running <;> simp [hrunning] at hp
  | loopbreak =>
    simp only [hpoint, Option.some.injEq] at hs
    subst hs
    refine ⟨⟨h.noneLost.stop, h.noneLost.reload, h.noneLost.seen⟩, ?_, ?_⟩ <;> rintro (hp | hp) <;>
      cases hp
  | ifReloading =>
    simp only [hpoint, Option.some.injEq] at hs
    subst hs
    have hcheck : NoneLost (s.check s.reloadRequested s.reloading) :=
      h.noneLost.check h.noneLost.reload
    refine ⟨⟨hcheck.stop, hcheck.reload, hcheck.seen⟩, ?_, ?_⟩ <;> rintro (hp | hp) <;>
      cases hreloading : s.reloading <;> simp [hreloading] at hp
  | callReload =>
    simp only [hpoint, Option.some.injEq] at hs
    subst hs
    refine ⟨⟨h.noneLost.stop, nofun, h.noneLost.seen⟩, ?_, fun _ => rfl⟩
    rintro (hp | hp) <;> cases hp
  | reload =>
    simp only [hpoint, Option.some.injEq] at hs
    subst hs
    refine ⟨⟨h.noneLost.stop, h.noneLost.reload, h.noneLost.seen⟩, ?_,
      fun _ => h.noReload (.inl hpoint)⟩
    rintro (hp | hp) <;> cases hp
  | reloaded =>
    simp only [hpoint, Option.some.injEq] at hs
    subst hs
    have hnoreload := h.noReload (.inr hpoint)
    refine ⟨⟨h.noneLost.stop, fun hreload => ?_, h.noneLost.seen⟩, ?_, ?_⟩
    · exact absurd (hnoreload.symm.trans hreload) Bool.false_ne_true
    · rintro (hp | hp) <;> cases hp
    · rintro (hp | hp) <;> cases hp
  | restOfTick =>
    simp only [hpoint, Option.some.injEq] at hs
    subst hs
    refine ⟨⟨h.noneLost.stop, h.noneLost.reload, h.noneLost.seen⟩, ?_, ?_⟩ <;> rintro (hp | hp) <;>
      cases hp
  | exited =>
    simp only [hpoint] at hs
    cases hs

theorem Inv.step {s s' : State} (h : Inv s) {e : Event} (he : Timely s e)
    (hs : Signals.step s e = some s') : Inv s' := by
  cases e with
  | stopSignal =>
    rw [Signals.step] at hs
    split_ifs at hs
    cases hs
    exact ⟨⟨fun _ => rfl, h.noneLost.reload, h.noneLost.seen⟩, fun hp => absurd hp he, h.noReload⟩
  | reloadSignal =>
    rw [Signals.step] at hs
    split_ifs at hs
    cases hs
    exact ⟨⟨h.noneLost.stop, fun _ => rfl, h.noneLost.seen⟩, h.noStop, fun hp => absurd hp he⟩
  | initFails =>
    rw [Signals.step] at hs
    split_ifs at hs
    cases hs
    refine ⟨⟨h.noneLost.stop, h.noneLost.reload, h.noneLost.seen⟩, ?_, ?_⟩ <;> rintro (hp | hp) <;>
      cases hp
  | next => exact h.next hs

/-- Nothing is lost after any part of the run, nor while the program goes on from there without
further signals. -/
def KeepsRequests (s₀ : State) (es : List Event) : Prop :=
  ∀ before rest k s, es = before ++ rest →
    Run.run step s₀ (before ++ List.replicate k .next) = some s → NoneLost s

theorem KeepsRequests.tail {s₀ s : State} {e : Event} {es : List Event}
    (h : KeepsRequests s₀ (e :: es)) (hs : step s₀ e = some s) : KeepsRequests s es := by
  intro before rest k t hes ht
  exact h (e :: before) rest k t (congrArg (e :: ·) hes)
    (Run.run_cons_some.mpr ⟨s, hs, ht⟩)

/-- After a signal at the wrong time the program, left alone, comes to the assignment that loses
it. -/
theorem KeepsRequests.head {s : State} {e : Event} {es : List Event}
    (h : KeepsRequests s (e :: es)) : Timely s e := by
  have hlost : ∀ k t, Run.run step s (e :: List.replicate k .next) = some t → NoneLost t :=
    fun k t => h [e] es k t rfl
  cases e with
  | stopSignal =>
    rintro (hp | hp)
    · have hstop := (hlost 2 _ (by simp [Run.run, step, State.next, hp]; rfl)).stop
      cases hstop rfl
    · have hstop := (hlost 1 _ (by simp [Run.run, step, State.next, hp]; rfl)).stop
      cases hstop rfl
  | reloadSignal =>
    rintro (hp | hp)
    · have hreload := (hlost 2 _ (by simp [Run.run, step, State.next, hp]; rfl)).reload
      cases hreload rfl
    · have hreload := (hlost 1 _ (by simp [Run.run, step, State.next, hp]; rfl)).reload
      cases hreload rfl
  | initFails => trivial
  | next => trivial

/-- In every run no request is lost exactly when the signals come in time. -/
theorem keepsRequests_run (es : List Event) :
    KeepsRequests start es ↔ Run.Along step Timely start es := by
  constructor
  · generalize start = s₀
    intro h
    induction es generalizing s₀ with
    | nil => trivial
    | cons e es ih => exact ⟨h.head, fun s hs => ih s (h.tail hs)⟩
  · intro h before rest k s hes hs
    subst hes
    have hbefore := (Run.along_append.mp h).1
    have hnext : ∀ t, Run.Along step Timely t (List.replicate k .next) :=
      Run.along_of_forall fun e he _ => by rw [List.eq_of_mem_replicate he]; trivial
    have halong := Run.along_append.mpr ⟨hbefore, fun t _ => hnext t⟩
    have hinv : Inv s := Run.run_inv (I := Inv) (P := Timely)
      (fun s e s' hs he hstep => hs.step he hstep) inv_start halong hs
    exact hinv.noneLost

/-- A stop signal during `OnInit` is overwritten by `MainLoop`, a reload signal during `OnReload`
by the end of the `Tick` that runs it. -/
theorem requests_lost :
    ¬ KeepsRequests start [.stopSignal] ∧
    ¬ KeepsRequests start [.next, .next, .reloadSignal, .next, .next, .next, .next,
      .reloadSignal] := by
  constructor
  · intro h
    cases (h [.stopSignal] [] 2 _ rfl rfl).stop rfl
  · intro h
    cases (h [.next, .next, .reloadSignal, .next, .next, .next, .next, .reloadSignal] [] 2 _
      rfl rfl).reload rfl

/-! ## What a request that is not lost leads to -/

/-- Left alone, the program comes to this point. -/
def ComesTo (s : State) (points : List ProgramPoint) : Prop :=
  ∃ k t, Run.run step s (List.replicate k .next) = some t ∧ t.point ∈ points

theorem ComesTo.here {s : State} {points : List ProgramPoint} (h : s.point ∈ points) :
    ComesTo s points :=
  ⟨0, s, rfl, h⟩

theorem ComesTo.next {s t : State} {points : List ProgramPoint} (h : ComesTo t points)
    (hs : s.next = some t) : ComesTo s points := by
  obtain ⟨k, u, hu, hpoint⟩ := h
  exact ⟨k + 1, u, Run.run_cons_some.mpr ⟨t, hs, hu⟩, hpoint⟩

/-- The program comes to the next `Tick`, or out of the loop. -/
theorem comesTo_tick (s : State) : ComesTo s [.tick, .exited] := by
  have dispatch : ∀ s : State, s.point = .dispatch → ComesTo s [.tick, .exited] := by
    intro s hs
    apply ComesTo.next (t := { s with point := if s.loopBroken then .exited else .tick })
    · apply ComesTo.here
      cases s.loopBroken <;> simp
    · rw [State.next, hs]
  have restOfTick : ∀ s : State, s.point = .restOfTick → ComesTo s [.tick, .exited] :=
    fun s hs => (dispatch { s with point := .dispatch } rfl).next (by rw [State.next, hs])
  have reloaded : ∀ s : State, s.point = .reloaded → ComesTo s [.tick, .exited] :=
    fun s hs => (restOfTick { s with point := .restOfTick, reloading := false } rfl).next
      (by rw [State.next, hs])
  have reload : ∀ s : State, s.point = .reload → ComesTo s [.tick, .exited] :=
    fun s hs => (reloaded { s with point := .reloaded } rfl).next (by rw [State.next, hs])
  have callReload : ∀ s : State, s.point = .callReload → ComesTo s [.tick, .exited] :=
    fun s hs => (reload { s with point := .reload, reloadRequested := false } rfl).next
      (by rw [State.next, hs])
  have ifReloading : ∀ s : State, s.point = .ifReloading → ComesTo s [.tick, .exited] := by
    intro s hs
    cases hreloading : s.reloading with
    | true =>
      apply (callReload { s.check s.reloadRequested true with point := .callReload } rfl).next
      simp [State.next, hs, hreloading]
    | false =>
      apply (restOfTick { s.check s.reloadRequested false with point := .restOfTick } rfl).next
      simp [State.next, hs, hreloading]
  have mainLoop : ∀ s : State, s.point = .mainLoop → ComesTo s [.tick, .exited] :=
    fun s hs => (dispatch { s with point := .dispatch, running := true } rfl).next
      (by rw [State.next, hs])
  cases hpoint : s.point with
  | init =>
    exact (mainLoop { s with point := .mainLoop } rfl).next (by rw [State.next, hpoint])
  | mainLoop => exact mainLoop s hpoint
  | dispatch => exact dispatch s hpoint
  | tick => exact .here (by simp [hpoint])
  | loopbreak =>
    exact (ifReloading { s with point := .ifReloading, loopBroken := true } rfl).next
      (by rw [State.next, hpoint])
  | ifReloading => exact ifReloading s hpoint
  | callReload => exact callReload s hpoint
  | reload => exact reload s hpoint
  | reloaded => exact reloaded s hpoint
  | restOfTick => exact restOfTick s hpoint
  | exited => exact .here (by simp [hpoint])

/-- A `Tick` that begins while a reload request waits runs `Reload`. -/
theorem tick_reloads {s : State} (h : NoneLost s) (hpoint : s.point = .tick)
    (hreload : s.reloadRequested = true) : ComesTo s [.reload] := by
  have hreloading := h.reload hreload
  have ifReloading : ∀ s : State, s.point = .ifReloading → s.reloading = true →
      ComesTo s [.reload] := by
    intro s hs hreloading
    have hreload : ComesTo { s.check s.reloadRequested true with
        point := .reload, reloadRequested := false } [.reload] := .here (by simp)
    apply ComesTo.next (t := { s.check s.reloadRequested true with point := .callReload })
    · exact hreload.next rfl
    · simp [State.next, hs, hreloading]
  cases hrunning : s.running with
  | true =>
    apply (ifReloading { s.check s.stopRequested false with point := .ifReloading } rfl
      hreloading).next
    simp [State.next, hpoint, hrunning]
  | false =>
    apply ComesTo.next (t := { s.check s.stopRequested true with point := .loopbreak })
    · exact (ifReloading { s.check s.stopRequested true with
        point := .ifReloading, loopBroken := true } rfl hreloading).next rfl
    · simp [State.next, hpoint, hrunning]

/-- A `Tick` that begins after a stop request breaks the loop. -/
theorem tick_stops {s : State} (h : NoneLost s) (hpoint : s.point = .tick)
    (hstop : s.stopRequested = true) : ComesTo s [.loopbreak] := by
  apply ComesTo.next (t := { s.check true true with point := .loopbreak })
  · exact .here (by simp)
  · simp [State.next, hpoint, hstop, h.stop hstop]

end Signals

end Rapidapp
