import Rapidapp.Misc.CInt
import Rapidapp.Misc.Run

/-!
# Timers

`framework/rapidapp_easy_timer.{h,cpp}`, `framework/rapidapp_timer_mgr.{h,cpp}` and the timer
loop of `AppFrameWork::Tick` (`framework/rapidapp_framework_imp.cpp:846-897`). The manager keeps
its timers in a vector sorted by the time they are due; `GetNextActiveTimer` steps the first one
and puts it back, whatever the time is, so it has a timer to give as long as there are any, and
the loop of `Tick` that asks for the next one until there is none does not end
(`timerLoop_none`).
-/

namespace Rapidapp

/-- Address of an `EasyTimer`. -/
abbrev TimerPtr := Nat

/-- `class EasyTimer` (`rapidapp_easy_timer.h:9-46`), with its address; `list_idx_` is never
used. -/
structure EasyTimer where
  addr : TimerPtr
  nextActiveTimestamp : Int
  timeStep : Nat
  timerId : Int
  deriving DecidableEq, Repr

namespace EasyTimer

/-- `EasyTimer::Step`: the sum of a `time_t` and a `size_t`, stored as a `time_t`. -/
def step (t : EasyTimer) : EasyTimer :=
  { t with nextActiveTimestamp := CInt.int64 (t.nextActiveTimestamp + t.timeStep) }

/-- `EasyTimer::Start`, where `time(NULL)` is `now`. -/
def start (t : EasyTimer) (now : Int) : EasyTimer :=
  { t with nextActiveTimestamp := CInt.int64 (now + t.timeStep) }

end EasyTimer

/-- `timer_cmp_func` (`rapidapp_timer_mgr.cpp:7-18`). -/
def timerCmpFunc (a b : EasyTimer) : Bool := a.nextActiveTimestamp < b.nextActiveTimestamp

/-- Insert at the `upper_bound` of the timer: behind all those that are not due after it. -/
def insertTimer (timer : EasyTimer) : List EasyTimer → List EasyTimer
  | [] => [timer]
  | t :: ts => if timerCmpFunc timer t then timer :: t :: ts else t :: insertTimer timer ts

/-- The order `upper_bound` relies on. -/
def SortedTimers (ts : List EasyTimer) : Prop :=
  ts.Pairwise fun a b => a.nextActiveTimestamp ≤ b.nextActiveTimestamp

theorem mem_insertTimer {timer t : EasyTimer} {ts : List EasyTimer} :
    t ∈ insertTimer timer ts ↔ t = timer ∨ t ∈ ts := by
  induction ts with
  | nil => simp [insertTimer]
  | cons u us ih =>
    rw [insertTimer]
    split
    · simp
    · simp only [List.mem_cons, ih]
      exact or_left_comm

theorem length_insertTimer (timer : EasyTimer) (ts : List EasyTimer) :
    (insertTimer timer ts).length = ts.length + 1 := by
  induction ts with
  | nil => rfl
  | cons u us ih =>
    rw [insertTimer]
    split
    · rfl
    · rw [List.length_cons, ih, List.length_cons]

theorem sorted_insertTimer {timer : EasyTimer} {ts : List EasyTimer} (h : SortedTimers ts) :
    SortedTimers (insertTimer timer ts) := by
  induction ts with
  | nil => exact List.pairwise_singleton _ _
  | cons u us ih =>
    obtain ⟨hu, hus⟩ := List.pairwise_cons.mp h
    rw [insertTimer]
    by_cases hlt : timer.nextActiveTimestamp < u.nextActiveTimestamp
    · rw [if_pos (by simpa [timerCmpFunc] using hlt)]
      refine List.pairwise_cons.mpr ⟨fun t ht => ?_, h⟩
      rcases List.mem_cons.mp ht with rfl | ht
      · exact le_of_lt hlt
      · exact le_trans (le_of_lt hlt) (hu t ht)
    · rw [if_neg (by simpa [timerCmpFunc] using hlt)]
      refine List.pairwise_cons.mpr ⟨fun t ht => ?_, ih hus⟩
      rcases mem_insertTimer.mp ht with rfl | ht
      · exact not_lt.mp hlt
      · exact hu t ht

/-- `class TimerMgr` (`rapidapp_timer_mgr.h:20-39`); `nextTimer` is the address `new` hands out
next. -/
structure TimerMgr where
  maxTimerNum : Nat
  timerList : List EasyTimer
  nextTimer : TimerPtr
  sorted : SortedTimers timerList

namespace TimerMgr

/-- `TimerMgr::Init`. -/
def init (timerMax : Nat) : TimerMgr where
  maxTimerNum := timerMax
  timerList := []
  nextTimer := 0
  sorted := List.Pairwise.nil

/-- Put a timer in its place. -/
def insert (m : TimerMgr) (timer : EasyTimer) : TimerMgr :=
  { m with
    timerList := insertTimer timer m.timerList
    sorted := sorted_insertTimer m.sorted }

/-- Remove the first timer. -/
def eraseFirst (m : TimerMgr) : TimerMgr :=
  { m with
    timerList := m.timerList.tail
    sorted := m.sorted.tail }

/-- `TimerMgr::GetNextActiveTimer` (`rapidapp_timer_mgr.cpp:48-67`). -/
def getNextActiveTimer (m : TimerMgr) : Option EasyTimer × TimerMgr :=
  match m.timerList with
  | [] => (none, m)
  | curr :: _ => (some curr.step, m.eraseFirst.insert curr.step)

/-- `TimerMgr::AddTimer` (`rapidapp_timer_mgr.cpp:69-108`) at the time `now`; `newOk` is whether
`new` finds memory. -/
def addTimer (m : TimerMgr) (now : Int) (timeGap : Nat) (timerId : Int) (newOk : Bool) :
    Option EasyTimer × TimerMgr :=
  if timeGap = 0 then (none, m)
  else if m.timerList.length ≥ m.maxTimerNum then (none, m)
  else if newOk then
    let timer := EasyTimer.start ⟨m.nextTimer, 0, timeGap, timerId⟩ now
    (some timer, { m with nextTimer := m.nextTimer + 1 }.insert timer)
  else (none, m)

/-- The number of timers stays, so there is always a next one again. -/
theorem length_getNextActiveTimer (m : TimerMgr) :
    m.getNextActiveTimer.2.timerList.length = m.timerList.length := by
  unfold getNextActiveTimer
  split
  · rfl
  · next curr rest heq =>
    simp only [insert, eraseFirst, heq, List.tail_cons, length_insertTimer, List.length_cons]

end TimerMgr

/-! ## Tick -/

variable {σ : Type}

/-- The callbacks of `Tick`; they create and destroy no timers. -/
structure TickApp (σ : Type) where
  onReload : σ → σ
  onUpdate : σ → σ
  onTimer : EasyTimer → Int → σ → σ
  walkThrough : Int → σ → σ

/-- The state `Tick` works on. `fired` is ghost, the timers handed to `OnTimer` so far. -/
structure TickState (σ : Type) where
  app : σ
  timerMgr : TimerMgr
  now : Int
  running : Bool
  reloading : Bool
  scheduleUpdate : Bool
  loopBreak : Bool
  maxIdle : Int
  maxPkgSpeed : Int
  maxTrafficSpeed : Int
  fired : List TimerPtr

namespace TickState

/-- The loop of `Tick` over the timers (`rapidapp_framework_imp.cpp:874-886`), on fuel. -/
def timerLoop (app : TickApp σ) : Nat → TickState σ → Option (TickState σ)
  | 0, _ => none
  | fuel + 1, s =>
    match s.timerMgr.getNextActiveTimer with
    | (none, m) => some { s with timerMgr := m }
    | (some timer, m) =>
      timerLoop app fuel
        { s with
          timerMgr := m
          app := app.onTimer timer timer.timerId s.app
          fired := s.fired ++ [timer.addr] }

/-- `AppFrameWork::Tick` (`rapidapp_framework_imp.cpp:846-897`) at the time `t`. -/
def tick (app : TickApp σ) (fuel : Nat) (s : TickState σ) (t : Int) : Option (TickState σ) :=
  let s := { s with now := t }
  let s := if !s.running then { s with loopBreak := true } else s
  let s := if s.reloading then { s with app := app.onReload s.app, reloading := false } else s
  let s := if s.scheduleUpdate then { s with app := app.onUpdate s.app } else s
  match timerLoop app fuel s with
  | none => none
  | some s =>
    if s.maxIdle > 0 ∨ s.maxPkgSpeed > 0 ∨ s.maxTrafficSpeed > 0 then
      some { s with app := app.walkThrough s.now s.app }
    else some s

/-- With a timer in the list the loop is still running after any number of rounds. -/
theorem timerLoop_none (app : TickApp σ) {s : TickState σ} (h : s.timerMgr.timerList ≠ [])
    (fuel : Nat) : timerLoop app fuel s = none := by
  induction fuel generalizing s with
  | zero => rfl
  | succ fuel ih =>
    have hlen := s.timerMgr.length_getNextActiveTimer
    rw [timerLoop]
    rcases hnext : s.timerMgr.getNextActiveTimer with ⟨next, m⟩
    rw [hnext] at hlen
    cases next with
    | none =>
      unfold TimerMgr.getNextActiveTimer at hnext
      split at hnext
      · contradiction
      · cases hnext
    | some timer =>
      dsimp only
      refine ih fun hnil => h ?_
      rw [show m.timerList = [] from hnil, List.length_nil] at hlen
      exact List.length_eq_zero_iff.mp hlen.symm

/-- Before its loop `Tick` leaves the timers alone. -/
theorem tick_none (app : TickApp σ) {s : TickState σ} (h : s.timerMgr.timerList ≠ [])
    (fuel : Nat) (t : Int) : tick app fuel s t = none := by
  unfold tick
  dsimp only
  rw [timerLoop_none app _ fuel]
  split_ifs <;> exact h

/-- Without a timer the loop ends at once. -/
theorem timerLoop_nil (app : TickApp σ) {s : TickState σ} (h : s.timerMgr.timerList = [])
    (fuel : Nat) : timerLoop app (fuel + 1) s = some s := by
  have hnext : s.timerMgr.getNextActiveTimer = (none, s.timerMgr) := by
    unfold TimerMgr.getNextActiveTimer
    split
    · rfl
    · next curr rest heq => rw [h] at heq; cases heq
  rw [timerLoop, hnext]

/-- Without a timer `Tick` ends, and hands out none. -/
theorem tick_nil (app : TickApp σ) {s : TickState σ} (h : s.timerMgr.timerList = []) (t : Int) :
    ∃ s', tick app 1 s t = some s' ∧ s'.timerMgr.timerList = [] ∧ s'.fired = s.fired := by
  unfold tick
  dsimp only
  rw [timerLoop_nil app (by split_ifs <;> exact h) 0]
  dsimp only
  refine ⟨_, apply_ite some _ _ _ |>.symm, ?_, ?_⟩ <;> split_ifs <;> first | exact h | rfl

end TickState

/-! ## Creating timers, and a sequence of ticks -/

/-- A timer that `AddTimer` created: its address, the time it was started, its step. -/
structure Created where
  addr : TimerPtr
  startTime : Int
  step : Nat
  deriving DecidableEq, Repr

/-- `AddTimer` called for each request `(now, timeGap, timerId)`; the timers it created. -/
def TimerMgr.addTimers (m : TimerMgr) : List (Int × Nat × Int) → List Created × TimerMgr
  | [] => ([], m)
  | (now, timeGap, timerId) :: rest =>
    match m.addTimer now timeGap timerId true with
    | (none, m) => m.addTimers rest
    | (some timer, m) =>
      let (created, m) := m.addTimers rest
      (⟨timer.addr, now, timeGap⟩ :: created, m)

theorem TimerMgr.length_addTimer (m : TimerMgr) (now : Int) (timeGap : Nat) (timerId : Int) :
    (m.addTimer now timeGap timerId true).2.timerList.length =
      m.timerList.length + (m.addTimer now timeGap timerId true).1.toList.length := by
  unfold addTimer
  rw [if_pos rfl]
  split_ifs
  · rfl
  · rfl
  · exact length_insertTimer _ _

/-- Every timer created is in the list. -/
theorem TimerMgr.length_addTimers (m : TimerMgr) (requests : List (Int × Nat × Int)) :
    (m.addTimers requests).2.timerList.length =
      m.timerList.length + (m.addTimers requests).1.length := by
  induction requests generalizing m with
  | nil => rfl
  | cons r rest ih =>
    obtain ⟨now, timeGap, timerId⟩ := r
    have hadd := m.length_addTimer now timeGap timerId
    rw [addTimers]
    rcases hr : m.addTimer now timeGap timerId true with ⟨timer, m'⟩
    rw [hr] at hadd
    cases timer with
    | none => rw [ih, show m'.timerList.length = _ from hadd]; rfl
    | some timer =>
      have hm' : m'.timerList.length = m.timerList.length + 1 := hadd
      simp only [ih, hm', List.length_cons]
      omega

/-- After each `Tick` of the sequence, which ends, every timer created has been handed to
`OnTimer` as often as its step fits between its start and the time of the `Tick`. -/
def FiresOnTime (app : TickApp σ) (s : TickState σ) (created : List Created) (ts : List Int) :
    Prop :=
  ∀ k t, ts[k]? = some t →
    ∃ fuel s', Run.run (TickState.tick app fuel) s (ts.take (k + 1)) = some s' ∧
    ∀ c ∈ created, s'.fired.count c.addr = ((t - c.startTime) / c.step).toNat

/-- The timers fire on time only where there is nothing to do: no timer, or no `Tick`. -/
theorem firesOnTime_iff (app : TickApp σ) (s : TickState σ) (timerMax : Nat)
    (requests : List (Int × Nat × Int)) (ts : List Int) :
    let r := (TimerMgr.init timerMax).addTimers requests
    FiresOnTime app { s with timerMgr := r.2, fired := [] } r.1 ts ↔ r.1 = [] ∨ ts = [] := by
  intro r
  have hlen : r.2.timerList.length = r.1.length := by
    have hadd := (TimerMgr.init timerMax).length_addTimers requests
    rwa [show (TimerMgr.init timerMax).timerList.length = 0 from rfl, Nat.zero_add] at hadd
  constructor
  · intro h
    by_contra hne
    obtain ⟨hcreated, hts⟩ := not_or.mp hne
    obtain ⟨t, rest, rfl⟩ := List.exists_cons_of_ne_nil hts
    have hlist : r.2.timerList ≠ [] := fun hnil =>
      hcreated (List.length_eq_zero_iff.mp (by rw [← hlen, hnil]; rfl))
    obtain ⟨fuel, s', hrun, _⟩ := h 0 t rfl
    rw [List.take_succ_cons, Run.run_cons, TickState.tick_none app hlist] at hrun
    cases hrun
  · rintro (hcreated | rfl)
    · have hlist : r.2.timerList = [] :=
        List.length_eq_zero_iff.mp (by rw [hlen, hcreated]; rfl)
      intro k t _
      have htotal : ∀ (ts : List Int) (s : TickState σ), s.timerMgr.timerList = [] →
          (Run.run (TickState.tick app 1) s ts).isSome := by
        intro ts
        induction ts with
        | nil => exact fun _ _ => rfl
        | cons t ts ih =>
          intro s hs
          obtain ⟨s', htick, hs', _⟩ := TickState.tick_nil app hs t
          rw [Run.run_cons, htick]
          exact ih s' hs'
      obtain ⟨s', hs'⟩ := Option.isSome_iff_exists.mp (htotal (ts.take (k + 1))
        { s with timerMgr := r.2, fired := [] } hlist)
      exact ⟨1, s', hs', by rw [hcreated]; nofun⟩
    · intro k t hk
      cases hk

/-- One timer with a step of 10, started at 0; the `Tick` at 5, before it is due, does not end. -/
theorem single_timer_diverges :
    ¬ FiresOnTime (σ := Unit) ⟨id, id, fun _ _ => id, fun _ => id⟩
      ⟨(), ((TimerMgr.init 16).addTimers [(0, 10, 1)]).2, 0, true, false, false, false, -1, -1, -1,
        []⟩
      ((TimerMgr.init 16).addTimers [(0, 10, 1)]).1 [5] := by
  intro h
  obtain ⟨fuel, s', hrun, _⟩ := h 0 5 rfl
  rw [List.take_succ_cons, Run.run_cons, TickState.tick_none _ (by decide)] at hrun
  cases hrun

end Rapidapp
