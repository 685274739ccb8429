import Rapidapp.Framework.FrameRuns

/-!
# Package and traffic limits per frame

`max_pkg_speed` and `max_traffic_speed` are numbers per frame
(`framework/rapidapp_framework_imp.cpp:22-23`). `OnFrontEndMsg` raises the counters of a
connection, `DoSomething` (`1596-1645`) compares them with the limits and sets them back; but
a `Tick` need not come to every connection, and what it passes over keeps its counters for
the next frame.
-/

namespace Rapidapp

variable {σ γ : Type}

/-- Which limit `DoSomething` finds exceeded. -/
inductive CloseReason where
  | idle
  | pkgSpeed
  | trafficSpeed
  deriving DecidableEq

namespace World

/-- The limit for which `DoSomething` has the connection closed. -/
def closeReason (setting : Setting) (now : Int) (n : EasyNet γ) : Option CloseReason :=
  if 0 < setting.maxIdle ∧ setting.maxIdle < now - n.lastActiveTimestamp then some .idle
  else if 0 < setting.maxPkgSpeed ∧
      setting.maxPkgSpeed < CInt.uint64 (n.currPkgCount - n.prevPkgCount) then some .pkgSpeed
  else if 0 < setting.maxTrafficSpeed ∧
      setting.maxTrafficSpeed < CInt.uint64 (n.currTrafficBytes - n.prevTrafficBytes) then
    some .trafficSpeed
  else none

theorem doSomething_fst (setting : Setting) (now : Int) (n : EasyNet γ) :
    (doSomething setting now n).1 = (closeReason setting now n).isSome := by
  unfold doSomething closeReason
  dsimp only
  split_ifs <;> rfl

theorem closeReason_pkgSpeed {setting : Setting} {now : Int} {n : EasyNet γ}
    (h : closeReason setting now n = some .pkgSpeed) :
    0 < setting.maxPkgSpeed ∧
      setting.maxPkgSpeed < CInt.uint64 (n.currPkgCount - n.prevPkgCount) := by
  unfold closeReason at h
  split_ifs at h with _ hpkg <;> first | exact hpkg | cases h

theorem closeReason_trafficSpeed {setting : Setting} {now : Int} {n : EasyNet γ}
    (h : closeReason setting now n = some .trafficSpeed) :
    0 < setting.maxTrafficSpeed ∧
      setting.maxTrafficSpeed < CInt.uint64 (n.currTrafficBytes - n.prevTrafficBytes) := by
  unfold closeReason at h
  split_ifs at h with _ _ htraffic <;> first | exact htraffic | cases h

/-- A `Tick` closes a connection exactly when its walk comes to it and a limit is exceeded. -/
theorem nets_tick_eq_none {w : World σ γ} (h : Ok w) (hin : w.frontendHandlerMgr.PointsInside)
    (now : Int) (setting : Setting) {p : NetPtr} {n : EasyNet γ} (hn : w.heap.nets p = some n) :
    (w.tick now setting).heap.nets p = none ↔
      w.Reaches kSingleRoundLoopNum p ∧ (closeReason setting now n).isSome := by
  have hnow : Onward w { w with now := now } :=
    .of_similar h (.of_eq rfl fun side => by cases side <;> rfl) hin
  rw [tick]
  split_ifs with hlimit
  · have hwalk := walkedOver_walkThrough (harmless_doSomething (γ := γ) setting now).hevent
      hnow.ok hnow.inside
    by_cases hreach : w.Reaches kSingleRoundLoopNum p
    · rw [hwalk.reached hreach hn, checked, doSomething_fst, and_iff_right hreach]
      cases closeReason setting now n <;> simp
    · rw [hwalk.others hreach, hn]
      simp [hreach]
  · have hnone : closeReason setting now n = none := by
      rw [not_or, not_or] at hlimit
      rw [closeReason, if_neg fun hidle => hlimit.1 hidle.1, if_neg fun hpkg => hlimit.2.1 hpkg.1,
        if_neg fun htraffic => hlimit.2.2 htraffic.1]
    simp [hn, hnone]

/-- What `DoSomething` leaves in the counters of a connection it does not have closed. -/
structure Reset (setting : Setting) (n m : EasyNet γ) : Prop where
  prevPkg : n.prevPkgCount = 0 → m.prevPkgCount = 0
  prevTraffic : n.prevTrafficBytes = 0 → m.prevTrafficBytes = 0
  currPkg : 0 < setting.maxPkgSpeed → m.currPkgCount = 0
  currTraffic : 0 < setting.maxTrafficSpeed → m.currTrafficBytes = 0

theorem reset_doSomething (setting : Setting) (now : Int) (n : EasyNet γ)
    (h : (doSomething setting now n).1 = false) :
    Reset setting n (doSomething setting now n).2 := by
  revert h
  unfold doSomething
  dsimp only
  split_ifs with _ _ hpkg _ htraffic _ htraffic
  all_goals
    intro h
    first
      | exact absurd h.symm Bool.false_ne_true
      | constructor <;> simp_all

end World

namespace FrameRun

/-- Whichever `Tick` comes next: where its walk closes a connection for package or traffic speed,
there was a frame in which more packages or bytes than the limit were received on it. -/
def SpeedJustified (app : FrontEndApp σ γ) (setting : Setting) (s : FrameRun σ γ) : Prop :=
  ∀ now code p n,
    let w := s.world.atWalk app now code
    w.Reaches kSingleRoundLoopNum p → w.heap.nets p = some n →
      (World.closeReason setting now n = some .pkgSpeed →
        ∃ ds ∈ s.frames, setting.maxPkgSpeed < pkgsOf ds p) ∧
      (World.closeReason setting now n = some .trafficSpeed →
        ∃ ds ∈ s.frames, setting.maxTrafficSpeed < bytesOf ds p)

/-- The walk of a `Tick` comes to every connection on which something was counted. -/
def ReachesCounted (app : FrontEndApp σ γ) (setting : Setting) (s : FrameRun σ γ) :
    FrameEvent → Prop
  | .tick now code =>
    let w := s.world.atWalk app now code
    ∀ p < w.heap.nextNet, ∀ n ∈ w.heap.nets p,
      (0 < setting.maxPkgSpeed ∧ n.currPkgCount ≠ 0 ∨
        0 < setting.maxTrafficSpeed ∧ n.currTrafficBytes ≠ 0) →
      w.Reaches kSingleRoundLoopNum p
  | .connect .. | .arrive .. | .socketEvent .. | .code _ => True

instance (app : FrontEndApp σ γ) (setting : Setting) (s : FrameRun σ γ) :
    ∀ e, Decidable (ReachesCounted app setting s e)
  | .tick now code => inferInstanceAs (Decidable (
    ∀ p < (s.world.atWalk app now code).heap.nextNet,
      ∀ n ∈ (s.world.atWalk app now code).heap.nets p,
        (0 < setting.maxPkgSpeed ∧ n.currPkgCount ≠ 0 ∨
          0 < setting.maxTrafficSpeed ∧ n.currTrafficBytes ≠ 0) →
        (s.world.atWalk app now code).Reaches kSingleRoundLoopNum p))
  | .connect .. | .arrive .. | .socketEvent .. | .code _ => isTrue trivial

/-- The counters say no more than what was received in the current frame. -/
structure Tallied (setting : Setting) (w : World σ γ) (ds : List Dispatch) : Prop where
  prevPkg : ∀ p, w.count (·.prevPkgCount) p = 0
  prevTraffic : ∀ p, w.count (·.prevTrafficBytes) p = 0
  currPkg : 0 < setting.maxPkgSpeed → ∀ p, w.count (·.currPkgCount) p ≤ pkgsOf ds p
  currTraffic : 0 < setting.maxTrafficSpeed → ∀ p, w.count (·.currTrafficBytes) p ≤ bytesOf ds p

theorem Tallied.counted {setting : Setting} {w w' : World σ γ} {ds ds' : List Dispatch}
    (h : Tallied setting w ds) (hc : World.Counted (pkgsOf ds') (bytesOf ds') w w') :
    Tallied setting w' (ds ++ ds') where
  prevPkg p := Nat.le_zero.mp ((hc.prevPkg p).trans (h.prevPkg p).le)
  prevTraffic p := Nat.le_zero.mp ((hc.prevTraffic p).trans (h.prevTraffic p).le)
  currPkg hlimit p := by
    rw [pkgsOf_append]
    exact (hc.currPkg p).trans (Nat.add_le_add_right (h.currPkg hlimit p) _)
  currTraffic hlimit p := by
    rw [bytesOf_append]
    exact (hc.currTraffic p).trans (Nat.add_le_add_right (h.currTraffic hlimit p) _)

theorem Tallied.quiet {setting : Setting} {w w' : World σ γ} {ds : List Dispatch}
    (h : Tallied setting w ds) (hc : World.Counted 0 0 w w') : Tallied setting w' ds := by
  have hall : Tallied setting w' (ds ++ []) :=
    h.counted (hc.mono (fun _ => Nat.zero_le _) fun _ => Nat.zero_le _)
  rwa [List.append_nil] at hall

theorem tallied_start (app : σ) (fate : Nat → Bool) (frontRecv backRecv : RapBuffer)
    (svcMode : SvcMode) (now : Int) (setting : Setting) :
    Tallied setting (start (γ := γ) app fate frontRecv backRecv svcMode now).world [] :=
  ⟨fun _ => rfl, fun _ => rfl, fun _ _ => le_rfl, fun _ _ => le_rfl⟩

/-- A counter is zero after a walk, where the check sets it back and what the walk passes over
did not count. -/
theorem count_walked {setting : Setting} {now : Int} {k : Nat} {w w' : World σ γ} (h : w.Ok)
    (hwalk : World.WalkedOver (World.doSomething setting now) k w w') {f : EasyNet γ → Nat}
    {p : NetPtr}
    (hreset : ∀ {n m}, w.heap.nets p = some n → World.Reset setting n m → f m = 0)
    (hpassed : ∀ {n}, w.heap.nets p = some n → ¬ w.Reaches k p → f n = 0) :
    w'.count f p = 0 := by
  by_cases hreach : w.Reaches k p
  · have ⟨fd, _, hp⟩ := hreach
    obtain ⟨n, b, e, hl, _⟩ := h.frontEntry hp
    rw [World.count, hwalk.reached hreach hl.net, World.checked]
    cases hkick : (World.doSomething setting now n).1 with
    | true => rfl
    | false => exact hreset hl.net (World.reset_doSomething setting now n hkick)
  · rw [World.count, hwalk.others hreach]
    cases hn : w.heap.nets p with
    | none => rfl
    | some n => exact hpassed hn hreach

/-- A `Tick` that comes to every connection on which something was counted begins the next frame
with nothing counted. -/
theorem tallied_tick {setting : Setting} {w : World σ γ} (h : w.Ok)
    (hin : w.frontendHandlerMgr.PointsInside) {ds : List Dispatch} (ht : Tallied setting w ds)
    (now : Int)
    (hreach : ∀ p < w.heap.nextNet, ∀ n ∈ w.heap.nets p,
      (0 < setting.maxPkgSpeed ∧ n.currPkgCount ≠ 0 ∨
        0 < setting.maxTrafficSpeed ∧ n.currTrafficBytes ≠ 0) →
      w.Reaches kSingleRoundLoopNum p) :
    Tallied setting (w.tick now setting) [] := by
  have hprev : ∀ {p n}, w.heap.nets p = some n → n.prevPkgCount = 0 ∧ n.prevTrafficBytes = 0 := by
    intro p n hn
    have hpkg := ht.prevPkg p
    have htraffic := ht.prevTraffic p
    rw [World.count_of_some hn] at hpkg htraffic
    exact ⟨hpkg, htraffic⟩
  have hnow : World.Onward w { w with now := now } :=
    .of_similar h (.of_eq rfl fun side => by cases side <;> rfl) hin
  rw [World.tick]
  split_ifs with hlimit
  · have hwalk := World.walkedOver_walkThrough
      (World.harmless_doSomething (γ := γ) setting now).hevent hnow.ok hnow.inside
    have hcurr : ∀ {p n}, w.heap.nets p = some n → ¬ w.Reaches kSingleRoundLoopNum p →
        ¬ (0 < setting.maxPkgSpeed ∧ n.currPkgCount ≠ 0 ∨
          0 < setting.maxTrafficSpeed ∧ n.currTrafficBytes ≠ 0) :=
      fun hn hpassed hcounted => hpassed (hreach _ (h.heap.netLt hn) _ hn hcounted)
    refine ⟨fun p => ?_, fun p => ?_, fun hpkg p => ?_, fun htraffic p => ?_⟩
    · exact count_walked hnow.ok hwalk (fun hn hr => hr.prevPkg (hprev hn).1) fun hn _ => (hprev hn).1
    · exact count_walked hnow.ok hwalk (fun hn hr => hr.prevTraffic (hprev hn).2)
        fun hn _ => (hprev hn).2
    · refine (count_walked hnow.ok hwalk (fun _ hr => hr.currPkg hpkg) fun hn hpassed => ?_).le
      by_contra hcounted
      exact hcurr hn hpassed (.inl ⟨hpkg, hcounted⟩)
    · refine (count_walked hnow.ok hwalk (fun _ hr => hr.currTraffic htraffic) fun hn hpassed => ?_).le
      by_contra hcounted
      exact hcurr hn hpassed (.inr ⟨htraffic, hcounted⟩)
  · exact ⟨ht.prevPkg, ht.prevTraffic, fun hpkg => absurd (.inr (.inl hpkg)) hlimit,
      fun htraffic => absurd (.inr (.inr htraffic)) hlimit⟩

theorem Sound.tallied_step [Inhabited γ] {app : FrontEndApp σ γ} {setting : Setting}
    {s s' : FrameRun σ γ} (h : s.Sound) (ht : Tallied setting s.world s.monitor.handed)
    {e : FrameEvent} (hreach : ReachesCounted app setting s e)
    (hs : FrameRun.step app setting s e = some s') :
    Tallied setting s'.world s'.monitor.handed := by
  obtain ⟨now, code, rfl⟩ | ⟨_, ds, hhanded, hcounted⟩ := (step_spec h hs).2
  · have hwalk := quiet_atWalk h.ok h.inside app now code
    obtain rfl := Option.some.inj hs
    exact tallied_tick hwalk.1.ok hwalk.1.inside (ht.quiet hwalk.2) now hreach
  · rw [hhanded]
    exact ht.counted hcounted

/-- A speed the check finds above the limit is one of the current frame. -/
theorem Sound.speedJustified {app : FrontEndApp σ γ} {setting : Setting} {s : FrameRun σ γ}
    (h : s.Sound) (ht : Tallied setting s.world s.monitor.handed) :
    SpeedJustified app setting s := by
  intro now code p n w _ hn
  have hwalk := ht.quiet (quiet_atWalk h.ok h.inside app now code).2
  have hlast : s.monitor.handed ∈ s.frames := List.mem_append_right _ List.mem_cons_self
  have hlimit : ∀ {limit : Int} {curr prev counted : Nat}, prev = 0 → curr ≤ counted →
      limit < CInt.uint64 (curr - prev) → limit < counted := by
    intro limit curr prev counted hprev hcurr hlt
    have hle := CInt.uint64_le curr
    subst hprev
    rw [Nat.cast_zero, sub_zero] at hlt
    omega
  refine ⟨fun hreason => ⟨_, hlast, ?_⟩, fun hreason => ⟨_, hlast, ?_⟩⟩
  · obtain ⟨hpos, hlt⟩ := World.closeReason_pkgSpeed hreason
    have hprev := hwalk.prevPkg p
    have hcurr := hwalk.currPkg hpos p
    rw [World.count_of_some hn] at hprev hcurr
    exact hlimit hprev hcurr hlt
  · obtain ⟨hpos, hlt⟩ := World.closeReason_trafficSpeed hreason
    have hprev := hwalk.prevTraffic p
    have hcurr := hwalk.currTraffic hpos p
    rw [World.count_of_some hn] at hprev hcurr
    exact hlimit hprev hcurr hlt

/-- Where every walk comes to all connections on which something was counted, a connection is
closed for package or traffic speed only when a frame had more packages or bytes than the limit. -/
theorem speedJustified_run [Inhabited γ] (app : FrontEndApp σ γ) (setting : Setting) (appData : σ)
    (fate : Nat → Bool) (frontRecv backRecv : RapBuffer) (svcMode : SvcMode) (now : Int)
    (ops : List FrameEvent) (s : FrameRun σ γ)
    (hreach : Run.Along (step app setting) (ReachesCounted app setting)
      (start appData fate frontRecv backRecv svcMode now) ops)
    (hrun : Run.run (step app setting) (start appData fate frontRecv backRecv svcMode now) ops =
      some s) : SpeedJustified app setting s := by
  have hinv := Run.run_inv
    (I := fun s : FrameRun σ γ => s.Sound ∧ Tallied setting s.world s.monitor.handed)
    (fun s e s' h hp hs => ⟨h.1.step hs, h.1.tallied_step h.2 hp hs⟩)
    ⟨sound_start appData fate frontRecv backRecv svcMode now,
      tallied_start appData fate frontRecv backRecv svcMode now setting⟩ hreach hrun
  exact hinv.1.speedJustified hinv.2

/-- A frontend under a limit of one package and ten bytes a frame: a frame with one package, then
one with two, which the next `Tick` finds too many. -/
theorem speedJustified_twoPkgs : ∃ s : FrameRun (List (List UInt8)) Unit,
    Run.run (step .recorder ⟨-1, 1, 10⟩) (start [] (fun _ => true) .small .small .normal 0)
      [.connect 7 true true, .tick 1 0, .arrive .frontEnd 0 [0, 0, 0, 5, 1], .tick 2 0,
        .arrive .frontEnd 0 [0, 0, 0, 5, 2, 0, 0, 0, 5, 3]] = some s ∧
      (s.world.heap.nets 0).map (World.closeReason ⟨-1, 1, 10⟩ 3) = some (some .pkgSpeed) ∧
      SpeedJustified .recorder ⟨-1, 1, 10⟩ s := by
  have hreason : (Run.run (step .recorder ⟨-1, 1, 10⟩)
      (start (γ := Unit) [] (fun _ => true) .small .small .normal 0)
      [.connect 7 true true, .tick 1 0, .arrive .frontEnd 0 [0, 0, 0, 5, 1], .tick 2 0,
        .arrive .frontEnd 0 [0, 0, 0, 5, 2, 0, 0, 0, 5, 3]]).map (fun s =>
          (s.world.heap.nets 0).map (World.closeReason ⟨-1, 1, 10⟩ 3)) =
        some (some (some .pkgSpeed)) := by decide +kernel
  obtain ⟨s, hrun, hs⟩ := Option.map_eq_some_iff.mp hreason
  exact ⟨s, hrun, hs, speedJustified_run .recorder ⟨-1, 1, 10⟩ [] (fun _ => true) .small .small
    .normal 0 _ s (by decide +kernel) hrun⟩

/-- Under a limit of one package a frame: the first `Tick` begins with the cursor at `end()` and
checks nothing, so one package before it and one after it are two for the next. -/
theorem speedLimit_two_frames : ∃ s : FrameRun (List (List UInt8)) Unit,
    Run.run (step .recorder ⟨-1, 1, -1⟩) (start [] (fun _ => true) .small .small .normal 0)
      [.connect 7 true true, .arrive .frontEnd 0 [0, 0, 0, 5, 1], .tick 1 0,
        .arrive .frontEnd 0 [0, 0, 0, 5, 2]] = some s ∧
      s.frames.map (pkgsOf · 0) = [1, 1] ∧
      (s.world.atWalk .recorder 2 0).Reaches kSingleRoundLoopNum 0 ∧
      ((s.world.atWalk .recorder 2 0).heap.nets 0).map (World.closeReason ⟨-1, 1, -1⟩ 2) =
        some (some .pkgSpeed) ∧
      ¬ SpeedJustified .recorder ⟨-1, 1, -1⟩ s := by
  have hall : (Run.run (step .recorder ⟨-1, 1, -1⟩)
      (start (γ := Unit) [] (fun _ => true) .small .small .normal 0)
      [.connect 7 true true, .arrive .frontEnd 0 [0, 0, 0, 5, 1], .tick 1 0,
        .arrive .frontEnd 0 [0, 0, 0, 5, 2]]).map (fun s =>
          (s.frames.map (pkgsOf · 0),
            decide ((s.world.atWalk .recorder 2 0).Reaches kSingleRoundLoopNum 0),
            ((s.world.atWalk .recorder 2 0).heap.nets 0).map
              (World.closeReason ⟨-1, 1, -1⟩ 2))) =
        some ([1, 1], true, some (some .pkgSpeed)) := by decide +kernel
  obtain ⟨s, hrun, hs⟩ := Option.map_eq_some_iff.mp hall
  rw [Prod.mk.injEq, Prod.mk.injEq] at hs
  obtain ⟨hframes, hreach, hreason⟩ := hs
  have hreach := of_decide_eq_true hreach
  refine ⟨s, hrun, hframes, hreach, hreason, fun hjust => ?_⟩
  obtain ⟨n, hn, hspeed⟩ := Option.map_eq_some_iff.mp hreason
  obtain ⟨ds, hds, hlt⟩ := (hjust 2 0 0 n hreach hn).1 hspeed
  have hone : ∀ k ∈ s.frames.map (pkgsOf · 0), k ≤ 1 := by
    rw [hframes]
    decide
  have hle := hone _ (List.mem_map_of_mem hds)
  dsimp only at hlt hle
  omega

end FrameRun

end Rapidapp
