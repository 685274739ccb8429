import Rapidapp.Misc.RecordLock
import Rapidapp.Framework.Signals

/-!
# Restarting a running instance

A process started with `--restart` asks for the pid of the running one, sends it `SIGUSR1` and
goes on with `InitNormalMode` (`framework/rapidapp_framework_imp.cpp:742-756`), whose
`SetPidFile` wants the lock on the pid file. The running one leaves its loop in a later
`Tick`, and its lock goes with the process. The new process does not wait for that: when it
comes to `SetPidFile` first it gives up, and the old one stops all the same.
-/

namespace Rapidapp

open RecordLock

/-- A pid file: its locks, and the number in its first line, none when it is empty. -/
structure PidFile where
  locks : Locks Int
  content : Option Int

namespace PidFile

/-- `AppFrameWork::SetPidFile` (`rapidapp_framework_imp.cpp:319-357`) from `F_SETLK` on. -/
def setPidFile (pid : Int) (f : PidFile) : Int × PidFile :=
  match f.locks.setlk pid .wrlck with
  | none => (-1, f)
  | some locks => (0, ⟨locks, some pid⟩)

/-- What `GetRunningPid` reads in a file that is locked (`rapidapp_framework_imp.cpp:390-400`). -/
def readPid (f : PidFile) : Int := f.content.getD (-1)

/-- The process closes the file, or ends. -/
def release (pid : Int) (f : PidFile) : PidFile := { f with locks := f.locks.release pid }

end PidFile

namespace Restart

/-- Where the new process stands. In `GetRunningPid` (`rapidapp_framework_imp.cpp:359-401`) at
`F_SETLK`, behind it with the read lock, behind it without; in `Init` at `kill`; in
`InitNormalMode` at `F_SETLK` of `SetPidFile`; behind `SetPidFile` with the lock; where it has
given up because `SetPidFile` was refused; or ended otherwise. -/
inductive RestartPoint where
  | getRunningPid
  | readLocked
  | fgets
  | kill (runningPid : Int)
  | setPidFile
  | serving
  | gaveUp
  | exited
  deriving DecidableEq

/-- The pids of the two processes. -/
structure Pids where
  old : Int
  new : Int
  pos : 0 < old
  ne : old ≠ new

/-- The two processes and the pid file. Ghost: `oldTold` says that the old process was sent a
stop signal. -/
structure State where
  file : PidFile
  old : Signals.State
  oldAlive : Bool
  oldTold : Bool
  point : RestartPoint

/-- The old process works, the new one calls `GetRunningPid`. -/
def start (pids : Pids) (old : Signals.State) : State where
  file := ⟨.ofWriter pids.old, some pids.old⟩
  old := old
  oldAlive := true
  oldTold := false
  point := .getRunningPid

/-- The old process takes a step of its loop or gets a signal from elsewhere, or ends after its
loop; the new one takes its next step, or one of the steps that are not modelled fails. -/
inductive Event where
  | old (e : Signals.Event)
  | oldExits
  | new
  | newFails
  deriving DecidableEq

/-- `kill(runningPid, SIGUSR1)`. -/
def State.kill (pids : Pids) (runningPid : Int) (s : State) : State :=
  if runningPid = pids.old ∧ s.oldAlive = true then
    { s with old := (Signals.step s.old .stopSignal).getD s.old, oldTold := true }
  else s

/-- The next step of the new process. -/
def State.newStep (pids : Pids) (s : State) : Option State :=
  match s.point with
  | .getRunningPid =>
    match s.file.locks.setlk pids.new .rdlck with
    | some locks => some { s with file := { s.file with locks := locks }, point := .readLocked }
    | none => some { s with point := .fgets }
  | .readLocked => some { s with file := s.file.release pids.new, point := .setPidFile }
  | .fgets =>
    some { s with
      point := if s.file.readPid = -1 then .exited
        else if s.file.readPid ≠ 0 then .kill s.file.readPid else .setPidFile }
  | .kill runningPid => some { s.kill pids runningPid with point := .setPidFile }
  | .setPidFile =>
    let r := s.file.setPidFile pids.new
    some { s with file := r.2, point := if r.1 ≠ 0 then .gaveUp else .serving }
  | .serving => some { s with file := s.file.release pids.new, point := .exited }
  | .gaveUp => none
  | .exited => none

/-- One event. -/
def step (pids : Pids) (s : State) : Event → Option State
  | .old e =>
    (Signals.step s.old e).map fun old =>
      { s with old := old, oldTold := s.oldTold || decide (e = .stopSignal) }
  | .oldExits =>
    if s.old.point = .exited ∧ s.oldAlive = true then
      some { s with file := s.file.release pids.old, oldAlive := false }
    else none
  | .new => s.newStep pids
  | .newFails =>
    if s.point = .gaveUp ∨ s.point = .exited then none
    else some { s with file := s.file.release pids.new, point := .exited }

/-! ## What a restart promises -/

/-- At most one process has a lock on the pid file. -/
def State.OneHolder (s : State) : Prop :=
  ∀ p q, s.file.locks.Holds p → s.file.locks.Holds q → p = q

/-- The new process has given up because of the lock, and the old one was told to stop. -/
def State.Stranded (s : State) : Prop := s.point = .gaveUp ∧ s.oldTold = true

/-- In every state of the run there is at most one holder, and the restart is not stranded. -/
def Safe (pids : Pids) (old : Signals.State) (es : List Event) : Prop :=
  Run.Always (step pids) (fun s => s.OneHolder ∧ ¬ s.Stranded) (start pids old) es

/-- When the new process asks for the lock in `SetPidFile`, the old one has ended. -/
def InTime (s : State) (e : Event) : Prop :=
  e = .new → s.point = .setPidFile → s.oldAlive = false

/-! ## The invariant -/

/-- The locks the new process has. -/
def RestartPoint.locks (pids : Pids) : RestartPoint → List (Int × LockType)
  | .readLocked => [(pids.new, .rdlck)]
  | .serving => [(pids.new, .wrlck)]
  | _ => []

/-- What holds whatever the two processes do. -/
structure Inv (pids : Pids) (s : State) : Prop where
  alone : s.oldAlive = true → s.file.locks.held = [(pids.old, .wrlck)]
  ended : s.oldAlive = false → s.file.locks.held = s.point.locks pids
  apart : s.oldAlive = true → s.point.locks pids = []
  content : s.point = .getRunningPid ∨ s.point = .fgets → s.file.content = some pids.old
  pid : ∀ runningPid, s.point = .kill runningPid → runningPid = pids.old
  told : s.point = .setPidFile → s.oldAlive = true → s.oldTold = true
  gaveUp : s.point = .gaveUp → s.oldTold = true

variable {pids : Pids} {s s' : State}

theorem inv_start (pids : Pids) (old : Signals.State) : Inv pids (start pids old) where
  alone _ := rfl
  ended h := by cases h
  apart _ := rfl
  content _ := rfl
  pid _ h := by cases h
  told h := by cases h
  gaveUp h := by cases h

/-- A new process without a lock changes nothing for the locks. -/
theorem Inv.release_new (h : Inv pids s) :
    (s.oldAlive = true → (s.file.release pids.new).locks.held = [(pids.old, .wrlck)]) ∧
      (s.oldAlive = false → (s.file.release pids.new).locks.held = []) := by
  constructor
  · intro halive
    simp [PidFile.release, h.alone halive, pids.ne]
  · intro hended
    rw [PidFile.release, Locks.held_release, h.ended hended]
    cases s.point <;> simp [RestartPoint.locks]

theorem Inv.old_writes (h : Inv pids s) (halive : s.oldAlive = true) :
    (pids.old, LockType.wrlck) ∈ s.file.locks.held := by
  rw [h.alone halive]
  exact List.mem_singleton_self _

/-- While the old process is there, the new one is refused; after its end the new one gets every
lock. -/
theorem Inv.setlk (h : Inv pids s) (hpoint : s.point.locks pids = []) (type : LockType) :
    (s.oldAlive = true ∧ s.file.locks.setlk pids.new type = none) ∨
      (s.oldAlive = false ∧ ∃ locks, s.file.locks.setlk pids.new type = some locks ∧
        locks.held = [(pids.new, type)]) := by
  cases halive : s.oldAlive with
  | true =>
    refine .inl ⟨rfl, Locks.setlk_of_not_grants ?_⟩
    exact Locks.not_grants_of_writer (h.old_writes halive) pids.ne type
  | false =>
    have hfree : s.file.locks.held = [] := (h.ended halive).trans hpoint
    obtain ⟨locks, hset, hheld⟩ := Locks.setlk_of_grants (Locks.grants_of_free hfree pids.new type)
    refine .inr ⟨rfl, locks, hset, ?_⟩
    rw [hheld, hfree]
    rfl

/-- What one step of the new process does, from where it stands and with the old process there or
ended. -/
inductive NewStep (pids : Pids) (s : State) : State → Prop
  | readRefused (hpoint : s.point = .getRunningPid) (halive : s.oldAlive = true) :
    NewStep pids s { s with point := .fgets }
  | readLock {locks : Locks Int} (hpoint : s.point = .getRunningPid) (hended : s.oldAlive = false)
      (hheld : locks.held = [(pids.new, .rdlck)]) :
    NewStep pids s { s with file := { s.file with locks := locks }, point := .readLocked }
  | readUnlock (hpoint : s.point = .readLocked) (hended : s.oldAlive = false) :
    NewStep pids s { s with file := s.file.release pids.new, point := .setPidFile }
  | readPid (hpoint : s.point = .fgets) : NewStep pids s { s with point := .kill pids.old }
  | kill {runningPid : Int} (hpoint : s.point = .kill runningPid) (halive : s.oldAlive = true) :
    NewStep pids s { s with
      old := (Signals.step s.old .stopSignal).getD s.old, oldTold := true, point := .setPidFile }
  | killNobody {runningPid : Int} (hpoint : s.point = .kill runningPid)
      (hended : s.oldAlive = false) : NewStep pids s { s with point := .setPidFile }
  | giveUp (hpoint : s.point = .setPidFile) (halive : s.oldAlive = true) :
    NewStep pids s { s with point := .gaveUp }
  | serve {locks : Locks Int} (hpoint : s.point = .setPidFile) (hended : s.oldAlive = false)
      (hheld : locks.held = [(pids.new, .wrlck)]) :
    NewStep pids s { s with file := ⟨locks, some pids.new⟩, point := .serving }
  | exit (hpoint : s.point = .serving) :
    NewStep pids s { s with file := s.file.release pids.new, point := .exited }

theorem Inv.newStep_cases (h : Inv pids s) (hs : s.newStep pids = some s') :
    NewStep pids s s' := by
  rw [State.newStep] at hs
  cases hpoint : s.point with
  | getRunningPid =>
    have hnone : s.point.locks pids = [] := by rw [hpoint]; rfl
    simp only [hpoint] at hs
    obtain ⟨halive, hset⟩ | ⟨hended, locks, hset, hheld⟩ := h.setlk hnone .rdlck
    · rw [hset] at hs
      cases hs
      exact .readRefused hpoint halive
    · rw [hset] at hs
      cases hs
      exact .readLock hpoint hended hheld
  | readLocked =>
    simp only [hpoint, Option.some.injEq] at hs
    subst hs
    refine .readUnlock hpoint ?_
    -- the read lock was given, so the old process had ended
    by_contra halive
    have hnone := h.apart (Bool.of_not_eq_false halive)
    simp [hpoint, RestartPoint.locks] at hnone
  | fgets =>
    have hread : s.file.readPid = pids.old := by
      rw [PidFile.readPid, h.content (.inr hpoint)]
      rfl
    have hpos := pids.pos
    simp only [hpoint, hread, Option.some.injEq] at hs
    rw [if_neg (by omega), if_pos (by omega)] at hs
    subst hs
    exact .readPid hpoint
  | kill runningPid =>
    obtain rfl := h.pid runningPid hpoint
    simp only [hpoint, Option.some.injEq, State.kill, true_and] at hs
    by_cases halive : s.oldAlive = true
    · rw [if_pos halive] at hs
      subst hs
      exact .kill hpoint halive
    · rw [if_neg halive] at hs
      subst hs
      exact .killNobody hpoint (eq_false_of_ne_true halive)
  | setPidFile =>
    have hnone : s.point.locks pids = [] := by rw [hpoint]; rfl
    simp only [hpoint, PidFile.setPidFile, Option.some.injEq] at hs
    obtain ⟨halive, hset⟩ | ⟨hended, locks, hset, hheld⟩ := h.setlk hnone .wrlck
    · simp only [hset] at hs
      subst hs
      exact .giveUp hpoint halive
    · simp only [hset] at hs
      subst hs
      exact .serve hpoint hended hheld
  | serving =>
    simp only [hpoint, Option.some.injEq] at hs
    subst hs
    exact .exit hpoint
  | gaveUp => simp [hpoint] at hs
  | exited => simp [hpoint] at hs

/-- A step of the new process. -/
theorem Inv.newStep (h : Inv pids s) (hs : s.newStep pids = some s') : Inv pids s' := by
  cases h.newStep_cases hs with
  | readRefused hpoint halive =>
    have hcontent := h.content (.inl hpoint)
    refine ⟨h.alone, fun hended => ?_, fun _ => rfl, fun _ => hcontent, nofun, nofun, nofun⟩
    simp [halive] at hended
  | readLock _ hended hheld =>
    refine ⟨fun halive => ?_, fun _ => hheld, fun halive => ?_, by simp, nofun, nofun, nofun⟩
    · simp [hended] at halive
    · simp [hended] at halive
  | readUnlock hpoint hended =>
    refine ⟨h.release_new.1, h.release_new.2, fun _ => rfl, by simp, nofun, fun _ halive => ?_, nofun⟩
    simp [hended] at halive
  | readPid hpoint =>
    refine ⟨h.alone, fun hended => ?_, fun _ => rfl, by simp, ?_, nofun, nofun⟩
    · rw [h.ended hended, hpoint]
      rfl
    · intro runningPid hp
      cases hp
      rfl
  | kill _ halive =>
    refine ⟨h.alone, fun hended => ?_, fun _ => rfl, by simp, nofun, fun _ _ => rfl, nofun⟩
    simp [halive] at hended
  | killNobody hpoint hended =>
    refine ⟨h.alone, fun _ => ?_, fun _ => rfl, by simp, nofun, fun _ halive => ?_, nofun⟩
    · rw [h.ended hended, hpoint]
      rfl
    · simp [hended] at halive
  | giveUp hpoint halive =>
    have htold := h.told hpoint halive
    refine ⟨h.alone, fun hended => ?_, fun _ => rfl, by simp, nofun, nofun, fun _ => htold⟩
    simp [halive] at hended
  | serve _ hended hheld =>
    refine ⟨fun halive => ?_, fun _ => hheld, fun halive => ?_, by simp, nofun, nofun, nofun⟩
    · simp [hended] at halive
    · simp [hended] at halive
  | exit _ =>
    exact ⟨h.release_new.1, h.release_new.2, fun _ => rfl, by simp, nofun, nofun, nofun⟩

theorem Inv.step (h : Inv pids s) {e : Event} (hs : step pids s e = some s') : Inv pids s' := by
  cases e with
  | old e =>
    obtain ⟨old, _, rfl⟩ := Option.map_eq_some_iff.mp hs
    refine ⟨h.alone, h.ended, h.apart, h.content, h.pid, fun hpoint halive => ?_, fun hpoint => ?_⟩
    · simp [h.told hpoint halive]
    · simp [h.gaveUp hpoint]
  | oldExits =>
    rw [Restart.step] at hs
    split_ifs at hs with hexit
    cases hs
    have halone := h.alone hexit.2
    refine ⟨nofun, fun _ => ?_, nofun, h.content, h.pid, nofun, h.gaveUp⟩
    simp [PidFile.release, halone, h.apart hexit.2]
  | new => exact h.newStep hs
  | newFails =>
    rw [Restart.step] at hs
    split_ifs at hs
    cases hs
    refine ⟨h.release_new.1, h.release_new.2, fun _ => rfl, ?_, nofun, nofun, nofun⟩
    rintro (hp | hp) <;> cases hp

/-! ## The two promises -/

/-- Whatever the two processes do, only one of them has a lock. -/
theorem Inv.oneHolder (h : Inv pids s) : s.OneHolder := by
  have howner : ∃ owner, ∀ p, s.file.locks.Holds p → p = owner := by
    cases halive : s.oldAlive with
    | true => exact ⟨pids.old, fun p hp => Locks.holds_eq_of_writer (h.old_writes halive) hp⟩
    | false =>
      refine ⟨pids.new, ?_⟩
      rintro p ⟨type, hmem⟩
      rw [h.ended halive] at hmem
      cases hpoint : s.point <;> simp_all [RestartPoint.locks]
  obtain ⟨owner, hall⟩ := howner
  intro p q hp hq
  exact (hall p hp).trans (hall q hq).symm

/-- Giving up strands the restart: the old process was told to stop before. -/
theorem Inv.stranded_iff (h : Inv pids s) : s.Stranded ↔ s.point = .gaveUp :=
  ⟨And.left, fun hpoint => ⟨hpoint, h.gaveUp hpoint⟩⟩

/-- The new process gives up exactly when it comes to `SetPidFile` while the old one is there. -/
theorem Inv.gaveUp_iff (h : Inv pids s) (hpoint : s.point ≠ .gaveUp) {e : Event}
    (hs : Restart.step pids s e = some s') : s'.point = .gaveUp ↔ ¬ InTime s e := by
  cases e with
  | old e =>
    obtain ⟨old, _, rfl⟩ := Option.map_eq_some_iff.mp hs
    simp [InTime, hpoint]
  | oldExits =>
    rw [Restart.step] at hs
    split_ifs at hs
    cases hs
    simp [InTime, hpoint]
  | newFails =>
    rw [Restart.step] at hs
    split_ifs at hs
    cases hs
    simp [InTime]
  | new =>
    cases h.newStep_cases hs with
    | giveUp hset halive => simp [InTime, hset, halive]
    | readRefused hset _ => simp [InTime, hset]
    | readUnlock hset _ => simp [InTime, hset]
    | readPid hset => simp [InTime, hset]
    | killNobody hset _ => simp [InTime, hset]
    | readLock hset _ _ => simp [InTime, hset]
    | kill hset _ => simp [InTime, hset]
    | exit hset => simp [InTime, hset]
    | serve _ hended _ => simp [InTime, hended]

/-- A restart is safe exactly when the old process has ended whenever the new one comes to
`SetPidFile`. -/
theorem safe_iff (pids : Pids) (old : Signals.State) (es : List Event) :
    Safe pids old es ↔ Run.Along (step pids) InTime (start pids old) es := by
  have hgood : ∀ s, Inv pids s → ((s.OneHolder ∧ ¬ s.Stranded) ↔ s.point ≠ .gaveUp) := by
    intro s h
    rw [h.stranded_iff, and_iff_right h.oneHolder]
  refine Run.always_iff_along (I := Inv pids) (fun s e s' h hs => h.step hs) ?_ ?_
    (inv_start pids old) ⟨(inv_start pids old).oneHolder, nofun⟩ es
  · intro s e s' h hG hs
    rw [hgood s' (h.step hs), Ne, h.gaveUp_iff ((hgood s h).mp hG) hs, not_not]
  · intro s e h hG hnot
    have hnew : e = .new ∧ s.point = .setPidFile := by
      rw [InTime, Classical.not_imp, Classical.not_imp] at hnot
      exact ⟨hnot.1, hnot.2.1⟩
    rw [hnew.1, step, State.newStep]
    simp [hnew.2]

/-! ## A restart that strands -/

/-- An instance that waits for the next event, and the process that is to replace it. -/
def running : Signals.State := { Signals.start with point := .dispatch, running := true }

def twoPids : Pids := ⟨1234, 1300, by decide, by decide⟩

/-- The new process goes straight on to `SetPidFile`; then comes the next `Tick` of the old one, which
leaves its loop and ends. -/
def hasty : List Event :=
  [.new, .new, .new, .new, .old .next, .old .next, .old .next, .old .next, .old .next, .old .next,
    .oldExits]

/-- The new process has given up, the old one has ended, and nobody serves. -/
theorem hasty_strands :
    ¬ Safe twoPids running hasty ∧
      ∃ s, Run.run (step twoPids) (start twoPids running) hasty = some s ∧
        s.oldAlive = false ∧ s.point = .gaveUp ∧ ∀ p, ¬ s.file.locks.Holds p := by
  constructor
  · intro hsafe
    have hgaveUp : (Run.run (step twoPids) (start twoPids running) (hasty.take 4)).map
        (fun s => (s.point, s.oldTold)) = some (.gaveUp, true) := by decide
    obtain ⟨s, hs, hpoint⟩ := Option.map_eq_some_iff.mp hgaveUp
    have hfour := hsafe (hasty.take 4) (hasty.drop 4) s (List.take_append_drop 4 hasty).symm hs
    exact hfour.2 ⟨congrArg Prod.fst hpoint, congrArg Prod.snd hpoint⟩
  · have hend : (Run.run (step twoPids) (start twoPids running) hasty).map
        (fun s => (s.oldAlive, s.point, s.file.locks.held)) = some (false, .gaveUp, []) := by
      decide
    obtain ⟨s, hs, heq⟩ := Option.map_eq_some_iff.mp hend
    obtain ⟨halive, hpoint, hheld⟩ :
        s.oldAlive = false ∧ s.point = .gaveUp ∧ s.file.locks.held = [] := by
      simpa using heq
    refine ⟨s, hs, halive, hpoint, ?_⟩
    rintro p ⟨type, hmem⟩
    rw [hheld] at hmem
    cases hmem

end Restart

end Rapidapp
