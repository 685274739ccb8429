import Mathlib.Data.List.Basic

/-!
# Advisory record locks

The locks of `fcntl(F_SETLK)` that processes have on the whole of one file. Several processes
may read-lock it together, a write lock keeps every other process out. A request that
conflicts is refused at once; closing the file and the end of a process take the locks of
that process away.
-/

namespace RecordLock

/-- `F_RDLCK` and `F_WRLCK`. -/
inductive LockType where
  | rdlck
  | wrlck
  deriving DecidableEq, Repr

/-- The locks on a file, each with its owner. No lock stands beside the write lock of another
process. -/
structure Locks (P : Type*) where
  held : List (P × LockType)
  exclusive : ∀ a ∈ held, a.2 = .wrlck → ∀ b ∈ held, b.1 = a.1

namespace Locks

variable {P : Type*}

/-- The process has a lock. -/
def Holds (l : Locks P) (p : P) : Prop := ∃ type, (p, type) ∈ l.held

/-- A file that was locked for writing. -/
def ofWriter (p : P) : Locks P := ⟨[(p, .wrlck)], by simp⟩

/-- A lock of this type can be given beside the locks of the other processes. -/
def Grants (l : Locks P) (p : P) (type : LockType) : Prop :=
  ∀ b ∈ l.held, b.1 ≠ p → type = .rdlck ∧ b.2 = .rdlck

/-- Where nobody has a lock, every lock is given. -/
theorem grants_of_free {l : Locks P} (h : l.held = []) (p : P) (type : LockType) :
    l.Grants p type := by
  intro b hb
  rw [h] at hb
  cases hb

/-- The write lock of another process refuses every lock. -/
theorem not_grants_of_writer {l : Locks P} {p q : P} (hq : (q, LockType.wrlck) ∈ l.held)
    (hne : q ≠ p) (type : LockType) : ¬ l.Grants p type := by
  intro h
  cases (h _ hq hne).2

/-- Only the owner of a write lock has a lock. -/
theorem holds_eq_of_writer {l : Locks P} {p q : P} (hp : (p, LockType.wrlck) ∈ l.held)
    (hq : l.Holds q) : q = p := by
  obtain ⟨type, hmem⟩ := hq
  exact l.exclusive _ hp rfl _ hmem

variable [DecidableEq P]

instance (l : Locks P) (p : P) (type : LockType) : Decidable (l.Grants p type) :=
  inferInstanceAs (Decidable (∀ b ∈ l.held, b.1 ≠ p → type = .rdlck ∧ b.2 = .rdlck))

/-- The locks without those of the process. -/
def release (l : Locks P) (p : P) : Locks P where
  held := l.held.filter (·.1 ≠ p)
  exclusive := by
    intro a ha hwrite b hb
    exact l.exclusive a (List.mem_of_mem_filter ha) hwrite b (List.mem_of_mem_filter hb)

/-- `fcntl(F_SETLK)`: the lock in place of the one the process had, or none when it is refused. -/
def setlk (l : Locks P) (p : P) (type : LockType) : Option (Locks P) :=
  if h : l.Grants p type then
    some
      { held := (p, type) :: l.held.filter (·.1 ≠ p)
        exclusive := by
          have hother : ∀ b ∈ l.held.filter (·.1 ≠ p), type = .rdlck ∧ b.2 = .rdlck := by
            intro b hb
            obtain ⟨hmem, hne⟩ := List.mem_filter.mp hb
            exact h b hmem (by simpa using hne)
          intro a ha hwrite b hb
          rcases List.mem_cons.mp ha with rfl | ha
          · rcases List.mem_cons.mp hb with rfl | hb
            · rfl
            · cases (hother b hb).1.symm.trans hwrite
          · cases (hother a ha).2.symm.trans hwrite }
  else Option.none

@[simp] theorem held_release (l : Locks P) (p : P) :
    (l.release p).held = l.held.filter (·.1 ≠ p) := rfl

theorem setlk_of_grants {l : Locks P} {p : P} {type : LockType} (h : l.Grants p type) :
    ∃ l', l.setlk p type = some l' ∧ l'.held = (p, type) :: l.held.filter (·.1 ≠ p) := by
  refine ⟨_, dif_pos h, rfl⟩

theorem setlk_of_not_grants {l : Locks P} {p : P} {type : LockType} (h : ¬ l.Grants p type) :
    l.setlk p type = Option.none :=
  dif_neg h

end Locks

end RecordLock
