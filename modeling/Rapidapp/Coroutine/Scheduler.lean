import Mathlib.Data.List.AList
import Rapidapp.Misc.CInt

/-!
# CoroutineScheduler: the tables

`coroutine/mc_coroutine.{h,cpp}` without the context switches: the coroutine table, the running
id, and what each operation does to them before and after it switches. `α` stands for a
function together with its argument; stacks are left to `Coroutine.Machine`.
-/

namespace Rapidapp

/-- `enum CoroutineState` (`mc_coroutine.h:9-14`). -/
inductive CoroutineState where
  | ready
  | running
  | suspend
  | done
  deriving DecidableEq, Repr

/-- `struct CoroutineCtx` (`mc_coroutine.h:18-26`) without `uctx` and the stack; `yield` is never
used. -/
structure CoroutineCtx (α : Type) where
  idx : Int
  state : CoroutineState
  task : α

/-- `CoroutineTable` (`mc_coroutine.h:28`): `unordered_map<int, COROUTINECTX*>`. -/
abbrev CoroutineTable (α : Type) := AList (fun _ : Int => CoroutineCtx α)

/-- `class CoroutineScheduler` (`mc_coroutine.h:30-77`). `created` counts the coroutines created
so far; the static `int cid_seed` of `CreateCoroutine` is that number as an `int`. -/
structure CoroutineScheduler (α : Type) where
  runningCid : Int
  coroutineMax : Int
  coroutineTable : CoroutineTable α
  created : Nat

/-- `kDefaultCoCurrentNum` (`mc_coroutine.cpp:7`). -/
def kDefaultCoCurrentNum : Int := 10 * 1024

variable {α : Type}

namespace CoroutineScheduler

/-- The constructor with a limit (`mc_coroutine.cpp:15-18`). -/
def init (cocurrentNum : Int) : CoroutineScheduler α where
  runningCid := -1
  coroutineMax := cocurrentNum
  coroutineTable := ∅
  created := 0

/-- The static `cid_seed`, the id of the next coroutine. -/
@[irreducible] def cidSeed (s : CoroutineScheduler α) : Int := CInt.int32 s.created

/-- As long as the count does not run over, the ids are the numbers of the coroutines. -/
theorem cidSeed_eq {s : CoroutineScheduler α} (h : s.created < 2 ^ 31) : s.cidSeed = s.created := by
  unfold cidSeed
  exact CInt.int32_of_range (by omega) (by omega)

/-- The context of a coroutine. -/
def find (s : CoroutineScheduler α) (cid : Int) : Option (CoroutineCtx α) :=
  s.coroutineTable.lookup cid

/-- Store a coroutine's context. -/
def put (s : CoroutineScheduler α) (cid : Int) (ctx : CoroutineCtx α) : CoroutineScheduler α :=
  { s with coroutineTable := s.coroutineTable.insert cid ctx }

/-- Assign a coroutine's state through its context; nothing happens for a freed one. -/
def setState (s : CoroutineScheduler α) (cid : Int) (state : CoroutineState) :
    CoroutineScheduler α :=
  match s.find cid with
  | none => s
  | some ctx => s.put cid { ctx with state := state }

/-- Enter a ready coroutine under the seed (`mc_coroutine.cpp:55-62`). -/
def enroll (s : CoroutineScheduler α) (task : α) : CoroutineScheduler α :=
  { s.put s.cidSeed ⟨s.cidSeed, .ready, task⟩ with created := s.created + 1 }

/-- `CoroutineScheduler::CreateCoroutine` (`mc_coroutine.cpp:35-63`): a null function is `none`,
the table's `size_t` size is compared with an `int`, and `callocOk` is whether `calloc` finds
memory. -/
def createCoroutine (s : CoroutineScheduler α) (task : Option α) (callocOk : Bool) :
    Int × CoroutineScheduler α :=
  match task with
  | none => (-1, s)
  | some task =>
    if s.coroutineTable.entries.length ≥ CInt.uint64 s.coroutineMax then (-2, s)
    else if !callocOk then (-3, s)
    else (s.cidSeed, s.enroll task)

/-- `CoroutineScheduler::DestroyCoroutine` (`mc_coroutine.cpp:65-80`). -/
def destroyCoroutine (s : CoroutineScheduler α) (cid : Int) : CoroutineScheduler α :=
  { s with coroutineTable := s.coroutineTable.erase cid }

/-- What `ResumeCoroutine` sets before it switches to a coroutine (`mc_coroutine.cpp:150-152`,
`159-160`). -/
def enter (s : CoroutineScheduler α) (cid : Int) (ctx : CoroutineCtx α) : CoroutineScheduler α :=
  { s.put cid { ctx with state := .running } with runningCid := ctx.idx }

/-- What `YieldCoroutine` sets before it switches away (`mc_coroutine.cpp:101-102`). -/
def leave (s : CoroutineScheduler α) (cid : Int) (ctx : CoroutineCtx α) : CoroutineScheduler α :=
  { s.put cid { ctx with state := .suspend } with runningCid := -1 }

/-- `YieldCoroutine` as far as the tables go (`mc_coroutine.cpp:82-106`). -/
def yieldCoroutine (s : CoroutineScheduler α) : CoroutineScheduler α :=
  if s.runningCid < 0 then s
  else
    match s.find s.runningCid with
    | none => s
    | some ctx => s.leave s.runningCid ctx

/-- What `ScheduleFunction` sets after the function has returned (`mc_coroutine.cpp:122-123`). -/
def conclude (s : CoroutineScheduler α) (cid : Int) : CoroutineScheduler α :=
  { s.setState cid .done with runningCid := -1 }

/-- The end of `ResumeCoroutine` (`mc_coroutine.cpp:174-177`). -/
def reap (s : CoroutineScheduler α) (cid : Int) : CoroutineScheduler α :=
  match s.find cid with
  | none => s
  | some ctx => if ctx.state = .done then s.destroyCoroutine cid else s

/-- `CoroutineScheduler::CoroutineBeenAlive` (`mc_coroutine.cpp:182-197`). -/
def coroutineBeenAlive (s : CoroutineScheduler α) (cid : Int) : Bool :=
  match s.find cid with
  | none => false
  | some ctx => ctx.state ≠ .done

/-! ## The table after each operation -/

@[simp] theorem find_put_self (s : CoroutineScheduler α) (cid : Int) (ctx : CoroutineCtx α) :
    (s.put cid ctx).find cid = some ctx := AList.lookup_insert _

theorem find_put_ne (s : CoroutineScheduler α) {cid c : Int} (h : c ≠ cid)
    (ctx : CoroutineCtx α) : (s.put cid ctx).find c = s.find c := AList.lookup_insert_ne h

/-- The contexts after one of them was stored. -/
theorem find_put_cases {s : CoroutineScheduler α} {cid c : Int} {ctx d : CoroutineCtx α}
    (h : (s.put cid ctx).find c = some d) : c = cid ∧ d = ctx ∨ c ≠ cid ∧ s.find c = some d := by
  by_cases hcc : c = cid
  · subst hcc
    rw [find_put_self] at h
    exact .inl ⟨rfl, (Option.some.inj h).symm⟩
  · rw [find_put_ne s hcc] at h
    exact .inr ⟨hcc, h⟩

theorem find_enroll_self (s : CoroutineScheduler α) (task : α) :
    (s.enroll task).find s.cidSeed = some ⟨s.cidSeed, .ready, task⟩ :=
  find_put_self s s.cidSeed ⟨s.cidSeed, .ready, task⟩

theorem find_enroll_ne (s : CoroutineScheduler α) {c : Int} (h : c ≠ s.cidSeed) (task : α) :
    (s.enroll task).find c = s.find c :=
  find_put_ne s h ⟨s.cidSeed, .ready, task⟩

theorem find_enter_self (s : CoroutineScheduler α) (cid : Int) (ctx : CoroutineCtx α) :
    (s.enter cid ctx).find cid = some { ctx with state := .running } :=
  find_put_self s cid { ctx with state := .running }

theorem find_enter_ne (s : CoroutineScheduler α) {cid c : Int} (h : c ≠ cid)
    (ctx : CoroutineCtx α) : (s.enter cid ctx).find c = s.find c :=
  find_put_ne s h { ctx with state := .running }

theorem find_leave_self (s : CoroutineScheduler α) (cid : Int) (ctx : CoroutineCtx α) :
    (s.leave cid ctx).find cid = some { ctx with state := .suspend } :=
  find_put_self s cid { ctx with state := .suspend }

theorem find_leave_ne (s : CoroutineScheduler α) {cid c : Int} (h : c ≠ cid)
    (ctx : CoroutineCtx α) : (s.leave cid ctx).find c = s.find c :=
  find_put_ne s h { ctx with state := .suspend }

theorem created_enroll (s : CoroutineScheduler α) (task : α) :
    (s.enroll task).created = s.created + 1 := rfl

theorem created_enter (s : CoroutineScheduler α) (cid : Int) (ctx : CoroutineCtx α) :
    (s.enter cid ctx).created = s.created := rfl

theorem created_leave (s : CoroutineScheduler α) (cid : Int) (ctx : CoroutineCtx α) :
    (s.leave cid ctx).created = s.created := rfl

@[simp] theorem find_destroy_self (s : CoroutineScheduler α) (cid : Int) :
    (s.destroyCoroutine cid).find cid = none := AList.lookup_erase _ _

theorem find_destroy_ne (s : CoroutineScheduler α) {cid c : Int} (h : c ≠ cid) :
    (s.destroyCoroutine cid).find c = s.find c := AList.lookup_erase_ne h

/-- The contexts after one of them was destroyed. -/
theorem find_destroy_some {s : CoroutineScheduler α} {cid c : Int} {d : CoroutineCtx α}
    (h : (s.destroyCoroutine cid).find c = some d) : c ≠ cid ∧ s.find c = some d := by
  by_cases hcc : c = cid
  · subst hcc
    rw [find_destroy_self] at h
    cases h
  · rw [find_destroy_ne s hcc] at h
    exact ⟨hcc, h⟩

theorem find_setState_ne (s : CoroutineScheduler α) {cid c : Int} (h : c ≠ cid)
    (state : CoroutineState) : (s.setState cid state).find c = s.find c := by
  unfold setState
  split
  · rfl
  · exact find_put_ne s h _

theorem find_setState_self (s : CoroutineScheduler α) (cid : Int) (state : CoroutineState) :
    (s.setState cid state).find cid = (s.find cid).map fun ctx => { ctx with state := state } := by
  unfold setState
  cases h : s.find cid with
  | none => rw [h]; rfl
  | some ctx => exact find_put_self _ _ _

/-- The contexts after the state of one of them was set. -/
theorem find_setState_cases {s : CoroutineScheduler α} {cid c : Int} {state : CoroutineState}
    {d : CoroutineCtx α} (h : (s.setState cid state).find c = some d) :
    (∃ d', c = cid ∧ s.find c = some d' ∧ d = { d' with state := state }) ∨
      c ≠ cid ∧ s.find c = some d := by
  by_cases hcc : c = cid
  · subst hcc
    rw [find_setState_self, Option.map_eq_some_iff] at h
    obtain ⟨d', hd', rfl⟩ := h
    exact .inl ⟨d', rfl, hd', rfl⟩
  · rw [find_setState_ne s hcc] at h
    exact .inr ⟨hcc, h⟩

theorem find_reap_ne (s : CoroutineScheduler α) {cid c : Int} (h : c ≠ cid) :
    (s.reap cid).find c = s.find c := by
  unfold reap
  split
  · rfl
  · split
    · exact find_destroy_ne s h
    · rfl

/-- The contexts after one that was done was destroyed. -/
theorem find_reap_some {s : CoroutineScheduler α} {cid c : Int} {d : CoroutineCtx α}
    (h : (s.reap cid).find c = some d) : s.find c = some d := by
  unfold reap at h
  split at h
  · exact h
  · split at h
    · exact (find_destroy_some h).2
    · exact h

@[simp] theorem runningCid_put (s : CoroutineScheduler α) (cid : Int) (ctx : CoroutineCtx α) :
    (s.put cid ctx).runningCid = s.runningCid := rfl

@[simp] theorem runningCid_destroy (s : CoroutineScheduler α) (cid : Int) :
    (s.destroyCoroutine cid).runningCid = s.runningCid := rfl

@[simp] theorem runningCid_reap (s : CoroutineScheduler α) (cid : Int) :
    (s.reap cid).runningCid = s.runningCid := by
  unfold reap
  split
  · rfl
  · split <;> rfl

/-! ## A coroutine from its start to its first yield, and from there to its end -/

/-- The scheduler when a coroutine that was just created has been resumed and has yielded. -/
def started (s : CoroutineScheduler α) (task : α) : CoroutineScheduler α :=
  ((s.enroll task).enter s.cidSeed ⟨s.cidSeed, .ready, task⟩).yieldCoroutine.reap s.cidSeed

/-- The scheduler when a coroutine has been resumed and its function has returned. -/
def finished (s : CoroutineScheduler α) (cid : Int) (ctx : CoroutineCtx α) :
    CoroutineScheduler α :=
  ((s.enter cid ctx).conclude ctx.idx).reap cid

theorem yieldCoroutine_enter (s : CoroutineScheduler α) {cid : Int} (h : 0 ≤ cid)
    (ctx : CoroutineCtx α) (hidx : ctx.idx = cid) :
    (s.enter cid ctx).yieldCoroutine.reap cid =
      (s.enter cid ctx).leave cid { ctx with state := .running } := by
  have hyield : (s.enter cid ctx).yieldCoroutine =
      (s.enter cid ctx).leave cid { ctx with state := .running } := by
    have hrunning : (s.enter cid ctx).runningCid = cid := hidx
    unfold yieldCoroutine
    rw [hrunning, if_neg (not_lt.mpr h), find_enter_self]
  rw [hyield]
  unfold reap
  rw [find_leave_self]
  exact if_neg nofun

theorem started_eq (s : CoroutineScheduler α) (task : α) (h : 0 ≤ s.cidSeed) :
    s.started task =
      ((s.enroll task).enter s.cidSeed ⟨s.cidSeed, .ready, task⟩).leave s.cidSeed
        ⟨s.cidSeed, .running, task⟩ := by
  unfold started
  rw [yieldCoroutine_enter (s.enroll task) h ⟨s.cidSeed, .ready, task⟩ (by dsimp only)]

theorem find_started_self (s : CoroutineScheduler α) (task : α) (h : 0 ≤ s.cidSeed) :
    (s.started task).find s.cidSeed = some ⟨s.cidSeed, .suspend, task⟩ := by
  rw [started_eq s task h, find_leave_self]

theorem find_started_ne (s : CoroutineScheduler α) (task : α) (h : 0 ≤ s.cidSeed) {c : Int}
    (hc : c ≠ s.cidSeed) : (s.started task).find c = s.find c := by
  rw [started_eq s task h, find_leave_ne _ hc, find_enter_ne _ hc, find_enroll_ne s hc]

theorem created_started (s : CoroutineScheduler α) (task : α) (h : 0 ≤ s.cidSeed) :
    (s.started task).created = s.created + 1 := by
  rw [started_eq s task h, created_leave, created_enter, created_enroll]

theorem finished_eq (s : CoroutineScheduler α) {cid : Int} {ctx : CoroutineCtx α}
    (hidx : ctx.idx = cid) :
    s.finished cid ctx = ((s.enter cid ctx).conclude cid).destroyCoroutine cid := by
  have hself : ((s.enter cid ctx).conclude cid).find cid = some { ctx with state := .done } := by
    have hset := find_setState_self (s.enter cid ctx) cid .done
    rw [find_enter_self] at hset
    exact hset
  unfold finished reap
  rw [hidx, hself]
  exact if_pos rfl

theorem find_finished_self (s : CoroutineScheduler α) {cid : Int} {ctx : CoroutineCtx α}
    (hidx : ctx.idx = cid) : (s.finished cid ctx).find cid = none := by
  rw [finished_eq s hidx]
  exact find_destroy_self _ _

theorem find_finished_ne (s : CoroutineScheduler α) {cid : Int} {ctx : CoroutineCtx α}
    (hidx : ctx.idx = cid) {c : Int} (hc : c ≠ cid) :
    (s.finished cid ctx).find c = s.find c := by
  rw [finished_eq s hidx]
  exact (find_destroy_ne _ hc).trans
    ((find_setState_ne _ hc .done).trans (find_enter_ne s hc ctx))

theorem created_setState (s : CoroutineScheduler α) (cid : Int) (state : CoroutineState) :
    (s.setState cid state).created = s.created := by
  unfold setState
  split <;> rfl

theorem created_finished (s : CoroutineScheduler α) {cid : Int} {ctx : CoroutineCtx α}
    (hidx : ctx.idx = cid) : (s.finished cid ctx).created = s.created := by
  rw [finished_eq s hidx]
  exact created_setState (s.enter cid ctx) cid .done

/-! ## What the operations on coroutines leave alone -/

/-- Every coroutine of `s'` is one of `s` with its task, and none was created. -/
structure Within (s' s : CoroutineScheduler α) : Prop where
  created : s'.created = s.created
  task : ∀ {cid ctx'}, s'.find cid = some ctx' →
    ∃ ctx, s.find cid = some ctx ∧ ctx.task = ctx'.task

namespace Within

theorem refl (s : CoroutineScheduler α) : Within s s := ⟨rfl, fun h => ⟨_, h, rfl⟩⟩

theorem trans {s s' s'' : CoroutineScheduler α} (h : Within s'' s') (h' : Within s' s) :
    Within s'' s := by
  refine ⟨h.created.trans h'.created, fun hfind => ?_⟩
  obtain ⟨ctx', hctx', htask'⟩ := h.task hfind
  obtain ⟨ctx, hctx, htask⟩ := h'.task hctx'
  exact ⟨ctx, hctx, htask.trans htask'⟩

theorem put {s : CoroutineScheduler α} {cid : Int} {ctx ctx' : CoroutineCtx α}
    (hfind : s.find cid = some ctx) (htask : ctx.task = ctx'.task) : Within (s.put cid ctx') s := by
  refine ⟨rfl, fun {c d} hc => ?_⟩
  by_cases hcc : c = cid
  · subst hcc
    rw [find_put_self] at hc
    cases hc
    exact ⟨ctx, hfind, htask⟩
  · rw [find_put_ne s hcc] at hc
    exact ⟨d, hc, rfl⟩

theorem enter {s : CoroutineScheduler α} {cid : Int} {ctx : CoroutineCtx α}
    (hfind : s.find cid = some ctx) : Within (s.enter cid ctx) s := by
  have hput : Within (s.put cid { ctx with state := .running }) s := put hfind rfl
  exact ⟨rfl, hput.task⟩

theorem yieldCoroutine (s : CoroutineScheduler α) : Within s.yieldCoroutine s := by
  unfold CoroutineScheduler.yieldCoroutine
  split_ifs
  · exact refl s
  · split
    · exact refl s
    · next ctx hfind =>
      have hput : Within (s.put s.runningCid { ctx with state := .suspend }) s := put hfind rfl
      exact ⟨rfl, hput.task⟩

theorem conclude (s : CoroutineScheduler α) (cid : Int) : Within (s.conclude cid) s := by
  have hset : Within (s.setState cid .done) s := by
    unfold setState
    split
    · exact refl s
    · next ctx hfind => exact put hfind rfl
  exact ⟨hset.created, hset.task⟩

theorem reap (s : CoroutineScheduler α) (cid : Int) : Within (s.reap cid) s := by
  unfold CoroutineScheduler.reap
  split
  · exact refl s
  · split_ifs
    · refine ⟨rfl, fun {c d} hc => ?_⟩
      by_cases hcc : c = cid
      · rw [hcc, find_destroy_self] at hc
        cases hc
      · rw [find_destroy_ne s hcc] at hc
        exact ⟨d, hc, rfl⟩
    · exact refl s

end Within

/-! ## Creating -/

/-- `CreateCoroutine` fails and changes nothing, or enters a ready coroutine under the seed. -/
theorem createCoroutine_cases (s : CoroutineScheduler α) (task : Option α) (callocOk : Bool) :
    (∃ r, r < 0 ∧ s.createCoroutine task callocOk = (r, s) ∧
      (task = none ∨ s.coroutineTable.entries.length ≥ CInt.uint64 s.coroutineMax ∨
        callocOk = false)) ∨
    ∃ t, task = some t ∧ s.coroutineTable.entries.length < CInt.uint64 s.coroutineMax ∧
      callocOk = true ∧ s.createCoroutine task callocOk = (s.cidSeed, s.enroll t) := by
  cases task with
  | none => exact .inl ⟨-1, by decide, rfl, .inl rfl⟩
  | some t =>
    by_cases hfull : s.coroutineTable.entries.length ≥ CInt.uint64 s.coroutineMax
    · exact .inl ⟨-2, by decide, by simp only [createCoroutine, if_pos hfull], .inr (.inl hfull)⟩
    cases callocOk with
    | false =>
      exact .inl ⟨-3, by decide, by simp [createCoroutine, if_neg hfull], .inr (.inr rfl)⟩
    | true =>
      exact .inr ⟨t, rfl, not_le.mp hfull, rfl, by simp [createCoroutine, if_neg hfull]⟩

end CoroutineScheduler

end Rapidapp
