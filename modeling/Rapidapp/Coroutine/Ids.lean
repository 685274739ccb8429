import Mathlib.Logic.Function.Basic
import Rapidapp.Misc.Run
import Rapidapp.Coroutine.Scheduler

/-!
# CoroutineScheduler: the ids over the life of a process

`coroutine/mc_coroutine.cpp:35-106`. The static `int cid_seed` of `CreateCoroutine` counts the
coroutines of all schedulers of the process and nobody looks whether it has run over: from the
2^31-th coroutine on its value is negative, and after 2^32 of them it comes to ids that may still
be in a table. A run keeps its ids readable exactly as long as every coroutine that is entered
finds the seed nonnegative and unused (`createCoroutine_run_iff`).
-/

namespace Rapidapp

variable {α : Type}

/-! ## One scheduler -/

/-- What happens to the tables of a scheduler: `CreateCoroutine`, `DestroyCoroutine`,
`ResumeCoroutine` before its switch and after it, `YieldCoroutine` before its switch, and the end
of `ScheduleFunction`. -/
inductive CoOp (α : Type) where
  | create (task : Option α) (callocOk : Bool)
  | destroy (cid : Int)
  | enter (cid : Int)
  | reap (cid : Int)
  | yield
  | conclude (cid : Int)

namespace CoroutineScheduler

/-- The scheduler after an operation. -/
def after (s : CoroutineScheduler α) : CoOp α → CoroutineScheduler α
  | .create task callocOk => (s.createCoroutine task callocOk).2
  | .destroy cid => s.destroyCoroutine cid
  | .enter cid =>
    match s.find cid with
    | none => s
    | some ctx =>
      if ctx.state = .ready ∨ ctx.state = .suspend then s.enter cid ctx else s
  | .reap cid => s.reap cid
  | .yield => s.yieldCoroutine
  | .conclude cid => s.conclude cid

/-- A negative number stands for no coroutine: the ids in the table are not negative, and
`running_cid_` is not unless it is the -1 of the main context. -/
structure Readable (s : CoroutineScheduler α) : Prop where
  ids : ∀ {cid ctx}, s.find cid = some ctx → 0 ≤ cid ∧ ctx.idx = cid
  running : s.runningCid = -1 ∨ 0 ≤ s.runningCid

/-- `CreateCoroutine` fails with a negative code and leaves the table as it was, or it returns an
id that is not negative and was not in the table, and has stored the coroutine under it and nothing
else. -/
def CreatesOk (s : CoroutineScheduler α) : CoOp α → Prop
  | .create task callocOk =>
    let r := s.createCoroutine task callocOk
    r.1 < 0 ∧ r.2.coroutineTable = s.coroutineTable ∨
      0 ≤ r.1 ∧ s.find r.1 = none ∧ (∃ t, task = some t ∧ r.2.find r.1 = some ⟨r.1, .ready, t⟩) ∧
        ∀ c, c ≠ r.1 → r.2.find c = s.find c
  | _ => True

/-- A coroutine that is entered finds the seed nonnegative and unused. -/
def SeedFree (s : CoroutineScheduler α) : CoOp α → Prop
  | .create task callocOk =>
    task = none ∨ s.coroutineTable.entries.length ≥ CInt.uint64 s.coroutineMax ∨
      callocOk = false ∨ 0 ≤ s.cidSeed ∧ s.find s.cidSeed = none
  | _ => True

theorem Readable.congr {s s' : CoroutineScheduler α} (h : s.Readable)
    (htable : s'.coroutineTable = s.coroutineTable) (hrunning : s'.runningCid = s.runningCid) :
    s'.Readable := by
  refine ⟨?_, hrunning ▸ h.running⟩
  intro cid ctx hfind
  have hfind' : s.find cid = some ctx := by rwa [find, ← htable]
  exact h.ids hfind'

/-- Storing a context under its own id, which is not negative. -/
theorem Readable.put {s : CoroutineScheduler α} (h : s.Readable) {cid : Int} {ctx : CoroutineCtx α}
    (hcid : 0 ≤ cid) (hidx : ctx.idx = cid) : (s.put cid ctx).Readable := by
  refine ⟨fun hfind => ?_, h.running⟩
  rcases find_put_cases hfind with ⟨rfl, rfl⟩ | ⟨-, hold⟩
  · exact ⟨hcid, hidx⟩
  · exact h.ids hold

theorem createsOk_iff {s : CoroutineScheduler α} (h : s.Readable) (op : CoOp α) :
    s.CreatesOk op ↔ s.SeedFree op := by
  cases op with
  | create task callocOk =>
    simp only [CreatesOk, SeedFree]
    rcases s.createCoroutine_cases task callocOk with
      ⟨r, hr, heq, hwhy⟩ | ⟨t, rfl, hroom, rfl, heq⟩
    · rw [heq]
      refine iff_of_true (.inl ⟨hr, rfl⟩) ?_
      rcases hwhy with hnone | hfull | hcalloc
      · exact .inl hnone
      · exact .inr (.inl hfull)
      · exact .inr (.inr (.inl hcalloc))
    · rw [heq]
      constructor
      · rintro (⟨hneg, htable⟩ | ⟨hnonneg, hfree, -⟩)
        · -- the coroutine was stored under a negative id, and there was none before
          have hstored : s.find s.cidSeed = some ⟨s.cidSeed, .ready, t⟩ := by
            have hself := s.find_enroll_self t
            rwa [find, htable] at hself
          exact absurd (h.ids hstored).1 (not_le.mpr hneg)
        · exact .inr (.inr (.inr ⟨hnonneg, hfree⟩))
      · rintro (hnone | hfull | hcalloc | ⟨hnonneg, hfree⟩)
        · cases hnone
        · exact absurd hfull (not_le.mpr hroom)
        · cases hcalloc
        · exact .inr ⟨hnonneg, hfree, ⟨t, rfl, s.find_enroll_self t⟩,
            fun c hc => s.find_enroll_ne hc t⟩
  | destroy cid => exact Iff.rfl
  | enter cid => exact Iff.rfl
  | reap cid => exact Iff.rfl
  | yield => exact Iff.rfl
  | conclude cid => exact Iff.rfl

theorem Readable.after {s : CoroutineScheduler α} (h : s.Readable) {op : CoOp α}
    (hseed : s.SeedFree op) : (s.after op).Readable := by
  cases op with
  | create task callocOk =>
    simp only [CoroutineScheduler.after]
    rcases s.createCoroutine_cases task callocOk with ⟨r, -, heq, -⟩ | ⟨t, rfl, hroom, rfl, heq⟩
    · rw [heq]
      exact h
    · rw [heq]
      rcases hseed with hnone | hfull | hcalloc | ⟨hnonneg, -⟩
      · cases hnone
      · exact absurd hfull (not_le.mpr hroom)
      · cases hcalloc
      · have hput : (s.put s.cidSeed ⟨s.cidSeed, .ready, t⟩).Readable := h.put hnonneg rfl
        exact hput.congr rfl rfl
  | destroy cid => exact ⟨fun hfind => h.ids (find_destroy_some hfind).2, h.running⟩
  | enter cid =>
    unfold CoroutineScheduler.after
    cases hfind : s.find cid with
    | none => simpa [hfind] using h
    | some ctx =>
      obtain ⟨hcid, hidx⟩ := h.ids hfind
      simp only [hfind]
      split_ifs
      · have hput : (s.put cid { ctx with state := .running }).Readable := h.put hcid hidx
        exact ⟨hput.ids, .inr (hidx ▸ hcid)⟩
      · exact h
  | reap cid =>
    refine ⟨fun hfind => h.ids (find_reap_some hfind), ?_⟩
    change (s.reap cid).runningCid = -1 ∨ 0 ≤ (s.reap cid).runningCid
    rw [runningCid_reap]
    exact h.running
  | yield =>
    simp only [CoroutineScheduler.after]
    unfold yieldCoroutine
    split_ifs
    · exact h
    · split
      · exact h
      · next ctx hfind =>
        obtain ⟨hcid, hidx⟩ := h.ids hfind
        have hput : (s.put s.runningCid { ctx with state := .suspend }).Readable :=
          h.put hcid hidx
        exact ⟨hput.ids, .inl rfl⟩
  | conclude cid =>
    refine ⟨fun {c d} hfind => ?_, .inl rfl⟩
    have hset : (s.setState cid .done).find c = some d := hfind
    rcases find_setState_cases hset with ⟨d', rfl, hold, rfl⟩ | ⟨-, hold⟩
    · obtain ⟨hcid, hidx⟩ := h.ids hold
      exact ⟨hcid, hidx⟩
    · exact h.ids hold

end CoroutineScheduler

/-! ## All schedulers of a process -/

/-- The schedulers of a process; `created` counts the coroutines created in any of them. -/
structure CoProcess (α : Type) where
  schedulers : Nat → CoroutineScheduler α
  created : Nat

namespace CoProcess

/-- Schedulers with these limits, before anything was created. -/
def init (cocurrentNum : Nat → Int) : CoProcess α where
  schedulers := fun i => .init (cocurrentNum i)
  created := 0

/-- A scheduler, which reads the static counter. -/
def scheduler (p : CoProcess α) (i : Nat) : CoroutineScheduler α :=
  { p.schedulers i with created := p.created }

/-- An operation of the `i`-th scheduler. -/
def call (p : CoProcess α) (c : Nat × CoOp α) : CoProcess α :=
  let s := (p.scheduler c.1).after c.2
  { schedulers := Function.update p.schedulers c.1 s
    created := s.created }

/-- The operations go through in any order. -/
def step (p : CoProcess α) (c : Nat × CoOp α) : Option (CoProcess α) := some (p.call c)

/-- No scheduler of the process takes a coroutine for none. -/
def Readable (p : CoProcess α) : Prop := ∀ i, (p.scheduler i).Readable

theorem readable_init (cocurrentNum : Nat → Int) : Readable (init (α := α) cocurrentNum) := by
  intro i
  refine ⟨fun hfind => ?_, .inl rfl⟩
  cases hfind

/-- The scheduler that was called. -/
theorem scheduler_call (p : CoProcess α) (i : Nat) (op : CoOp α) :
    (p.call (i, op)).scheduler i = (p.scheduler i).after op := by
  simp [scheduler, CoProcess.call]

/-- The others see the counter only. -/
theorem scheduler_call_ne (p : CoProcess α) {c : Nat × CoOp α} {i : Nat} (h : i ≠ c.1) :
    (p.call c).scheduler i =
      { p.scheduler i with created := ((p.scheduler c.1).after c.2).created } := by
  simp [scheduler, CoProcess.call, h]

theorem Readable.call {p : CoProcess α} (h : p.Readable) {c : Nat × CoOp α}
    (hseed : (p.scheduler c.1).SeedFree c.2) : (p.call c).Readable := by
  intro i
  by_cases hi : i = c.1
  · subst hi
    rw [scheduler_call]
    exact (h c.1).after hseed
  · rw [scheduler_call_ne p hi]
    exact (h i).congr rfl rfl

/-- In any run every call of `CreateCoroutine` does as it should and no coroutine is ever taken for
none, exactly as long as each coroutine that is entered finds the seed nonnegative and unused. -/
theorem createCoroutine_run_iff (cocurrentNum : Nat → Int) (calls : List (Nat × CoOp α)) :
    Run.Along step (fun p c => (p.scheduler c.1).CreatesOk c.2 ∧ (p.call c).Readable)
        (init cocurrentNum) calls ↔
      Run.Along step (fun p c => (p.scheduler c.1).SeedFree c.2) (init cocurrentNum) calls := by
  have hstep : ∀ {p p' : CoProcess α} {c}, step p c = some p' → p' = p.call c :=
    fun h => (Option.some.inj h).symm
  constructor
  · apply Run.along_of_inv (I := Readable) _ _ (readable_init cocurrentNum)
    · intro p c p' _ hgood hp'
      exact hstep hp' ▸ hgood.2
    · intro p c hp hgood
      exact (CoroutineScheduler.createsOk_iff (hp c.1) c.2).mp hgood.1
  · apply Run.along_of_inv (I := Readable) _ _ (readable_init cocurrentNum)
    · intro p c p' hp hseed hp'
      exact hstep hp' ▸ hp.call hseed
    · intro p c hp hseed
      exact ⟨(CoroutineScheduler.createsOk_iff (hp c.1) c.2).mpr hseed, hp.call hseed⟩

/-! ## The seed runs over -/

/-- `n` coroutines created one after the other, each destroyed before the next. -/
def churn (n : Nat) : List (Nat × CoOp Unit) :=
  (List.range n).flatMap fun (k : Nat) => [(0, .create (some ()) true), (0, .destroy (CInt.int32 k))]

/-- After `n` of them the first scheduler has no coroutine. -/
structure Churned (n : Nat) (p : CoProcess Unit) : Prop where
  created : p.created = n
  keys : (p.scheduler 0).coroutineTable.keys = []
  limit : (p.scheduler 0).coroutineMax = kDefaultCoCurrentNum

theorem Churned.createCoroutine {n : Nat} {p : CoProcess Unit} (h : Churned n p) :
    (p.scheduler 0).createCoroutine (some ()) true =
      ((p.scheduler 0).cidSeed, (p.scheduler 0).enroll ()) := by
  have hroom : ¬ CInt.uint64 kDefaultCoCurrentNum ≤ 0 := by decide
  have hlength : (p.scheduler 0).coroutineTable.entries.length = 0 := by
    have hkeys := congrArg List.length h.keys
    rwa [AList.keys, List.keys, List.length_map] at hkeys
  simp only [CoroutineScheduler.createCoroutine, hlength, h.limit]
  simp [hroom]

/-- One more coroutine comes and goes. -/
theorem Churned.step {n : Nat} {p : CoProcess Unit} (h : Churned n p) :
    Churned (n + 1)
      ((p.call (0, .create (some ()) true)).call (0, .destroy (CInt.int32 n))) := by
  have hseed : CInt.int32 n = (p.scheduler 0).cidSeed := by
    unfold CoroutineScheduler.cidSeed
    exact congrArg (fun k : Nat => CInt.int32 k) h.created.symm
  have hafter : (p.scheduler 0).after (.create (some ()) true) = (p.scheduler 0).enroll () := by
    rw [CoroutineScheduler.after, h.createCoroutine]
  have hscheduler : ((p.call (0, .create (some ()) true)).call
      (0, .destroy (CInt.int32 n))).scheduler 0 =
        ((p.scheduler 0).enroll ()).destroyCoroutine (p.scheduler 0).cidSeed := by
    rw [scheduler_call, scheduler_call, hafter, hseed]
    rfl
  refine ⟨?_, ?_, ?_⟩
  · change (((p.call (0, .create (some ()) true)).scheduler 0).after _).created = n + 1
    rw [scheduler_call, hafter]
    exact congrArg (· + 1) h.created
  · rw [hscheduler]
    change (((p.scheduler 0).coroutineTable.insert _ _).erase _).keys = []
    rw [AList.keys_erase, AList.keys_insert, h.keys]
    simp
  · rw [hscheduler]
    exact h.limit

theorem run_churn (n : Nat) :
    ∃ p, Run.run step (init fun _ => kDefaultCoCurrentNum) (churn n) = some p ∧ Churned n p := by
  induction n with
  | zero => exact ⟨_, rfl, rfl, rfl, rfl⟩
  | succ n ih =>
    obtain ⟨p, hrun, hp⟩ := ih
    refine ⟨_, ?_, hp.step⟩
    rw [churn, List.range_succ, List.flatMap_append]
    exact Run.run_append_some.mpr ⟨p, hrun, rfl⟩

/-- The coroutine that finds the seed negative is in the table all the same. -/
theorem churn_overflow {n : Nat} (hneg : CInt.int32 n < 0) :
    ¬ Run.Along step (fun p c => (p.scheduler c.1).CreatesOk c.2 ∧ (p.call c).Readable)
      (init fun _ => kDefaultCoCurrentNum) (churn n ++ [(0, .create (some ()) true)]) := by
  intro h
  obtain ⟨p, hrun, hp⟩ := run_churn n
  obtain ⟨⟨hcreates, -⟩, -⟩ := (Run.along_append.mp h).2 p hrun
  have hseed : (p.scheduler 0).cidSeed < 0 := by
    unfold CoroutineScheduler.cidSeed
    rwa [show (p.scheduler 0).created = n from hp.created]
  simp only [CoroutineScheduler.CreatesOk, hp.createCoroutine] at hcreates
  rcases hcreates with ⟨-, htable⟩ | ⟨hnonneg, -⟩
  · have hkeys : ((p.scheduler 0).coroutineTable.insert (p.scheduler 0).cidSeed
        ⟨(p.scheduler 0).cidSeed, .ready, ()⟩).keys = (p.scheduler 0).coroutineTable.keys :=
      congrArg AList.keys htable
    rw [AList.keys_insert, hp.keys] at hkeys
    cases hkeys
  · exact absurd hnonneg (not_le.mpr hseed)

/-- 2^31 coroutines that came and went, and one more. -/
theorem createCoroutine_overflow :
    ¬ Run.Along step (fun p c => (p.scheduler c.1).CreatesOk c.2 ∧ (p.call c).Readable)
      (init fun _ => kDefaultCoCurrentNum) (churn (2 ^ 31) ++ [(0, .create (some ()) true)]) :=
  churn_overflow (by decide)

end CoProcess

end Rapidapp
