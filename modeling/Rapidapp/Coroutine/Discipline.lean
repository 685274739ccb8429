import Mathlib.Data.List.Nodup
import Rapidapp.Coroutine.Machine

/-!
# CoroutineScheduler used from the main context only

What holds in every run in which only the main context calls `ResumeCoroutine`, no coroutine
destroys the one that runs, and fewer than 2^31 coroutines are created
(`coroutine/mc_coroutine.cpp:35-197`): the states in the table agree with the context that
runs, the table keeps its limit, ids are given once, functions are entered once, and no
assertion fails.
-/

namespace Rapidapp

open Switch

variable {α : Type}

/-! ## The table -/

namespace CoroutineScheduler

theorem mem_keys_of_find {s : CoroutineScheduler α} {cid : Int} {ctx : CoroutineCtx α}
    (h : s.find cid = some ctx) : cid ∈ s.coroutineTable.keys := by
  apply AList.lookup_isSome.mp
  have hlookup : s.coroutineTable.lookup cid = some ctx := h
  rw [hlookup]
  rfl

theorem length_eq (s : CoroutineScheduler α) :
    s.coroutineTable.entries.length = s.coroutineTable.keys.length :=
  (List.length_map _).symm

/-- Storing a context that is in the table does not make it larger. -/
theorem length_put {s : CoroutineScheduler α} {cid : Int} {ctx : CoroutineCtx α}
    (h : s.find cid = some ctx) (ctx' : CoroutineCtx α) :
    (s.put cid ctx').coroutineTable.entries.length = s.coroutineTable.entries.length := by
  have hmem := mem_keys_of_find h
  have hpos := List.length_pos_of_mem hmem
  have hkeys : (s.put cid ctx').coroutineTable.keys = cid :: s.coroutineTable.keys.erase cid :=
    AList.keys_insert _
  rw [length_eq, length_eq, hkeys, List.length_cons, List.length_erase_of_mem hmem]
  omega

theorem length_put_le (s : CoroutineScheduler α) (cid : Int) (ctx : CoroutineCtx α) :
    (s.put cid ctx).coroutineTable.entries.length ≤ s.coroutineTable.entries.length + 1 := by
  have hkeys : (s.put cid ctx).coroutineTable.keys = cid :: s.coroutineTable.keys.erase cid :=
    AList.keys_insert _
  rw [length_eq, length_eq, hkeys, List.length_cons]
  exact Nat.succ_le_succ List.length_erase_le

theorem length_destroy_le (s : CoroutineScheduler α) (cid : Int) :
    (s.destroyCoroutine cid).coroutineTable.entries.length ≤ s.coroutineTable.entries.length := by
  have hkeys : (s.destroyCoroutine cid).coroutineTable.keys = s.coroutineTable.keys.erase cid :=
    AList.keys_erase _ _
  rw [length_eq, length_eq, hkeys]
  exact List.length_erase_le

/-- The table as it should be while `cur` runs: within its limit, the ids below the seed, none
`DONE`, and none `RUNNING` but the one that runs. -/
structure TableOk (max : Int) (cur : Ctx) (s : CoroutineScheduler α) : Prop where
  limit : s.coroutineMax = max
  created : s.created < 2 ^ 31
  size : (s.coroutineTable.entries.length : Int) ≤ max
  range : ∀ {cid ctx}, s.find cid = some ctx → 0 ≤ cid ∧ cid < s.created
  notDone : ∀ {cid ctx}, s.find cid = some ctx → ctx.state ≠ .done
  running : ∀ {cid ctx}, s.find cid = some ctx → ctx.state = .running → cur = .coroutine cid

theorem tableOk_init {max : Int} (hmax : 0 ≤ max) : TableOk max .main (init (α := α) max) where
  limit := rfl
  created := Nat.two_pow_pos 31
  size := hmax
  range h := by cases h
  notDone h := by cases h
  running h := by cases h

namespace TableOk

variable {max : Int} {cur : Ctx} {s : CoroutineScheduler α}

theorem seed (h : TableOk max cur s) : s.cidSeed = s.created := cidSeed_eq h.created

theorem find_seed (h : TableOk max cur s) : s.find s.cidSeed = none := by
  cases hfind : s.find s.cidSeed with
  | none => rfl
  | some ctx =>
    have hrange := h.range hfind
    rw [h.seed] at hrange
    omega

theorem enroll (h : TableOk max cur s) (hmax : 0 ≤ max) (t : α)
    (hroom : s.coroutineTable.entries.length < CInt.uint64 s.coroutineMax)
    (hcreated : s.created + 1 < 2 ^ 31) : TableOk max cur (s.enroll t) where
  limit := h.limit
  created := hcreated
  size := by
    have hput := s.length_put_le s.cidSeed ⟨s.cidSeed, .ready, t⟩
    have hle : (CInt.uint64 s.coroutineMax : Int) ≤ max := by
      obtain ⟨n, rfl⟩ := Int.eq_ofNat_of_zero_le hmax
      rw [h.limit]
      exact Int.ofNat_le.mpr (CInt.uint64_le n)
    have hlength : (s.enroll t).coroutineTable.entries.length =
      (s.put s.cidSeed ⟨s.cidSeed, .ready, t⟩).coroutineTable.entries.length := rfl
    omega
  range {c d} hc := by
    rw [created_enroll]
    rcases find_put_cases (s := s) hc with ⟨rfl, _⟩ | ⟨_, hold⟩
    · rw [h.seed]
      omega
    · have hrange := h.range hold
      omega
  notDone {c d} hc := by
    rcases find_put_cases (s := s) hc with ⟨_, rfl⟩ | ⟨_, hold⟩
    · exact nofun
    · exact h.notDone hold
  running {c d} hc hrun := by
    rcases find_put_cases (s := s) hc with ⟨_, rfl⟩ | ⟨_, hold⟩
    · cases hrun
    · exact h.running hold hrun

/-- Main resumes a coroutine. -/
theorem enter (h : TableOk max .main s) {cid : Int} {ctx : CoroutineCtx α}
    (hfind : s.find cid = some ctx) : TableOk max (.coroutine cid) (s.enter cid ctx) where
  limit := h.limit
  created := h.created
  size := (Int.ofNat_le.mpr (length_put hfind _).le).trans h.size
  range {c d} hc := by
    rcases find_put_cases (s := s) hc with ⟨rfl, _⟩ | ⟨_, hold⟩
    · exact h.range hfind
    · exact h.range hold
  notDone {c d} hc := by
    rcases find_put_cases (s := s) hc with ⟨_, rfl⟩ | ⟨_, hold⟩
    · exact nofun
    · exact h.notDone hold
  running {c d} hc hrun := by
    rcases find_put_cases (s := s) hc with ⟨rfl, _⟩ | ⟨_, hold⟩
    · rfl
    · cases h.running hold hrun

/-- The coroutine that runs yields. -/
theorem leave {cid : Int} (h : TableOk max (.coroutine cid) s) {ctx : CoroutineCtx α}
    (hfind : s.find cid = some ctx) : TableOk max .main (s.leave cid ctx) where
  limit := h.limit
  created := h.created
  size := (Int.ofNat_le.mpr (length_put hfind _).le).trans h.size
  range {c d} hc := by
    rcases find_put_cases (s := s) hc with ⟨rfl, _⟩ | ⟨_, hold⟩
    · exact h.range hfind
    · exact h.range hold
  notDone {c d} hc := by
    rcases find_put_cases (s := s) hc with ⟨_, rfl⟩ | ⟨_, hold⟩
    · exact nofun
    · exact h.notDone hold
  running {c d} hc hrun := by
    rcases find_put_cases (s := s) hc with ⟨_, rfl⟩ | ⟨hne, hold⟩
    · cases hrun
    · cases h.running hold hrun
      exact absurd rfl hne

/-- A coroutine is destroyed. -/
theorem destroy (h : TableOk max cur s) (cid : Int) : TableOk max cur (s.destroyCoroutine cid) where
  limit := h.limit
  created := h.created
  size := (Int.ofNat_le.mpr (s.length_destroy_le cid)).trans h.size
  range hc := h.range (find_destroy_some hc).2
  notDone hc := h.notDone (find_destroy_some hc).2
  running hc := h.running (find_destroy_some hc).2

/-- The function of the coroutine that runs returns. -/
theorem finish {cid : Int} (h : TableOk max (.coroutine cid) s) {ctx : CoroutineCtx α}
    (hfind : s.find cid = some ctx) :
    TableOk max .main ((s.conclude cid).destroyCoroutine cid) := by
  have hput : (s.conclude cid).coroutineTable =
      (s.put cid { ctx with state := .done }).coroutineTable := by
    rw [conclude, setState, hfind]
  have hold : ∀ {c d}, ((s.conclude cid).destroyCoroutine cid).find c = some d →
      c ≠ cid ∧ s.find c = some d := by
    intro c d hc
    obtain ⟨hne, hc⟩ := find_destroy_some hc
    exact ⟨hne, (find_setState_ne s hne .done).symm.trans hc⟩
  have hsize : ((s.conclude cid).destroyCoroutine cid).coroutineTable.entries.length ≤
      s.coroutineTable.entries.length := by
    apply (length_destroy_le _ cid).trans
    rw [hput, length_put hfind]
  have hcreated : ((s.conclude cid).destroyCoroutine cid).created = s.created :=
    created_setState s cid .done
  have hlimit : ((s.conclude cid).destroyCoroutine cid).coroutineMax = s.coroutineMax := by
    rw [destroyCoroutine, conclude, setState, hfind]
    rfl
  refine ⟨hlimit.trans h.limit, by rw [hcreated]; exact h.created,
    (Int.ofNat_le.mpr hsize).trans h.size, fun hc => ?_, fun hc => h.notDone (hold hc).2,
    fun hc hrun => ?_⟩
  · rw [hcreated]
    exact h.range (hold hc).2
  · cases h.running (hold hc).2 hrun
    exact absurd rfl (hold hc).1

theorem reap_eq (h : TableOk max cur s) (cid : Int) : s.reap cid = s := by
  rw [reap]
  cases hfind : s.find cid with
  | none => rfl
  | some ctx => exact if_neg (h.notDone hfind)

end TableOk

end CoroutineScheduler

/-! ## The machine -/

namespace Machine

/-- What a caller of the scheduler keeps to: fewer than 2^31 coroutines are created, nobody
destroys the coroutine that runs, and only the main context resumes. Only the function of a
coroutine returns. -/
def Disciplined (m : Machine α) : CoAction α → Prop
  | .create task callocOk => (m.sched.createCoroutine task callocOk).2.created < 2 ^ 31
  | .destroy cid => m.cur ≠ .coroutine cid
  | .resume _ => m.cur = .main
  | .yield => True
  | .finish => m.cur ≠ .main

instance (m : Machine α) (a : CoAction α) : Decidable (m.Disciplined a) := by
  cases a <;> unfold Disciplined <;> infer_instance

theorem Disciplined.fromMain {m : Machine α} {a : CoAction α} (h : m.Disciplined a) :
    m.FromMain a := by
  cases a with
  | resume cid => exact .of_cur h
  | _ => exact .of_ne nofun

/-- The ids that the action is given by `CreateCoroutine`. -/
def issued (m : Machine α) : CoAction α → List Int
  | .create task callocOk =>
    let cid := (m.sched.createCoroutine task callocOk).1
    if 0 ≤ cid then [cid] else []
  | _ => []

/-- The coroutines whose functions the action enters: `ResumeCoroutine` in the state
`COROUTINE_READY` switches to `ScheduleFunction`. -/
def entered (m : Machine α) : CoAction α → List Int
  | .resume cid =>
    match m.sched.find cid with
    | none => []
    | some ctx => if ctx.state = .ready then [cid] else []
  | _ => []

/-- `assert(0)` of `ResumeCoroutine` is not reached, and if it goes on to `ScheduleFunction` then
`curr_cid >= 0` and `ctx != NULL` there. -/
def AssertionsHold (m : Machine α) : CoAction α → Prop
  | .resume cid => ∀ ctx, m.sched.find cid = some ctx → ctx.state ≠ .done ∧
      (ctx.state = .ready →
        let s := (m.switchTo cid ctx).sched
        0 ≤ s.runningCid ∧ (s.find s.runningCid).isSome)
  | _ => True

/-- The invariant, without the history. -/
structure Orderly (max : Int) (m : Machine α) : Prop where
  deep : OneDeep m
  table : m.sched.TableOk max m.cur

/-- What an action does to the table and the running context, with the ids it is given and the
functions it enters. -/
inductive Effect (m m' : Machine α) : List Int → List Int → Prop
  | nothing : m'.sched = m.sched → m'.cur = m.cur → Effect m m' [] []
  | created (t : α) : m.sched.coroutineTable.entries.length < CInt.uint64 m.sched.coroutineMax →
      m.sched.created + 1 < 2 ^ 31 → m'.sched = m.sched.enroll t → m'.cur = m.cur →
      Effect m m' [m.sched.cidSeed] []
  | destroyed (cid : Int) : m'.sched = m.sched.destroyCoroutine cid → m'.cur = m.cur →
      Effect m m' [] []
  | resumed (cid : Int) (ctx : CoroutineCtx α) : m.cur = .main → m.sched.find cid = some ctx →
      m'.sched = m.sched.enter cid ctx → m'.cur = .coroutine cid →
      Effect m m' [] (if ctx.state = .ready then [cid] else [])
  | yielded (cid : Int) (ctx : CoroutineCtx α) : m.cur = .coroutine cid →
      m.sched.find cid = some ctx → m'.sched = m.sched.leave cid ctx → m'.cur = .main →
      Effect m m' [] []
  | finished (cid : Int) (ctx : CoroutineCtx α) : m.cur = .coroutine cid →
      m.sched.find cid = some ctx →
      m'.sched = (m.sched.conclude cid).destroyCoroutine cid → m'.cur = .main →
      Effect m m' [] []

namespace Orderly

variable {max : Int} {m : Machine α}

/-- The coroutine that runs is in the table, and its caller waits in the main slot. -/
theorem running (h : Orderly max m) {cid : Int} (hcur : m.cur = .coroutine cid) :
    0 ≤ cid ∧ m.sched.runningCid = cid ∧ (∃ ctx, m.sched.find cid = some ctx) ∧
      ∃ k, m.mainCtx = some (.inResume k .main cid) := by
  have hp := h.deep.pending
  rw [hcur] at hp
  obtain ⟨hnonneg, ⟨ctx, hfind, _⟩, k, hk, _⟩ := hp
  exact ⟨hnonneg, by rw [h.deep.running, hcur]; rfl, ⟨ctx, hfind⟩, k, hk⟩

theorem reap_conclude {s : CoroutineScheduler α} {cid : Int} {ctx : CoroutineCtx α}
    (hfind : s.find cid = some ctx) :
    (s.conclude cid).reap cid = (s.conclude cid).destroyCoroutine cid := by
  have hdone : (s.conclude cid).find cid = some { ctx with state := .done } := by
    have hself := CoroutineScheduler.find_setState_self s cid .done
    rw [hfind] at hself
    exact hself
  rw [CoroutineScheduler.reap, hdone]
  exact if_pos rfl

/-- Every action of a disciplined caller is carried out, and does one of these things. -/
theorem step_effect (h : Orderly max m) {a : CoAction α} (ha : m.Disciplined a) :
    ∃ m', m.step a = some m' ∧ Effect m m' (m.issued a) (m.entered a) := by
  cases a with
  | create task callocOk =>
    have hseed : ¬ (m.sched.find m.sched.cidSeed).isSome := by rw [h.table.find_seed]; nofun
    refine ⟨_, if_neg hseed, ?_⟩
    obtain ⟨r, hr, heq, _⟩ | ⟨t, _, hroom, _, heq⟩ := m.sched.createCoroutine_cases task callocOk
    · have hissued : m.issued (.create task callocOk) = [] := by
        simp only [issued, heq, if_neg (not_le.mpr hr)]
      rw [hissued, heq]
      exact .nothing rfl rfl
    · have hcreated : m.sched.created + 1 < 2 ^ 31 := by
        rw [Disciplined, heq] at ha
        exact ha
      have hnonneg : 0 ≤ m.sched.cidSeed := by
        rw [h.table.seed]
        exact Int.natCast_nonneg _
      have hissued : m.issued (.create task callocOk) = [m.sched.cidSeed] := by
        simp only [issued, heq, if_pos hnonneg]
      rw [hissued, heq]
      exact .created t hroom hcreated rfl rfl
  | destroy cid =>
    simp only [step]
    cases hfind : m.sched.find cid with
    | none => exact ⟨m, rfl, .nothing rfl rfl⟩
    | some ctx =>
      have hstate : ctx.state ≠ .running := fun hrun => ha (h.table.running hfind hrun)
      exact ⟨_, if_neg hstate, .destroyed cid rfl rfl⟩
  | resume cid =>
    have hcur : m.cur = .main := ha
    simp only [step, entered]
    cases hfind : m.sched.find cid with
    | none => exact ⟨m, rfl, .nothing rfl rfl⟩
    | some ctx =>
      dsimp only
      have hidx := h.deep.idx hfind
      have hrange := h.table.range hfind
      cases hstate : ctx.state with
      | ready =>
        have heffect : Effect m
            { m.switchTo cid ctx with
              uctx := Function.update m.uctx cid (some (.entry ctx.idx))
              cur := .coroutine cid } [] (if ctx.state = .ready then [cid] else []) :=
          .resumed cid ctx hcur hfind rfl rfl
        rw [hstate] at heffect
        refine ⟨_, ?_, heffect⟩
        simp only [jump, hidx, if_neg (not_lt.mpr hrange.1)]
      | suspend =>
        have heffect : Effect m { m.switchTo cid ctx with cur := .coroutine cid } []
            (if ctx.state = .ready then [cid] else []) := .resumed cid ctx hcur hfind rfl rfl
        rw [hstate] at heffect
        refine ⟨_, ?_, heffect⟩
        simp only [(h.deep.slot hfind hstate).1, jump]
      | running => cases hcur.symm.trans (h.table.running hfind hstate)
      | done => exact absurd hstate (h.table.notDone hfind)
  | yield =>
    simp only [step]
    cases hcur : m.cur with
    | main =>
      have hneg : m.sched.runningCid < 0 := by rw [h.deep.running, hcur]; decide
      exact ⟨_, if_pos hneg, .nothing rfl hcur.symm⟩
    | coroutine cid =>
      obtain ⟨hnonneg, hrunning, ⟨ctx, hfind⟩, k, hmain⟩ := h.running hcur
      have htable := h.table
      rw [hcur] at htable
      rw [hrunning, if_neg (not_lt.mpr hnonneg), hfind, hmain]
      refine ⟨_, rfl, .yielded cid ctx hcur hfind ?_ rfl⟩
      exact (htable.leave hfind).reap_eq cid
  | finish =>
    simp only [step]
    cases hcur : m.cur with
    | main => exact absurd hcur ha
    | coroutine cid =>
      obtain ⟨_, _, ⟨ctx, hfind⟩, k, hmain⟩ := h.running hcur
      simp only [hmain]
      exact ⟨_, rfl, .finished cid ctx hcur hfind (reap_conclude hfind) rfl⟩

theorem effect_table (hmax : 0 ≤ max) (h : Orderly max m) {m' : Machine α} {is es : List Int}
    (he : Effect m m' is es) : m'.sched.TableOk max m'.cur := by
  have htable := h.table
  cases he with
  | nothing hsched hcur =>
    rw [hsched, hcur]
    exact htable
  | created t hroom hcreated hsched hcur =>
    rw [hsched, hcur]
    exact htable.enroll hmax t hroom hcreated
  | destroyed cid hsched hcur =>
    rw [hsched, hcur]
    exact htable.destroy cid
  | resumed cid ctx hmain hfind hsched hcur =>
    rw [hmain] at htable
    rw [hsched, hcur]
    exact htable.enter hfind
  | yielded cid ctx hrun hfind hsched hcur =>
    rw [hrun] at htable
    rw [hsched, hcur]
    exact htable.leave hfind
  | finished cid ctx hrun hfind hsched hcur =>
    rw [hrun] at htable
    rw [hsched, hcur]
    exact htable.finish hfind

theorem step (hmax : 0 ≤ max) (h : Orderly max m) {a : CoAction α} (ha : m.Disciplined a) :
    ∃ m', m.step a = some m' ∧ Orderly max m' := by
  obtain ⟨m', hs, he⟩ := h.step_effect ha
  exact ⟨m', hs, h.deep.step ha.fromMain hs, h.effect_table hmax he⟩

theorem step_some (hmax : 0 ≤ max) (h : Orderly max m) {a : CoAction α} (ha : m.Disciplined a)
    {m' : Machine α} (hs : m.step a = some m') :
    Orderly max m' ∧ Effect m m' (m.issued a) (m.entered a) := by
  obtain ⟨m₁, hs₁, he⟩ := h.step_effect ha
  obtain rfl := Option.some.inj (hs₁.symm.trans hs)
  exact ⟨⟨h.deep.step ha.fromMain hs, h.effect_table hmax he⟩, he⟩

/-- Main calls `ResumeCoroutine`: the coroutine is ready or suspended, and its id is the running
one when `ScheduleFunction` looks it up. -/
theorem assertionsHold (h : Orderly max m) {a : CoAction α} (_ : m.Disciplined a) :
    m.AssertionsHold a := by
  cases a with
  | resume cid =>
    intro ctx hfind
    refine ⟨h.table.notDone hfind, fun _ => ?_⟩
    have hrunning : (m.switchTo cid ctx).sched.runningCid = cid := h.deep.idx hfind
    have hentered : (m.switchTo cid ctx).sched.find cid = some { ctx with state := .running } :=
      CoroutineScheduler.find_enter_self m.sched cid ctx
    simp only [hrunning, hentered]
    exact ⟨(h.table.range hfind).1, rfl⟩
  | _ => trivial

end Orderly

theorem orderly_init {max : Int} (hmax : 0 ≤ max) : Orderly max (init (α := α) max) :=
  ⟨oneDeep_init max, CoroutineScheduler.tableOk_init hmax⟩

/-! ## Ids and entries -/

/-- The ids given so far: each once, and below the seed. -/
structure Issued (m : Machine α) (is : List Int) : Prop where
  nodup : is.Nodup
  below : ∀ c ∈ is, c < m.sched.created

/-- The functions entered so far: each once, and none of a coroutine that is still ready. -/
structure Entered (m : Machine α) (es : List Int) : Prop where
  nodup : es.Nodup
  below : ∀ c ∈ es, c < m.sched.created
  notReady : ∀ c ∈ es, ∀ ctx, m.sched.find c = some ctx → ctx.state ≠ .ready

theorem Issued.effect {max : Int} {m m' : Machine α} (h : Orderly max m) {is js es : List Int}
    (hi : Issued m is) (he : Effect m m' js es) : Issued m' (is ++ js) := by
  have hkeep : m'.sched.created = m.sched.created → Issued m' (is ++ []) := by
    intro hcreated
    rw [List.append_nil]
    exact ⟨hi.nodup, by rw [hcreated]; exact hi.below⟩
  cases he with
  | nothing hsched _ => exact hkeep (by rw [hsched])
  | created t _ _ hsched _ =>
    have hseed : m.sched.cidSeed = m.sched.created := h.table.seed
    refine ⟨?_, ?_⟩
    · apply List.nodup_append.mpr
      refine ⟨hi.nodup, List.nodup_singleton _, fun c hc d hd => ?_⟩
      have hlt := hi.below c hc
      rw [List.mem_singleton.mp hd, hseed]
      omega
    · intro c hc
      rw [hsched, CoroutineScheduler.created_enroll]
      rcases List.mem_append.mp hc with hold | hnew
      · have hlt := hi.below c hold
        omega
      · rw [List.mem_singleton.mp hnew, hseed]
        omega
  | destroyed cid hsched _ => exact hkeep (by rw [hsched]; rfl)
  | resumed cid ctx _ _ hsched _ => exact hkeep (by rw [hsched]; rfl)
  | yielded cid ctx _ _ hsched _ => exact hkeep (by rw [hsched]; rfl)
  | finished cid ctx _ _ hsched _ =>
    apply hkeep
    rw [hsched]
    exact CoroutineScheduler.created_setState m.sched cid .done

theorem Entered.effect {max : Int} {m m' : Machine α} (h : Orderly max m) {is es fs : List Int}
    (hi : Entered m es) (he : Effect m m' is fs) : Entered m' (es ++ fs) := by
  have hkeep : m'.sched.created = m.sched.created →
      (∀ c ctx, m'.sched.find c = some ctx → ctx.state = .ready → m.sched.find c = some ctx) →
      Entered m' (es ++ []) := by
    intro hcreated hready
    rw [List.append_nil]
    refine ⟨hi.nodup, by rw [hcreated]; exact hi.below, fun c hc ctx hfind hst => ?_⟩
    exact hi.notReady c hc ctx (hready c ctx hfind hst) hst
  cases he with
  | nothing hsched _ => exact hkeep (by rw [hsched]) (by rw [hsched]; exact fun _ _ hc _ => hc)
  | created t _ _ hsched _ =>
    rw [List.append_nil]
    refine ⟨hi.nodup, fun c hc => ?_, fun c hc ctx hfind hst => ?_⟩
    · have hlt := hi.below c hc
      rw [hsched, CoroutineScheduler.created_enroll]
      omega
    · rw [hsched] at hfind
      rcases CoroutineScheduler.find_put_cases (s := m.sched) hfind with
        ⟨hseed, _⟩ | ⟨_, hold⟩
      · have hlt := hi.below c hc
        rw [hseed, h.table.seed] at hlt
        exact lt_irrefl _ hlt
      · exact hi.notReady c hc ctx hold hst
  | destroyed cid hsched _ =>
    apply hkeep (by rw [hsched]; rfl)
    intro c ctx hfind _
    rw [hsched] at hfind
    exact (CoroutineScheduler.find_destroy_some hfind).2
  | resumed cid ctx _ hfind hsched _ =>
    have hentered : ∀ c d, m'.sched.find c = some d → d.state = .ready →
        c ≠ cid ∧ m.sched.find c = some d := by
      intro c d hc hst
      rw [hsched] at hc
      rcases CoroutineScheduler.find_put_cases (s := m.sched) hc with
        ⟨_, rfl⟩ | ⟨hne, hold⟩
      · cases hst
      · exact ⟨hne, hold⟩
    have hcreated : m'.sched.created = m.sched.created := by rw [hsched]; rfl
    by_cases hready : ctx.state = .ready
    · rw [if_pos hready]
      refine ⟨?_, ?_, ?_⟩
      · apply List.nodup_append.mpr
        refine ⟨hi.nodup, List.nodup_singleton _, fun c hc d hd heq => ?_⟩
        rw [heq, List.mem_singleton.mp hd] at hc
        exact hi.notReady cid hc ctx hfind hready
      · intro c hc
        rw [hcreated]
        rcases List.mem_append.mp hc with hold | hnew
        · exact hi.below c hold
        · rw [List.mem_singleton.mp hnew]
          exact (h.table.range hfind).2
      · intro c hc d hd hst
        obtain ⟨hne, hold⟩ := hentered c d hd hst
        rcases List.mem_append.mp hc with hmem | hnew
        · exact hi.notReady c hmem d hold hst
        · exact hne (List.mem_singleton.mp hnew)
    · rw [if_neg hready]
      exact hkeep hcreated fun c d hc hst => (hentered c d hc hst).2
  | yielded cid ctx _ hfind hsched _ =>
    apply hkeep (by rw [hsched]; rfl)
    intro c d hc hst
    rw [hsched] at hc
    rcases CoroutineScheduler.find_put_cases (s := m.sched) hc with
      ⟨_, rfl⟩ | ⟨_, hold⟩
    · cases hst
    · exact hold
  | finished cid ctx _ _ hsched _ =>
    apply hkeep
    · rw [hsched]
      exact CoroutineScheduler.created_setState m.sched cid .done
    · intro c d hc _
      rw [hsched] at hc
      obtain ⟨hne, hc⟩ := CoroutineScheduler.find_destroy_some hc
      exact (CoroutineScheduler.find_setState_ne _ hne .done).symm.trans hc

/-- What the states and the running id say of the context that runs. -/
structure InOrder (max : Int) (m : Machine α) : Prop where
  main : m.cur = .main → m.sched.runningCid = -1 ∧
    (m.sched.coroutineTable.entries.length : Int) ≤ max ∧
    ∀ cid ctx, m.sched.find cid = some ctx → ctx.state ≠ .running ∧ ctx.state ≠ .done
  coroutine : ∀ cid, m.cur = .coroutine cid → m.sched.runningCid = cid ∧
    (∃ ctx, m.sched.find cid = some ctx ∧ ctx.state = .running) ∧
    ∀ c ctx, m.sched.find c = some ctx → ctx.state = .running → c = cid

theorem Orderly.inOrder {max : Int} {m : Machine α} (h : Orderly max m) : InOrder max m where
  main hcur := by
    refine ⟨by rw [h.deep.running, hcur]; rfl, h.table.size, fun cid ctx hfind => ⟨?_, ?_⟩⟩
    · intro hrun
      cases hcur.symm.trans (h.table.running hfind hrun)
    · exact h.table.notDone hfind
  coroutine cid hcur := by
    have hp := h.deep.pending
    rw [hcur] at hp
    refine ⟨by rw [h.deep.running, hcur]; rfl, hp.2.1, fun c ctx hfind hrun => ?_⟩
    cases hcur.symm.trans (h.table.running hfind hrun)
    rfl

end Machine

/-- A run of the scheduler under a disciplined caller comes to its end, with the tables in order,
every id given once, every function entered once and every assertion met. -/
theorem disciplined_run {max : Int} (hmax : 0 ≤ max) {as : List (CoAction α)}
    (h : Run.Along Machine.step Machine.Disciplined (Machine.init max) as) :
    (∃ m, Run.run Machine.step (Machine.init max) as = some m ∧ Machine.InOrder max m) ∧
      (Run.trace Machine.step Machine.issued (Machine.init max) as).Nodup ∧
      (Run.trace Machine.step Machine.entered (Machine.init max) as).Nodup ∧
      Run.Along Machine.step Machine.AssertionsHold (Machine.init max) as := by
  have hinit := Machine.orderly_init (α := α) hmax
  obtain ⟨m, hrun, hm⟩ := Run.run_goes_on (I := Machine.Orderly max)
    (fun _ _ hs ha => hs.step hmax ha) hinit h
  have hnoneIssued : Machine.Issued (Machine.init (α := α) max) [] :=
    ⟨List.nodup_nil, by simp⟩
  have hnoneEntered : Machine.Entered (Machine.init (α := α) max) [] :=
    ⟨List.nodup_nil, by simp, by simp⟩
  have hissued := Run.run_inv_observed (f := Machine.issued)
    (I := fun m is => Machine.Orderly max m ∧ Machine.Issued m is)
    (fun _ _ _ _ hs ha hstep =>
      have ho := hs.1.step_some hmax ha hstep
      ⟨ho.1, hs.2.effect hs.1 ho.2⟩) ⟨hinit, hnoneIssued⟩ h hrun
  have hentered := Run.run_inv_observed (f := Machine.entered)
    (I := fun m es => Machine.Orderly max m ∧ Machine.Entered m es)
    (fun _ _ _ _ hs ha hstep =>
      have ho := hs.1.step_some hmax ha hstep
      ⟨ho.1, hs.2.effect hs.1 ho.2⟩) ⟨hinit, hnoneEntered⟩ h hrun
  refine ⟨⟨m, hrun, hm.inOrder⟩, hissued.2.nodup, hentered.2.nodup, ?_⟩
  exact Run.along_of_inv (I := Machine.Orderly max)
    (fun _ _ _ hs ha hstep => (hs.step_some hmax ha hstep).1)
    (fun _ _ hs ha => hs.assertionsHold ha) hinit h

unseal CoroutineScheduler.cidSeed in
/-- Two coroutines are created; main resumes the first, which yields, then the second, which
returns, and asks for one that does not exist. -/
theorem disciplined_run_interleaved :
    let as : List (CoAction Unit) := [.create (some ()) true, .create (some ()) true, .resume 0,
      .yield, .resume 1, .finish, .resume 1, .destroy 0]
    (∃ m, Run.run Machine.step (Machine.init 2) as = some m ∧ Machine.InOrder 2 m) ∧
      (Run.trace Machine.step Machine.issued (Machine.init 2) as).Nodup ∧
      (Run.trace Machine.step Machine.entered (Machine.init 2) as).Nodup ∧
      Run.Along Machine.step Machine.AssertionsHold (Machine.init 2) as :=
  disciplined_run (by decide) (by decide)

end Rapidapp
