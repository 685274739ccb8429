import Mathlib.Logic.Function.Basic
import Rapidapp.Misc.Run
import Rapidapp.Coroutine.Scheduler

/-!
# CoroutineScheduler: the context switches

`coroutine/mc_coroutine.cpp:82-180` with `swapcontext`, `makecontext` and `uc_link`. A
continuation says where a context goes on when it is switched to; `swapcontext` saves one in
the slot it is given and jumps to the one stored in the other. There is a slot in every
coroutine (`uctx`) and the single slot `mainCtx` that `ResumeCoroutine` saves into and that
yielding and returning jump to.

What the calls should do is a stack discipline: a call of `ResumeCoroutine` is pending until
the coroutine it resumed yields or returns, and then control is back in its caller
(`Switch.accepts`). The machine keeps to it as long as only the main context resumes
coroutines (`returnsToCaller`); with nested calls the slot of the outer one is overwritten.
-/

namespace Rapidapp

namespace Switch

/-- A context: the main one or the stack of a coroutine. -/
inductive Ctx where
  | main
  | coroutine (cid : Int)
  deriving DecidableEq, Repr

/-- The `running_cid_` that belongs to a context. -/
def Ctx.id : Ctx → Int
  | .main => -1
  | .coroutine cid => cid

/-- Where a context goes on: at the entry of `ScheduleFunction`, behind the `swapcontext` of the
`k`-th call of `ResumeCoroutine`, or behind the one in `YieldCoroutine`. -/
inductive Cont where
  | entry (cid : Int)
  | inResume (k : Nat) (caller : Ctx) (cid : Int)
  | inYield (x : Ctx)
  deriving DecidableEq, Repr

/-- What can be observed: the `k`-th call of `ResumeCoroutine` switches from its caller to a
coroutine; the context `x` yields or its function returns, and with that the `k`-th call
returns in the context `y`, `running_cid_` being `running`; the context `x` yields and stays. -/
inductive Event where
  | call (k : Nat) (caller : Ctx) (cid : Int)
  | back (x : Ctx) (k : Nat) (y : Ctx) (running : Int)
  | stay (x : Ctx)
  deriving DecidableEq, Repr

/-! ## The stack discipline -/

/-- A call of `ResumeCoroutine` that has not returned. -/
structure Pending where
  k : Nat
  caller : Ctx
  cid : Int
  deriving DecidableEq, Repr

/-- One event is as it should be, given the current context and the pending calls: a call is made
by the current context, and when the coroutine of the innermost call stops, this call returns to
the context that made it, and `running_cid_` is that context's. To yield does nothing in the
main context only. -/
def acceptEvent : Ctx × List Pending → Event → Option (Ctx × List Pending)
  | (cur, stack), .call k caller cid =>
    if caller = cur then some (.coroutine cid, ⟨k, caller, cid⟩ :: stack) else none
  | (cur, top :: stack), .back x k y running =>
    if x = cur ∧ x = .coroutine top.cid ∧ k = top.k ∧ y = top.caller ∧ running = y.id then
      some (y, stack)
    else none
  | (_, []), .back .. => none
  | (cur, stack), .stay x => if x = cur ∧ x = .main then some (cur, stack) else none

/-- The current context and the pending calls after the events, or `none` when one of them is not
as it should be. -/
def accepts (log : List Event) : Option (Ctx × List Pending) :=
  log.foldlM acceptEvent (.main, [])

theorem accepts_concat (log : List Event) (e : Event) :
    accepts (log ++ [e]) = (accepts log).bind fun s => acceptEvent s e := by
  simp only [accepts, List.foldlM_append, List.foldlM_cons, List.foldlM_nil, bind_pure]
  rfl

end Switch

open Switch

/-! ## The machine -/

/-- The scheduler with the context slots, the context that runs, and two ghosts: the number of
calls made so far and the observable events. -/
structure Machine (α : Type) where
  sched : CoroutineScheduler α
  mainCtx : Option Cont
  uctx : Int → Option Cont
  cur : Ctx
  calls : Nat
  log : List Event

/-- What the code of the running context does next; `finish` is the return of the coroutine's
function. -/
inductive CoAction (α : Type) where
  | create (task : Option α) (callocOk : Bool)
  | destroy (cid : Int)
  | resume (cid : Int)
  | yield
  | finish

variable {α : Type}

namespace Machine

/-- A scheduler before anything was created. -/
def init (cocurrentNum : Int) : Machine α where
  sched := .init cocurrentNum
  mainCtx := none
  uctx := fun _ => none
  cur := .main
  calls := 0
  log := []

/-- Go on at a continuation. `none` is the failed assertion of `ScheduleFunction`. -/
def jump (m : Machine α) : Cont → Option (Machine α)
  | .entry cid => if cid < 0 then none else some { m with cur := .coroutine cid }
  | .inYield x => some { m with cur := x }
  | .inResume k caller cid =>
    some { m with
      cur := caller
      sched := m.sched.reap cid
      log := m.log ++ [.back m.cur k caller m.sched.runningCid] }

/-- The part of `ResumeCoroutine` up to the switch, for a coroutine whose context goes on at
`k`. -/
def switchTo (m : Machine α) (cid : Int) (ctx : CoroutineCtx α) : Machine α :=
  { m with
    sched := m.sched.enter cid ctx
    mainCtx := some (.inResume m.calls m.cur cid)
    calls := m.calls + 1
    log := m.log ++ [.call m.calls m.cur cid] }

/-- One action of the running context. `none`: an assertion fails, or the behaviour is not
defined (a switch to an empty slot, the freeing of a stack in use, a return from the main
context, a `cid_seed` that has run over and comes to an id in use). -/
def step (m : Machine α) : CoAction α → Option (Machine α)
  | .create task callocOk =>
    if (m.sched.find m.sched.cidSeed).isSome then none
    else some { m with sched := (m.sched.createCoroutine task callocOk).2 }
  | .destroy cid =>
    match m.sched.find cid with
    | none => some m
    | some ctx =>
      if ctx.state = .running then none
      else some { m with sched := m.sched.destroyCoroutine cid }
  | .resume cid =>
    match m.sched.find cid with
    | none => some m
    | some ctx =>
      match ctx.state with
      | .ready =>
        ({ m.switchTo cid ctx with
          uctx := Function.update m.uctx cid (some (.entry ctx.idx)) }).jump (.entry ctx.idx)
      | .suspend =>
        match m.uctx cid with
        | none => none
        | some k => (m.switchTo cid ctx).jump k
      | .running => some m
      | .done => none
  | .yield =>
    if m.sched.runningCid < 0 then some { m with log := m.log ++ [.stay m.cur] }
    else
      match m.sched.find m.sched.runningCid with
      | none => some { m with log := m.log ++ [.stay m.cur] }
      | some ctx =>
        match m.mainCtx with
        | none => none
        | some k =>
          ({ m with
            sched := m.sched.leave m.sched.runningCid ctx
            uctx := Function.update m.uctx m.sched.runningCid (some (.inYield m.cur)) }).jump k
  | .finish =>
    match m.cur with
    | .main => none
    | .coroutine cid =>
      match m.mainCtx with
      | none => none
      | some k => ({ m with sched := m.sched.conclude cid }).jump k

/-- The action does not switch to a coroutine from within a coroutine. -/
def FromMain (m : Machine α) (a : CoAction α) : Prop :=
  ∀ cid ctx, a = .resume cid → m.sched.find cid = some ctx → ctx.state ≠ .running → m.cur = .main

theorem FromMain.of_cur {m : Machine α} {a : CoAction α} (h : m.cur = .main) : FromMain m a :=
  fun _ _ _ _ _ => h

theorem FromMain.of_ne {m : Machine α} {a : CoAction α} (h : ∀ cid, a ≠ .resume cid) :
    FromMain m a := fun cid _ ha => absurd ha (h cid)

/-- What holds as long as only the main context resumes: at most one call is pending, its caller
is main, and the main slot leads back to it. -/
structure OneDeep (m : Machine α) : Prop where
  idx : ∀ {cid ctx}, m.sched.find cid = some ctx → ctx.idx = cid
  slot : ∀ {cid ctx}, m.sched.find cid = some ctx → ctx.state = .suspend →
    m.uctx cid = some (.inYield (.coroutine cid)) ∧ 0 ≤ cid
  running : m.sched.runningCid = m.cur.id
  pending : match m.cur with
    | .main => accepts m.log = some (.main, [])
    | .coroutine cid => 0 ≤ cid ∧
        (∃ ctx, m.sched.find cid = some ctx ∧ ctx.state = .running) ∧
        ∃ k, m.mainCtx = some (.inResume k .main cid) ∧
          accepts m.log = some (.coroutine cid, [⟨k, .main, cid⟩])

theorem oneDeep_init (cocurrentNum : Int) : OneDeep (init (α := α) cocurrentNum) where
  idx h := by cases h
  slot h := by cases h
  running := rfl
  pending := rfl

/-- A change of the table that keeps the running coroutine. -/
theorem OneDeep.pending_of {m m' : Machine α} (h : OneDeep m)
    (hfind : ∀ {cid ctx}, m.sched.find cid = some ctx → ctx.state = .running →
      m'.sched.find cid = some ctx)
    (hcur : m'.cur = m.cur) (hmain : m'.mainCtx = m.mainCtx) (hlog : m'.log = m.log) :
    match m'.cur with
    | .main => accepts m'.log = some (.main, [])
    | .coroutine cid => 0 ≤ cid ∧
        (∃ ctx, m'.sched.find cid = some ctx ∧ ctx.state = .running) ∧
        ∃ k, m'.mainCtx = some (.inResume k .main cid) ∧
          accepts m'.log = some (.coroutine cid, [⟨k, .main, cid⟩]) := by
  have hp := h.pending
  rw [hcur, hmain, hlog]
  cases hm : m.cur with
  | main => rw [hm] at hp; exact hp
  | coroutine cid =>
    rw [hm] at hp
    obtain ⟨hnonneg, ⟨ctx, hctx, hrun⟩, hk⟩ := hp
    exact ⟨hnonneg, ⟨ctx, hfind hctx hrun, hrun⟩, hk⟩

/-- The coroutine that main has resumed stops: main's call returns. -/
theorem oneDeep_back {m m' : Machine α} (h : OneDeep m) {cid : Int} (hcur : m.cur = .coroutine cid)
    {sched : CoroutineScheduler α} {uctx : Int → Option Cont} {k : Cont}
    (hk : m.mainCtx = some k) (hrun : sched.runningCid = -1)
    (hidx : ∀ {c ctx}, sched.find c = some ctx → ctx.idx = c)
    (hslot : ∀ {c ctx}, sched.find c = some ctx → ctx.state = .suspend →
      uctx c = some (.inYield (.coroutine c)) ∧ 0 ≤ c)
    (hj : ({ m with sched := sched, uctx := uctx }).jump k = some m') : OneDeep m' := by
  have hp := h.pending
  rw [hcur] at hp
  obtain ⟨_, _, j, hmain, hacc⟩ := hp
  obtain rfl : k = .inResume j .main cid := Option.some.inj (hk.symm.trans hmain)
  simp only [jump, Option.some.injEq] at hj
  subst hj
  refine ⟨fun hc => hidx (CoroutineScheduler.find_reap_some hc),
    fun hc hs => hslot (CoroutineScheduler.find_reap_some hc) hs, ?_, ?_⟩
  · simp only [CoroutineScheduler.runningCid_reap, hrun]
    rfl
  · simp only [hcur, hrun, accepts_concat, hacc, Option.bind_some]
    simp [acceptEvent, Ctx.id]

/-- Main resumes a coroutine that is ready or suspended. -/
theorem oneDeep_call {m m' : Machine α} (h : OneDeep m) (hcur : m.cur = .main) {cid : Int}
    {ctx : CoroutineCtx α} (hfind : m.sched.find cid = some ctx) {uctx : Int → Option Cont}
    {k : Cont} (hk : k = .entry cid ∨ (k = .inYield (.coroutine cid) ∧ 0 ≤ cid))
    (huctx : ∀ c, c ≠ cid → uctx c = m.uctx c)
    (hj : ({ m.switchTo cid ctx with uctx := uctx }).jump k = some m') : OneDeep m' := by
  have hp := h.pending
  rw [hcur] at hp
  obtain ⟨hnonneg, rfl⟩ : 0 ≤ cid ∧
      m' = { m.switchTo cid ctx with uctx := uctx, cur := .coroutine cid } := by
    obtain rfl | ⟨rfl, hnonneg⟩ := hk
    · simp only [jump] at hj
      split_ifs at hj with hneg
      exact ⟨not_lt.mp hneg, (Option.some.inj hj).symm⟩
    · exact ⟨hnonneg, (Option.some.inj hj).symm⟩
  have hold : ∀ {c d}, (m.sched.enter cid ctx).find c = some d →
      (c = cid ∧ d = { ctx with state := .running }) ∨ (c ≠ cid ∧ m.sched.find c = some d) :=
    fun hc => CoroutineScheduler.find_put_cases (s := m.sched) hc
  refine ⟨?_, ?_, ?_, ?_⟩
  · intro c d hc
    obtain ⟨rfl, rfl⟩ | ⟨_, hc⟩ := hold hc
    · have hidx := h.idx hfind
      exact hidx
    · exact h.idx hc
  · intro c d hc hs
    obtain ⟨rfl, rfl⟩ | ⟨hne, hc⟩ := hold hc
    · cases hs
    · have hold := h.slot hc hs
      exact ⟨(huctx c hne).trans hold.1, hold.2⟩
  · exact h.idx hfind
  · refine ⟨hnonneg, ⟨_, CoroutineScheduler.find_put_self _ _ _, rfl⟩, m.calls, ?_, ?_⟩
    · simp only [switchTo, hcur]
    · simp only [switchTo, hcur, accepts_concat, hp, Option.bind_some]
      simp [acceptEvent]

theorem OneDeep.step {m m' : Machine α} {a : CoAction α} (h : OneDeep m) (hmain : FromMain m a)
    (hs : m.step a = some m') : OneDeep m' := by
  cases a with
  | create task callocOk =>
    simp only [Machine.step] at hs
    split_ifs at hs with hfree
    cases hs
    obtain ⟨r, _, heq, _⟩ | ⟨t, _, _, _, heq⟩ := m.sched.createCoroutine_cases task callocOk
    · rw [heq]; exact ⟨h.idx, h.slot, h.running, h.pending⟩
    · rw [heq]
      have hold : ∀ {c d}, (m.sched.enroll t).find c = some d →
          (c = m.sched.cidSeed ∧ d = ⟨m.sched.cidSeed, .ready, t⟩) ∨
            (c ≠ m.sched.cidSeed ∧ m.sched.find c = some d) :=
        fun hc => CoroutineScheduler.find_put_cases (s := m.sched) hc
      refine ⟨fun hc => ?_, fun hc hsus => ?_, h.running, h.pending_of ?_ rfl rfl rfl⟩
      · obtain ⟨hcid, rfl⟩ | ⟨_, hc⟩ := hold hc
        · rw [hcid]
        · exact h.idx hc
      · obtain ⟨_, rfl⟩ | ⟨_, hc⟩ := hold hc
        · cases hsus
        · exact h.slot hc hsus
      · intro c d hc _
        have hcc : c ≠ m.sched.cidSeed := fun heq => hfree (by rw [← heq, hc]; rfl)
        exact (CoroutineScheduler.find_enroll_ne _ hcc _).trans hc
  | destroy cid =>
    simp only [Machine.step] at hs
    split at hs
    · cases hs; exact h
    · next ctx hfind =>
      split at hs
      · cases hs
      · next hstate =>
        cases hs
        refine ⟨fun hc => h.idx (CoroutineScheduler.find_destroy_some hc).2,
          fun hc => h.slot (CoroutineScheduler.find_destroy_some hc).2, h.running,
          h.pending_of ?_ rfl rfl rfl⟩
        intro c d hc hrun
        have hcc : c ≠ cid := by
          rintro rfl
          cases hc.symm.trans hfind
          exact hstate hrun
        exact (CoroutineScheduler.find_destroy_ne _ hcc).trans hc
  | resume cid =>
    simp only [Machine.step] at hs
    split at hs
    · cases hs; exact h
    · next ctx hfind =>
      have hidx := h.idx hfind
      split at hs
      · next hst =>
        have hcur := hmain cid ctx rfl hfind (by rw [hst]; decide)
        rw [hidx] at hs
        exact oneDeep_call h hcur hfind (.inl rfl) (fun c hc => Function.update_of_ne hc _ _) hs
      · next hst =>
        have hcur := hmain cid ctx rfl hfind (by rw [hst]; decide)
        obtain ⟨hslot, hnonneg⟩ := h.slot hfind hst
        rw [hslot] at hs
        exact oneDeep_call h hcur hfind (.inr ⟨rfl, hnonneg⟩) (fun c _ => rfl) hs
      · cases hs; exact h
      · cases hs
  | yield =>
    have hp := h.pending
    simp only [Machine.step] at hs
    cases hcur : m.cur with
    | main =>
      rw [hcur] at hp
      have hneg : m.sched.runningCid < 0 := by rw [h.running, hcur]; decide
      rw [if_pos hneg] at hs
      cases hs
      refine ⟨h.idx, h.slot, h.running, ?_⟩
      simp only [hcur, accepts_concat, hp, Option.bind_some]
      rfl
    | coroutine cid =>
      rw [hcur] at hp
      obtain ⟨hnonneg, ⟨ctx, hfind, _⟩, _⟩ := hp
      have hrunning : m.sched.runningCid = cid := by rw [h.running, hcur]; rfl
      rw [hrunning, if_neg (not_lt.mpr hnonneg), hfind] at hs
      dsimp only at hs
      split at hs
      · cases hs
      · next k hk =>
        refine oneDeep_back h hcur hk rfl ?_ ?_ hs
        · intro c d hc
          obtain ⟨rfl, rfl⟩ | ⟨_, hc⟩ := CoroutineScheduler.find_put_cases (s := m.sched) hc
          · have hidx := h.idx hfind
            exact hidx
          · exact h.idx hc
        · intro c d hc hsus
          obtain ⟨rfl, rfl⟩ | ⟨hne, hc⟩ := CoroutineScheduler.find_put_cases (s := m.sched) hc
          · exact ⟨by rw [Function.update_self, hcur], hnonneg⟩
          · rw [Function.update_of_ne hne]
            exact h.slot hc hsus
  | finish =>
    simp only [Machine.step] at hs
    split at hs
    · cases hs
    · next cid hcur =>
      split at hs
      · cases hs
      · next k hk =>
        have hold : ∀ {c d}, (m.sched.conclude cid).find c = some d →
            (∃ d', c = cid ∧ m.sched.find c = some d' ∧ d = { d' with state := .done }) ∨
              (c ≠ cid ∧ m.sched.find c = some d) :=
          fun hc => CoroutineScheduler.find_setState_cases (s := m.sched) hc
        refine oneDeep_back h hcur hk rfl ?_ ?_ hs
        · intro c d hc
          obtain ⟨d', _, hd', rfl⟩ | ⟨_, hc⟩ := hold hc
          · have hidx := h.idx hd'
            exact hidx
          · exact h.idx hc
        · intro c d hc hsus
          obtain ⟨d', _, _, rfl⟩ | ⟨_, hc⟩ := hold hc
          · cases hsus
          · exact h.slot hc hsus

/-! ## A call from the main context, from its start to its return -/

/-- `ResumeCoroutine` in the main context goes over to a coroutine that is ready or suspended. -/
theorem step_resume {m : Machine α} (h : OneDeep m) (hcur : m.cur = .main) {cid : Int}
    {ctx : CoroutineCtx α} (hfind : m.sched.find cid = some ctx) (hnonneg : 0 ≤ cid)
    (hstate : ctx.state = .ready ∨ ctx.state = .suspend) :
    ∃ m', m.step (.resume cid) = some m' ∧ m'.sched = m.sched.enter cid ctx ∧
      m'.cur = .coroutine cid ∧ m'.mainCtx = some (.inResume m.calls .main cid) := by
  have hidx := h.idx hfind
  rcases hstate with hstate | hstate
  · simp only [step, hfind, hstate, jump, hidx, if_neg (not_lt.mpr hnonneg)]
    exact ⟨_, rfl, rfl, rfl, by simp only [switchTo, hcur]⟩
  · obtain ⟨hslot, _⟩ := h.slot hfind hstate
    simp only [step, hfind, hstate, hslot, jump]
    exact ⟨_, rfl, rfl, rfl, by simp only [switchTo, hcur]⟩

/-- The coroutine yields: the call has left the scheduler that `yieldCoroutine` and `reap` give. -/
theorem run_resume_yield {m : Machine α} (h : OneDeep m) (hcur : m.cur = .main) {cid : Int}
    {ctx : CoroutineCtx α} (hfind : m.sched.find cid = some ctx) (hnonneg : 0 ≤ cid)
    (hstate : ctx.state = .ready ∨ ctx.state = .suspend) :
    ∃ m', Run.run step m [.resume cid, .yield] = some m' ∧ m'.cur = .main ∧
      m'.sched = (m.sched.enter cid ctx).yieldCoroutine.reap cid := by
  obtain ⟨m₁, hs, hsched, _, hmain⟩ := step_resume h hcur hfind hnonneg hstate
  have hidx := h.idx hfind
  have hrunning : (m.sched.enter cid ctx).runningCid = cid := hidx
  have hentered : (m.sched.enter cid ctx).find cid = some { ctx with state := .running } :=
    CoroutineScheduler.find_put_self _ _ _
  rw [Run.run_cons, hs, Option.bind_some, Run.run_singleton]
  simp only [step, hsched, hrunning, if_neg (not_lt.mpr hnonneg), hentered, hmain, jump]
  refine ⟨_, rfl, rfl, ?_⟩
  simp only [CoroutineScheduler.yieldCoroutine, hrunning, if_neg (not_lt.mpr hnonneg), hentered]

/-- The coroutine's function returns: the call has left the scheduler that `conclude` and `reap`
give. -/
theorem run_resume_finish {m : Machine α} (h : OneDeep m) (hcur : m.cur = .main) {cid : Int}
    {ctx : CoroutineCtx α} (hfind : m.sched.find cid = some ctx) (hnonneg : 0 ≤ cid)
    (hstate : ctx.state = .ready ∨ ctx.state = .suspend) :
    ∃ m', Run.run step m [.resume cid, .finish] = some m' ∧ m'.cur = .main ∧
      m'.sched = ((m.sched.enter cid ctx).conclude ctx.idx).reap cid := by
  obtain ⟨m₁, hs, hsched, hcur₁, hmain⟩ := step_resume h hcur hfind hnonneg hstate
  rw [Run.run_cons, hs, Option.bind_some, Run.run_singleton]
  simp only [step, hcur₁, hmain, jump]
  refine ⟨_, rfl, rfl, ?_⟩
  simp only [hsched, h.idx hfind]

end Machine

/-- Every call of `ResumeCoroutine` that switches returns to the context that made it, exactly
once, when the coroutine yields or returns, and `running_cid_` is then that context's. -/
def ReturnsToCaller (m : Machine α) : Prop := (accepts m.log).isSome

/-- In a run in which only the main context switches to coroutines, all calls return to their
callers. -/
theorem returnsToCaller {cocurrentNum : Int} {as : List (CoAction α)} {m : Machine α}
    (hmain : Run.Along Machine.step Machine.FromMain (Machine.init cocurrentNum) as)
    (hrun : Run.run Machine.step (Machine.init cocurrentNum) as = some m) :
    ReturnsToCaller m ∧ m.sched.runningCid = m.cur.id := by
  have h : Machine.OneDeep m := Run.run_inv (fun _ _ _ hi ha hs => hi.step ha hs)
    (Machine.oneDeep_init cocurrentNum) hmain hrun
  refine ⟨?_, h.running⟩
  have hp := h.pending
  unfold ReturnsToCaller
  cases hcur : m.cur with
  | main => rw [hcur] at hp; rw [hp]; rfl
  | coroutine cid =>
    rw [hcur] at hp
    obtain ⟨_, _, k, _, hacc⟩ := hp
    rw [hacc]
    rfl

unseal CoroutineScheduler.cidSeed in
/-- Main creates two coroutines, resumes the first, which yields, and resumes the second. -/
theorem returnsToCaller_interleaved :
    ∃ m, Run.run Machine.step (Machine.init (α := Unit) 8)
        [.create (some ()) true, .create (some ()) true, .resume 0, .yield,
          .resume 1] = some m ∧ ReturnsToCaller m ∧ m.sched.runningCid = m.cur.id := by
  obtain ⟨m, hm⟩ : ∃ m, Run.run Machine.step (Machine.init (α := Unit) 8)
      [.create (some ()) true, .create (some ()) true, .resume 0, .yield,
        .resume 1] = some m := ⟨_, rfl⟩
  refine ⟨m, hm, returnsToCaller ?_ hm⟩
  refine Run.along_cons (.of_ne nofun) rfl ?_
  refine Run.along_cons (.of_ne nofun) rfl ?_
  refine Run.along_cons (.of_cur rfl) rfl ?_
  refine Run.along_cons (.of_ne nofun) rfl ?_
  exact ⟨.of_cur rfl, fun _ _ => trivial⟩

unseal CoroutineScheduler.cidSeed in
/-- The first coroutine resumes the second, and that one yields: the call returns to the first
coroutine while `running_cid_` is -1, and the way back to main is lost. -/
theorem nested_resume_loses_caller :
    ∃ m, Run.run Machine.step (Machine.init (α := Unit) 8)
        [.create (some ()) true, .create (some ()) true, .resume 0, .resume 1, .yield] = some m ∧
      ¬ ReturnsToCaller m := by
  refine ⟨_, rfl, ?_⟩
  unfold ReturnsToCaller
  decide

end Rapidapp
