import Rapidapp.Framework.Timer
import Rapidapp.Misc.VectorOps

/-!
# The list of timers over its whole life

`TimerMgr` in `framework/rapidapp_timer_mgr.{h,cpp}` and `AppFrameWork::DestroyTimer`. Timers are
put in at the `upper_bound` of their timestamp, so the list is ordered by timestamp and, among
equal ones, by the call that gave it (`timerList_history`). `RemoveTimer` erases while it goes on
with the same iterator; for the last timer of the list the iterator leaves the vector
(`removesExactly_iff`).
-/

namespace Rapidapp

/-! ## Insertion -/

theorem insertTimer_perm (timer : EasyTimer) (ts : List EasyTimer) :
    (insertTimer timer ts).Perm (timer :: ts) := by
  induction ts with
  | nil => exact List.Perm.refl _
  | cons t ts ih =>
    rw [insertTimer]
    split
    · exact List.Perm.refl _
    · exact (ih.cons t).trans (List.Perm.swap timer t ts)

/-- The timer comes to stand between those it is not due before and those it is. -/
theorem insertTimer_split (timer : EasyTimer) {ts : List EasyTimer} (h : SortedTimers ts) :
    ∃ left right, ts = left ++ right ∧ insertTimer timer ts = left ++ timer :: right ∧
      (∀ t ∈ left, timerCmpFunc timer t = false) ∧ ∀ t ∈ right, timerCmpFunc timer t = true := by
  induction ts with
  | nil => exact ⟨[], [], rfl, rfl, by simp, by simp⟩
  | cons t ts ih =>
    obtain ⟨hfirst, hrest⟩ := List.pairwise_cons.mp h
    by_cases hlt : timerCmpFunc timer t = true
    · refine ⟨[], t :: ts, rfl, by simp [insertTimer, hlt], by simp, fun u hu => ?_⟩
      rcases List.mem_cons.mp hu with rfl | hu
      · exact hlt
      · have hdue : timer.nextActiveTimestamp < t.nextActiveTimestamp := by
          simpa [timerCmpFunc] using hlt
        simpa [timerCmpFunc] using lt_of_lt_of_le hdue (hfirst u hu)
    · obtain ⟨left, right, hts, hinsert, hleft, hright⟩ := ih hrest
      refine ⟨t :: left, right, by rw [hts]; rfl, ?_, fun u hu => ?_, hright⟩
      · rw [insertTimer, if_neg hlt, hinsert, List.cons_append]
      · rcases List.mem_cons.mp hu with rfl | hu
        · simpa using hlt
        · exact hleft u hu

/-- The place is the one the search of `upper_bound` finds. -/
theorem insertTimer_eq_insertIdx (timer : EasyTimer) {ts : List EasyTimer} (h : SortedTimers ts) :
    insertTimer timer ts =
      ts.insertIdx (VectorOps.upperBound (timerCmpFunc timer) ts) timer := by
  obtain ⟨left, right, rfl, hinsert, hleft, hright⟩ := insertTimer_split timer h
  rw [hinsert, VectorOps.upperBound_eq hleft hright]
  clear hinsert hleft hright h
  induction left with
  | nil => simp
  | cons t left ih => simpa using ih

/-- What holds between a timer and those it is put before and behind holds along the list. -/
theorem pairwise_insertTimer {R : EasyTimer → EasyTimer → Prop} {timer : EasyTimer}
    {ts : List EasyTimer} (hsorted : SortedTimers ts) (h : ts.Pairwise R)
    (hbefore : ∀ t ∈ ts, timer.nextActiveTimestamp < t.nextActiveTimestamp → R timer t)
    (hbehind : ∀ t ∈ ts, t.nextActiveTimestamp ≤ timer.nextActiveTimestamp → R t timer) :
    (insertTimer timer ts).Pairwise R := by
  obtain ⟨left, right, rfl, hinsert, hleft, hright⟩ := insertTimer_split timer hsorted
  obtain ⟨hl, hr, hlr⟩ := List.pairwise_append.mp h
  rw [hinsert]
  refine List.pairwise_append.mpr ⟨hl, List.pairwise_cons.mpr ⟨fun t ht => ?_, hr⟩, ?_⟩
  · apply hbefore t (List.mem_append_right left ht)
    simpa [timerCmpFunc] using hright t ht
  · intro t ht u hu
    rcases List.mem_cons.mp hu with rfl | hu
    · apply hbehind t (List.mem_append_left right ht)
      simpa [timerCmpFunc] using hleft t ht
    · exact hlr t ht u hu

/-! ## Removal -/

namespace TimerMgr

/-- What the loop of `RemoveTimer` looks for, the pointer; it goes on to compare the id of the
timer with itself. -/
def isTimer (timer : TimerPtr) (t : EasyTimer) : Bool := t.addr = timer

/-- The manager with some of its timers. -/
def keep (m : TimerMgr) (ts : List EasyTimer) (h : ts.Sublist m.timerList) : TimerMgr :=
  { m with
    timerList := ts
    sorted := List.Pairwise.sublist h m.sorted }

/-- `TimerMgr::RemoveTimer` (`rapidapp_timer_mgr.cpp:107-131`) with the timers it deletes; `none`
when its iterator leaves the vector. -/
def removeTimer (m : TimerMgr) (timer : Option TimerPtr) :
    Option (Int × TimerMgr × List EasyTimer) :=
  match timer with
  | none => some (-1, m, [])
  | some timer =>
    match h : VectorOps.eraseLoop (isTimer timer) m.timerList with
    | none => none
    | some r => some (0, m.keep r.1 (VectorOps.eraseLoop_sublist h), r.2)

/-- `AppFrameWork::DestroyTimer` (`rapidapp_framework_imp.cpp:1468-1479`), with the pointer it
leaves behind. -/
def destroyTimer (m : TimerMgr) (timer : Option TimerPtr) :
    Option (Option TimerPtr × TimerMgr × List EasyTimer) :=
  match timer with
  | none => some (none, m, [])
  | some timer => (m.removeTimer (some timer)).map fun r => (none, r.2)

/-- The removal as it is meant: the timer is erased from the list. -/
def erase (m : TimerMgr) (timer : Option TimerPtr) : TimerMgr :=
  m.keep (m.timerList.filter fun t => some t.addr ≠ timer) List.filter_sublist

theorem removeTimer_some {m : TimerMgr} {timer : TimerPtr} {kept erased : List EasyTimer}
    (h : VectorOps.eraseLoop (isTimer timer) m.timerList = some (kept, erased)) :
    ∃ m', m.removeTimer (some timer) = some (0, m', erased) ∧ m'.timerList = kept := by
  unfold removeTimer
  dsimp only
  split
  · next hnone =>
    rw [h] at hnone
    cases hnone
  · next r hr =>
    cases h.symm.trans hr
    exact ⟨_, rfl, rfl⟩

theorem removeTimer_none {m : TimerMgr} {timer : TimerPtr}
    (h : VectorOps.eraseLoop (isTimer timer) m.timerList = none) :
    m.removeTimer (some timer) = none := by
  unfold removeTimer
  dsimp only
  split
  · rfl
  · next r hr =>
    rw [h] at hr
    cases hr

/-- `RemoveTimer` gets to its end without leaving the vector, has deleted this timer and no other,
and the others are in the order they were in. -/
def RemovesExactly (m : TimerMgr) (timer : EasyTimer) : Prop :=
  ∃ m' before after, m.removeTimer (some timer.addr) = some (0, m', [timer]) ∧
    m.timerList = before ++ timer :: after ∧ m'.timerList = before ++ after

/-- In a list that holds each timer once, a timer stands between others that are not it. -/
theorem exists_split {ts : List EasyTimer} {timer : EasyTimer} (hmem : timer ∈ ts)
    (hnodup : (ts.map EasyTimer.addr).Nodup) :
    ∃ before after, ts = before ++ timer :: after ∧
      (∀ t ∈ before, isTimer timer.addr t = false) ∧ ∀ t ∈ after, isTimer timer.addr t = false := by
  obtain ⟨before, after, rfl⟩ := List.append_of_mem hmem
  simp only [List.map_append, List.map_cons] at hnodup
  obtain ⟨-, hcons, hdisjoint⟩ := List.nodup_append.mp hnodup
  obtain ⟨hnot, -⟩ := List.nodup_cons.mp hcons
  refine ⟨before, after, rfl, fun t ht => ?_, fun t ht => ?_⟩
  · have hne := hdisjoint t.addr (List.mem_map_of_mem ht) timer.addr List.mem_cons_self
    simpa [isTimer] using hne
  · have hne : t.addr ≠ timer.addr := fun heq => hnot (heq ▸ List.mem_map_of_mem ht)
    simpa [isTimer] using hne

/-- For the last timer of the list the loop leaves the vector. -/
theorem removeTimer_last {m : TimerMgr} {timer : EasyTimer}
    (hnodup : (m.timerList.map EasyTimer.addr).Nodup) (h : m.timerList.getLast? = some timer) :
    m.removeTimer (some timer.addr) = none := by
  obtain ⟨before, hts⟩ := List.getLast?_eq_some_iff.mp h
  apply removeTimer_none
  rw [hts] at hnodup ⊢
  refine VectorOps.eraseLoop_last (fun t ht => ?_) (by simp [isTimer])
  rw [List.map_append] at hnodup
  have hne := (List.nodup_append.mp hnodup).2.2 t.addr (List.mem_map_of_mem ht) timer.addr
    (by simp)
  simpa [isTimer] using hne

/-- Any other timer is removed, and it alone. -/
theorem removesExactly_of_ne_last {m : TimerMgr} {timer : EasyTimer} (hmem : timer ∈ m.timerList)
    (hnodup : (m.timerList.map EasyTimer.addr).Nodup) (h : m.timerList.getLast? ≠ some timer) :
    m.RemovesExactly timer := by
  obtain ⟨before, after, hts, hbefore, hafter⟩ := exists_split hmem hnodup
  cases after with
  | nil => exact absurd (by rw [hts, List.getLast?_append]; rfl) h
  | cons next after =>
    have hloop : VectorOps.eraseLoop (isTimer timer.addr) m.timerList =
        some (before ++ next :: after, [timer]) := by
      rw [hts]
      exact VectorOps.eraseLoop_only hbefore (by simp [isTimer]) hafter
    obtain ⟨m', hremove, hm'⟩ := removeTimer_some hloop
    exact ⟨m', before, next :: after, hremove, hts, hm'⟩

/-- A timer is removed as it should be exactly when another one stands behind it in the list. -/
theorem removesExactly_iff (m : TimerMgr) (timer : EasyTimer) (hmem : timer ∈ m.timerList)
    (hnodup : (m.timerList.map EasyTimer.addr).Nodup) :
    m.RemovesExactly timer ↔ m.timerList.getLast? ≠ some timer := by
  constructor
  · rintro ⟨m', before, after, hremove, -⟩ hlast
    rw [removeTimer_last hnodup hlast] at hremove
    cases hremove
  · exact removesExactly_of_ne_last hmem hnodup

/-- `DestroyTimer` comes back with the pointer cleared exactly where the loop stays inside. -/
theorem destroyTimer_iff (m : TimerMgr) (timer : EasyTimer) (hmem : timer ∈ m.timerList)
    (hnodup : (m.timerList.map EasyTimer.addr).Nodup) :
    (∃ m', m.destroyTimer (some timer.addr) = some (none, m', [timer])) ↔
      m.timerList.getLast? ≠ some timer := by
  constructor
  · rintro ⟨m', hdestroy⟩ hlast
    rw [destroyTimer, removeTimer_last hnodup hlast] at hdestroy
    cases hdestroy
  · intro hlast
    obtain ⟨m', _, _, hremove, -⟩ := removesExactly_of_ne_last hmem hnodup hlast
    exact ⟨m', by rw [destroyTimer, hremove]; rfl⟩

/-- A removal that is exact is the one that is meant. -/
theorem RemovesExactly.erase {m : TimerMgr} {timer : EasyTimer} (h : m.RemovesExactly timer)
    (hnodup : (m.timerList.map EasyTimer.addr).Nodup) :
    ∃ m', m.removeTimer (some timer.addr) = some (0, m', [timer]) ∧
      m'.timerList = (m.erase (some timer.addr)).timerList := by
  obtain ⟨m', before, after, hremove, hts, hm'⟩ := h
  refine ⟨m', hremove, ?_⟩
  rw [hts, List.map_append, List.map_cons] at hnodup
  obtain ⟨-, hcons, hdisjoint⟩ := List.nodup_append.mp hnodup
  have hbefore : ∀ t ∈ before, t.addr ≠ timer.addr := fun t ht =>
    hdisjoint t.addr (List.mem_map_of_mem ht) timer.addr List.mem_cons_self
  have hafter : ∀ t ∈ after, t.addr ≠ timer.addr := fun t ht heq =>
    (List.nodup_cons.mp hcons).1 (heq ▸ List.mem_map_of_mem ht)
  have hkept : before.filter (fun t => some t.addr ≠ some timer.addr) = before :=
    List.filter_eq_self.mpr fun t ht => by simpa using hbefore t ht
  have hkept' : after.filter (fun t => some t.addr ≠ some timer.addr) = after :=
    List.filter_eq_self.mpr fun t ht => by simpa using hafter t ht
  change m'.timerList = m.timerList.filter _
  rw [hm', hts, List.filter_append, List.filter_cons, hkept, hkept']
  simp

/-- One timer in the list, and `DestroyTimer` of it leaves the vector. -/
theorem removesExactly_single_false :
    ¬ ((TimerMgr.init 16).addTimer 0 10 1 true).2.RemovesExactly ⟨0, 10, 10, 1⟩ := by
  rintro ⟨m', before, after, hremove, -⟩
  rw [removeTimer_last (by decide) (by decide)] at hremove
  cases hremove

/-- Of two timers the first can be removed. -/
theorem removesExactly_first :
    (((TimerMgr.init 16).addTimer 0 10 1 true).2.addTimer 0 20 2 true).2.RemovesExactly
      ⟨0, 10, 10, 1⟩ :=
  (removesExactly_iff _ _ (by decide) (by decide)).mpr (by decide)

end TimerMgr

/-! ## Any sequence of calls -/

/-- What tells a timer from the others, and never changes. -/
def EasyTimer.key (t : EasyTimer) : TimerPtr × Int × Nat := (t.addr, t.timerId, t.timeStep)

/-- A call of the manager: `AddTimer` when `time(NULL)` is `now`, `RemoveTimer` and
`GetNextActiveTimer`. -/
inductive TimerCall where
  | add (now : Int) (timeGap : Nat) (timerId : Int) (newOk : Bool)
  | remove (timer : Option TimerPtr)
  | next
  deriving DecidableEq, Repr

/-- The manager after some calls, with their history, which is ghost: `live` has the timers added
and not yet removed, `turn` counts the timestamps given so far, and `given` says which of them a
timer has. -/
structure TimerHistory where
  mgr : TimerMgr
  live : List (TimerPtr × Int × Nat)
  turn : Nat
  given : TimerPtr → Nat

namespace TimerHistory

/-- Before the first call. -/
def init (timerMax : Nat) : TimerHistory where
  mgr := TimerMgr.init timerMax
  live := []
  turn := 0
  given := fun _ => 0

/-- The timer gets the next timestamp. -/
def give (h : TimerHistory) (timer : EasyTimer) (m : TimerMgr) : TimerHistory :=
  { h with
    mgr := m
    turn := h.turn + 1
    given := Function.update h.given timer.addr h.turn }

/-- The history after one more call. -/
def call (h : TimerHistory) : TimerCall → TimerHistory
  | .add now timeGap timerId newOk =>
    match h.mgr.addTimer now timeGap timerId newOk with
    | (none, m) => { h with mgr := m }
    | (some timer, m) => { h.give timer m with live := timer.key :: h.live }
  | .remove timer =>
    { h with
      mgr := h.mgr.erase timer
      live := h.live.filter fun k => some k.1 ≠ timer }
  | .next =>
    match h.mgr.getNextActiveTimer with
    | (none, m) => { h with mgr := m }
    | (some timer, m) => h.give timer m

/-- The order of the list: by timestamp, and by the turn that gave it among equal ones. -/
def Before (given : TimerPtr → Nat) (a b : EasyTimer) : Prop :=
  a.nextActiveTimestamp < b.nextActiveTimestamp ∨
    a.nextActiveTimestamp = b.nextActiveTimestamp ∧ given a.addr < given b.addr

/-- What holds after any calls. -/
structure Ok (timerMax : Nat) (h : TimerHistory) : Prop where
  perm : (h.mgr.timerList.map EasyTimer.key).Perm h.live
  nodup : (h.mgr.timerList.map EasyTimer.addr).Nodup
  fresh : ∀ t ∈ h.mgr.timerList, t.addr < h.mgr.nextTimer
  limit : h.mgr.maxTimerNum = timerMax
  bounded : h.mgr.timerList.length ≤ timerMax
  inOrder : h.mgr.timerList.Pairwise (Before h.given)
  past : ∀ t ∈ h.mgr.timerList, h.given t.addr < h.turn

theorem Ok.init (timerMax : Nat) : Ok timerMax (init timerMax) where
  perm := List.Perm.refl _
  nodup := List.nodup_nil
  fresh := by simp [TimerHistory.init, TimerMgr.init]
  limit := rfl
  bounded := Nat.zero_le _
  inOrder := List.Pairwise.nil
  past := by simp [TimerHistory.init, TimerMgr.init]

section Insert

variable {given : TimerPtr → Nat} {turn : Nat} {timer : EasyTimer} {ts : List EasyTimer}

/-- A timer that was just given its timestamp goes behind those that have the same. -/
theorem inOrder_insertTimer (hsorted : SortedTimers ts) (h : ts.Pairwise (Before given))
    (hpast : ∀ t ∈ ts, given t.addr < turn) (hnew : ∀ t ∈ ts, t.addr ≠ timer.addr) :
    (insertTimer timer ts).Pairwise (Before (Function.update given timer.addr turn)) := by
  have hold : ∀ t ∈ ts, Function.update given timer.addr turn t.addr = given t.addr :=
    fun t ht => Function.update_of_ne (hnew t ht) turn given
  apply pairwise_insertTimer hsorted
  · apply h.imp_of_mem
    intro a b ha hb hab
    unfold Before
    rw [hold a ha, hold b hb]
    exact hab
  · intro t _ hlt
    exact .inl hlt
  · intro t ht hle
    rcases lt_or_eq_of_le hle with hlt | heq
    · exact .inl hlt
    · refine .inr ⟨heq, ?_⟩
      rw [hold t ht, Function.update_self]
      exact hpast t ht

theorem past_insertTimer (hpast : ∀ t ∈ ts, given t.addr < turn)
    (hnew : ∀ t ∈ ts, t.addr ≠ timer.addr) :
    ∀ t ∈ insertTimer timer ts, Function.update given timer.addr turn t.addr < turn + 1 := by
  intro t ht
  rcases mem_insertTimer.mp ht with rfl | ht
  · rw [Function.update_self]
    exact Nat.lt_succ_self turn
  · rw [Function.update_of_ne (hnew t ht)]
    exact Nat.lt_succ_of_lt (hpast t ht)

theorem nodup_insertTimer (h : (ts.map EasyTimer.addr).Nodup)
    (hnew : ∀ t ∈ ts, t.addr ≠ timer.addr) :
    ((insertTimer timer ts).map EasyTimer.addr).Nodup := by
  have hperm := (insertTimer_perm timer ts).map EasyTimer.addr
  rw [hperm.nodup_iff, List.map_cons, List.nodup_cons]
  refine ⟨fun hmem => ?_, h⟩
  obtain ⟨t, ht, heq⟩ := List.mem_map.mp hmem
  exact hnew t ht heq

end Insert

end TimerHistory

/-- `AddTimer` turns the request down and changes nothing, or puts a new timer in. -/
theorem TimerMgr.addTimer_cases (m : TimerMgr) (now : Int) (timeGap : Nat) (timerId : Int)
    (newOk : Bool) :
    m.addTimer now timeGap timerId newOk = (none, m) ∨
      m.timerList.length < m.maxTimerNum ∧
        m.addTimer now timeGap timerId newOk =
          (some (EasyTimer.start ⟨m.nextTimer, 0, timeGap, timerId⟩ now),
            { m with nextTimer := m.nextTimer + 1 }.insert
              (EasyTimer.start ⟨m.nextTimer, 0, timeGap, timerId⟩ now)) := by
  unfold TimerMgr.addTimer
  split_ifs with hgap hfull hnew
  · exact .inl rfl
  · exact .inl rfl
  · exact .inr ⟨not_le.mp hfull, rfl⟩
  · exact .inl rfl

/-- `AddTimer` makes a timer exactly where the gap is not zero, there is room for one more, and
`new` finds memory. -/
theorem TimerMgr.addTimer_isSome_iff (m : TimerMgr) (now : Int) (timeGap : Nat) (timerId : Int)
    (newOk : Bool) :
    (m.addTimer now timeGap timerId newOk).1.isSome ↔
      0 < timeGap ∧ m.timerList.length < m.maxTimerNum ∧ newOk = true := by
  unfold TimerMgr.addTimer
  split_ifs with hgap hfull hnew
  · simp [hgap]
  · simp [not_lt.mpr hfull]
  · simp [Nat.pos_of_ne_zero hgap, not_le.mp hfull, hnew]
  · simp [hnew]

/-- The timer that `AddTimer` returns has a new address and what it was asked for, is due `timeGap`
after `now`, and is the one timer more in the list. -/
theorem TimerMgr.addTimer_some {m m' : TimerMgr} {now : Int} {timeGap : Nat} {timerId : Int}
    {newOk : Bool} {timer : EasyTimer}
    (h : m.addTimer now timeGap timerId newOk = (some timer, m')) :
    timer.key = (m.nextTimer, timerId, timeGap) ∧
      timer.nextActiveTimestamp = CInt.int64 (now + timeGap) ∧
      timer ∈ m'.timerList ∧ m'.timerList.Perm (timer :: m.timerList) := by
  obtain hnone | ⟨-, hsome⟩ := m.addTimer_cases now timeGap timerId newOk
  · rw [hnone] at h
    cases h
  · rw [hsome] at h
    cases h
    exact ⟨rfl, rfl, mem_insertTimer.mpr (.inl rfl), insertTimer_perm _ _⟩

/-- `GetNextActiveTimer` finds no timer, or steps the first and puts it in its new place. -/
theorem TimerMgr.getNextActiveTimer_cases (m : TimerMgr) :
    m.timerList = [] ∧ m.getNextActiveTimer = (none, m) ∨
      ∃ first rest, m.timerList = first :: rest ∧
        m.getNextActiveTimer = (some first.step, m.eraseFirst.insert first.step) ∧
        (m.eraseFirst.insert first.step).timerList = insertTimer first.step rest := by
  unfold TimerMgr.getNextActiveTimer
  split
  · next hnil => exact .inl ⟨hnil, rfl⟩
  · next first rest hts => exact .inr ⟨first, rest, hts, rfl, by simp [insert, eraseFirst, hts]⟩

namespace TimerHistory

theorem Ok.add {timerMax : Nat} {h : TimerHistory} (hok : Ok timerMax h) (now : Int)
    (timeGap : Nat) (timerId : Int) (newOk : Bool) :
    Ok timerMax (h.call (.add now timeGap timerId newOk)) := by
  unfold call
  rcases h.mgr.addTimer_cases now timeGap timerId newOk with hadd | ⟨hroom, hadd⟩
  · simp only [hadd]
    exact hok
  · simp only [hadd]
    have hnew : ∀ t ∈ h.mgr.timerList, t.addr ≠ h.mgr.nextTimer := fun t ht =>
      Nat.ne_of_lt (hok.fresh t ht)
    constructor
    · exact ((insertTimer_perm _ _).map EasyTimer.key).trans (hok.perm.cons _)
    · exact nodup_insertTimer hok.nodup hnew
    · intro t ht
      rcases mem_insertTimer.mp ht with rfl | ht
      · exact Nat.lt_succ_self h.mgr.nextTimer
      · exact Nat.lt_succ_of_lt (hok.fresh t ht)
    · exact hok.limit
    · have hlen := hok.limit ▸ hroom
      exact (length_insertTimer _ _).trans_le hlen
    · exact inOrder_insertTimer h.mgr.sorted hok.inOrder hok.past hnew
    · exact past_insertTimer hok.past hnew

theorem Ok.remove {timerMax : Nat} {h : TimerHistory} (hok : Ok timerMax h)
    (timer : Option TimerPtr) : Ok timerMax (h.call (.remove timer)) := by
  have hsub : (h.mgr.erase timer).timerList.Sublist h.mgr.timerList := List.filter_sublist
  constructor
  · have hfilter := hok.perm.filter fun k => some k.1 ≠ timer
    rw [List.filter_map] at hfilter
    exact hfilter
  · exact hok.nodup.sublist (hsub.map EasyTimer.addr)
  · exact fun t ht => hok.fresh t (hsub.subset ht)
  · exact hok.limit
  · exact hsub.length_le.trans hok.bounded
  · exact List.Pairwise.sublist hsub hok.inOrder
  · exact fun t ht => hok.past t (hsub.subset ht)

theorem Ok.next {timerMax : Nat} {h : TimerHistory} (hok : Ok timerMax h) :
    Ok timerMax (h.call .next) := by
  unfold call
  rcases h.mgr.getNextActiveTimer_cases with ⟨-, hnone⟩ | ⟨first, rest, hts, hnext, hlist⟩
  · simp only [hnone]
    exact hok
  · simp only [hnext]
    obtain ⟨hperm, hnodup, hfresh, hlimit, hbounded, hinOrder, hpast⟩ := hok
    have hsorted : SortedTimers rest := (List.pairwise_cons.mp (hts ▸ h.mgr.sorted)).2
    rw [hts] at hperm hnodup hfresh hbounded hinOrder hpast
    have hnew : ∀ t ∈ rest, t.addr ≠ first.step.addr := fun t ht heq =>
      (List.nodup_cons.mp hnodup).1 (List.mem_map.mpr ⟨t, ht, heq⟩)
    have hpastRest : ∀ t ∈ rest, h.given t.addr < h.turn := fun t ht =>
      hpast t (List.mem_cons_of_mem first ht)
    constructor
    · change (List.map EasyTimer.key (h.mgr.eraseFirst.insert first.step).timerList).Perm h.live
      rw [hlist]
      exact ((insertTimer_perm _ _).map EasyTimer.key).trans hperm
    · change (List.map EasyTimer.addr (h.mgr.eraseFirst.insert first.step).timerList).Nodup
      rw [hlist]
      exact nodup_insertTimer (List.nodup_cons.mp hnodup).2 hnew
    · change ∀ t ∈ (h.mgr.eraseFirst.insert first.step).timerList, t.addr < h.mgr.nextTimer
      rw [hlist]
      intro t ht
      rcases mem_insertTimer.mp ht with rfl | ht
      · exact hfresh first List.mem_cons_self
      · exact hfresh t (List.mem_cons_of_mem first ht)
    · exact hlimit
    · change (h.mgr.eraseFirst.insert first.step).timerList.length ≤ timerMax
      rw [hlist, length_insertTimer]
      exact hbounded
    · change (h.mgr.eraseFirst.insert first.step).timerList.Pairwise _
      rw [hlist]
      exact inOrder_insertTimer hsorted (List.pairwise_cons.mp hinOrder).2 hpastRest hnew
    · change ∀ t ∈ (h.mgr.eraseFirst.insert first.step).timerList, _
      rw [hlist]
      exact past_insertTimer hpastRest hnew

theorem Ok.calls {timerMax : Nat} {h : TimerHistory} (hok : Ok timerMax h)
    (calls : List TimerCall) : Ok timerMax (calls.foldl call h) := by
  induction calls generalizing h with
  | nil => exact hok
  | cons c calls ih =>
    apply ih
    cases c with
    | add now timeGap timerId newOk => exact hok.add now timeGap timerId newOk
    | remove timer => exact hok.remove timer
    | next => exact hok.next

/-- `GetNextActiveTimer` returns the timer that comes before all the others, stepped, and none
only when there is none. -/
def PicksFirst (h : TimerHistory) : Prop :=
  match h.mgr.getNextActiveTimer.1 with
  | none => h.mgr.timerList = []
  | some timer =>
    ∃ first ∈ h.mgr.timerList, timer = first.step ∧
      ∀ t ∈ h.mgr.timerList, t ≠ first → Before h.given first t

theorem Ok.picksFirst {timerMax : Nat} {h : TimerHistory} (hok : Ok timerMax h) :
    h.PicksFirst := by
  unfold PicksFirst
  rcases h.mgr.getNextActiveTimer_cases with ⟨hnil, hnone⟩ | ⟨first, rest, hts, hnext, -⟩
  · rw [hnone]
    exact hnil
  · rw [hnext]
    have hinOrder := hok.inOrder
    rw [hts] at hinOrder ⊢
    refine ⟨first, List.mem_cons_self, rfl, fun t ht hne => ?_⟩
    rcases List.mem_cons.mp ht with rfl | ht
    · exact absurd rfl hne
    · exact (List.pairwise_cons.mp hinOrder).1 t ht

/-- After any calls the list is sorted, holds each timer added and not yet removed once and no
other, and not more than the limit; the timer picked next has the smallest timestamp and got it
before the others that have the same; and an `AddTimer` that is turned down changes nothing. -/
theorem timerList_history (timerMax : Nat) (calls : List TimerCall) :
    let h := calls.foldl call (init timerMax)
    SortedTimers h.mgr.timerList ∧
      (h.mgr.timerList.map EasyTimer.key).Perm h.live ∧ (h.live.map Prod.fst).Nodup ∧
      h.mgr.timerList.length ≤ timerMax ∧ h.PicksFirst ∧
      ∀ now timeGap timerId newOk,
        (h.mgr.addTimer now timeGap timerId newOk).1 = none →
          h.call (.add now timeGap timerId newOk) = h := by
  intro h
  have hok : Ok timerMax h := (Ok.init timerMax).calls calls
  refine ⟨h.mgr.sorted, hok.perm, ?_, hok.bounded, hok.picksFirst, ?_⟩
  · have hkeys : (h.mgr.timerList.map EasyTimer.key).map Prod.fst =
        h.mgr.timerList.map EasyTimer.addr := by
      rw [List.map_map]
      rfl
    rw [← (hok.perm.map Prod.fst).nodup_iff, hkeys]
    exact hok.nodup
  · intro now timeGap timerId newOk hnone
    rcases h.mgr.addTimer_cases now timeGap timerId newOk with hadd | ⟨-, hadd⟩
    · simp only [call, hadd]
    · rw [hadd] at hnone
      cases hnone

end TimerHistory

end Rapidapp
