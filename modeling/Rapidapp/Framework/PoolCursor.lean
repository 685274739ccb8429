import Rapidapp.Framework.NetMgrRuns

/-!
# The cursor of WalkThrough

`it_cursor_` stays where it is between two calls of `WalkThrough`
(`framework/rapidapp_net_mgr.cpp:261-297`) while entries come and go. Both functions that
erase an entry move the cursor off it first, so the entry it points at is never erased under
it (`PointsInside`). No function that inserts looks at it, so an insertion that rehashes the
table leaves it invalid for the next one that does (`cursorsOk_iff`).
-/

namespace Rapidapp

variable {ν γ : Type}

namespace NetHandlerMgr

/-- `it_cursor_` points at an entry of the pool, or is `end()`. -/
def PointsInside (m : NetHandlerMgr) : Prop := ∀ fd, m.itCursor = some fd → fd ∈ m.handlerPool

theorem succKey_mem {fd fd' : Int} {keys : List Int} (h : succKey fd keys = some fd') :
    fd' ∈ keys := by
  induction keys with
  | nil => cases h
  | cons k ks ih =>
    rw [succKey] at h
    split_ifs at h
    · exact List.mem_cons_of_mem k (List.mem_of_mem_head? h)
    · exact List.mem_cons_of_mem k (ih h)

/-- In a list without duplicates the next key is another one. -/
theorem succKey_ne {fd fd' : Int} {keys : List Int} (hnodup : keys.Nodup)
    (h : succKey fd keys = some fd') : fd' ≠ fd := by
  induction keys with
  | nil => cases h
  | cons k ks ih =>
    obtain ⟨hk, hks⟩ := List.nodup_cons.mp hnodup
    rw [succKey] at h
    split_ifs at h with hkfd
    · rintro rfl
      exact hk (hkfd ▸ List.mem_of_mem_head? h)
    · exact ih hks h

theorem PointsInside.insert {m : NetHandlerMgr} (h : m.PointsInside) (fd : Int) (p : NetPtr) :
    PointsInside { m with handlerPool := m.handlerPool.insert fd p } :=
  fun fd' hfd' => AList.mem_insert _ |>.mpr (.inr (h fd' hfd'))

theorem PointsInside.addHandlerToMap {m : NetHandlerMgr} (h : m.PointsInside) (heap : Heap γ)
    (p : NetPtr) : (m.addHandlerToMap heap p).PointsInside := by
  rw [NetHandlerMgr.addHandlerToMap]
  split
  · exact h
  · exact h.insert _ p

theorem PointsInside.addHandlerBySocket {m : NetHandlerMgr} (h : m.PointsInside) (heap : Heap γ)
    (sockFd type : Int) (bevOk : Bool) :
    (m.addHandlerBySocket heap sockFd type bevOk).2.1.PointsInside := by
  rw [NetHandlerMgr.addHandlerBySocket]
  split
  · exact h
  · cases bevOk
    · exact h
    · exact h.addHandlerToMap _ _

theorem PointsInside.addHandlerByUri {m : NetHandlerMgr} (h : m.PointsInside) (heap : Heap γ)
    (type : Int) (connect : Option Int) :
    (m.addHandlerByUri heap type connect).2.1.PointsInside := by
  rw [NetHandlerMgr.addHandlerByUri]
  cases connect
  · exact h
  · exact h.addHandlerToMap _ _

/-- The cursor moves off the entry before it is erased. -/
theorem PointsInside.eraseEntry {m : NetHandlerMgr} (h : m.PointsInside) (heap : Heap γ)
    (fd : Int) (p : NetPtr) : (m.eraseEntry heap fd p).1.PointsInside := by
  intro fd' hcursor
  dsimp only [NetHandlerMgr.eraseEntry] at hcursor ⊢
  rw [AList.mem_erase]
  split_ifs at hcursor with hat
  · exact ⟨succKey_ne m.handlerPool.keys_nodup hcursor, AList.mem_keys.mpr (succKey_mem hcursor)⟩
  · refine ⟨?_, h fd' hcursor⟩
    rintro rfl
    exact hat hcursor

theorem PointsInside.removeHandlerByEvent {m : NetHandlerMgr} (h : m.PointsInside)
    (heap : Heap γ) (b : BevPtr) : (m.removeHandlerByEvent heap b).1.PointsInside := by
  rw [NetHandlerMgr.removeHandlerByEvent]
  split
  · exact h
  · exact h.eraseEntry heap _ _

theorem PointsInside.next {m : NetHandlerMgr} (fd : Int) :
    PointsInside { m with itCursor := succKey fd m.handlerPool.keys } :=
  fun _ hcursor => AList.mem_keys.mpr (succKey_mem hcursor)

theorem PointsInside.begin (m : NetHandlerMgr) :
    PointsInside { m with itCursor := m.handlerPool.keys.head? } :=
  fun _ hcursor => AList.mem_keys.mpr (List.mem_of_mem_head? hcursor)

theorem PointsInside.ofEnd {m : NetHandlerMgr} (h : m.itCursor = none) : m.PointsInside :=
  fun _ hcursor => by rw [h] at hcursor; cases hcursor

end NetHandlerMgr

namespace CursorMonitor

/-- With the cursor inside the pool, it is fit for use as long as nothing was rehashed. -/
theorem cursorOk_eq {s : CursorMonitor γ} (h : s.mgr.PointsInside) : s.cursorOk = !s.rehashed := by
  have hall : (s.mgr.itCursor.all fun fd => decide (fd ∈ s.mgr.handlerPool)) = true := by
    cases hcursor : s.mgr.itCursor with
    | none => rfl
    | some fd => exact decide_eq_true (h fd hcursor)
  rw [cursorOk, hall, Bool.and_true]

/-- `s'` comes after `s`: what was accessed meanwhile were cursors that are fit for use exactly
when `it_cursor_` of `s` is, and the cursor has not been assigned since. -/
structure Used (s s' : CursorMonitor γ) : Prop where
  inside : s'.mgr.PointsInside
  rehashed : s'.rehashed = s.rehashed
  accesses : ∃ as, s'.accesses = s.accesses ++ as ∧ ∀ a ∈ as, a = !s.rehashed

theorem Used.refl {s : CursorMonitor γ} (h : s.mgr.PointsInside) : Used s s :=
  ⟨h, rfl, [], (List.append_nil _).symm, List.forall_mem_nil _⟩

theorem Used.trans {s s' s'' : CursorMonitor γ} (h : Used s s') (h' : Used s' s'') :
    Used s s'' := by
  obtain ⟨as, has, hall⟩ := h.accesses
  obtain ⟨as', has', hall'⟩ := h'.accesses
  refine ⟨h'.inside, h'.rehashed.trans h.rehashed, as ++ as', ?_, fun a ha => ?_⟩
  · rw [has', has, List.append_assoc]
  · obtain ha | ha := List.mem_append.mp ha
    · exact hall a ha
    · rw [hall' a ha, h.rehashed]

theorem Used.access {s s' : CursorMonitor γ} (h : Used s s') : Used s s'.access := by
  refine h.trans ⟨h.inside, rfl, [s'.cursorOk], rfl, fun a ha => ?_⟩
  rw [List.mem_singleton.mp ha, cursorOk_eq h.inside]

theorem Used.goTo {s s' : CursorMonitor γ} (h : Used s s') {r : NetHandlerMgr × Heap γ}
    (hr : r.1.PointsInside) : Used s (s'.goTo r) :=
  h.trans ⟨hr, rfl, [], (List.append_nil _).symm, List.forall_mem_nil _⟩

theorem used_removeHandlerByEvent {s : CursorMonitor γ} (h : s.mgr.PointsInside) (b : BevPtr) :
    Used s (s.removeHandlerByEvent b) := by
  have hr := h.removeHandlerByEvent s.heap b
  rw [removeHandlerByEvent]
  split
  · exact (Used.refl h).goTo hr
  · split_ifs
    · exact (Used.refl h).access.access.goTo hr
    · exact (Used.refl h).access.goTo hr

theorem used_removeHandler {s : CursorMonitor γ} (h : s.mgr.PointsInside) (p : NetPtr) :
    Used s (s.removeHandler p) := by
  rw [removeHandler]
  split
  · exact Used.refl h
  · exact used_removeHandlerByEvent h _

/-! ## The walk -/

theorem used_walkEntry (act : IWalkEach ν γ) (fd : Int) (v : ν) {s : CursorMonitor γ}
    (h : s.mgr.PointsInside) : Used s (s.walkEntry act fd v).2 := by
  rw [walkEntry]
  split
  · exact (Used.refl h).access.goTo (NetHandlerMgr.PointsInside.ofEnd rfl)
  · next p _ =>
    split
    · exact (Used.refl h).access.access.goTo (h.eraseEntry _ fd p)
    · exact (Used.refl h).access.access.goTo (NetHandlerMgr.PointsInside.next fd)

theorem used_walkLoop (act : IWalkEach ν γ) (k : Nat) (v : ν) {s : CursorMonitor γ}
    (h : s.mgr.PointsInside) : Used s (s.walkLoop act k v).2 := by
  induction k generalizing s v with
  | zero => exact Used.refl h
  | succ k ih =>
    rw [walkLoop]
    split
    · exact (Used.refl h).access
    · next fd _ =>
      have haccess := (Used.refl h).access
      have hentry := used_walkEntry act fd v haccess.inside
      exact (haccess.trans hentry).trans (ih _ hentry.inside)

/-- `WalkThrough` assigns the cursor, if at all, after its last access. -/
theorem used_walkThrough (act : IWalkEach ν γ) (v : ν) {s : CursorMonitor γ}
    (h : s.mgr.PointsInside) :
    (s.walkThrough act v).mgr.PointsInside ∧
      ∃ as, (s.walkThrough act v).accesses = s.accesses ++ as ∧ as ≠ [] ∧
        ∀ a ∈ as, a = !s.rehashed := by
  have hloop := used_walkLoop act kSingleRoundLoopNum v h
  rw [walkThrough]
  generalize (s.walkLoop act kSingleRoundLoopNum v).2 = s' at hloop
  obtain ⟨as, has, hall⟩ := hloop.accesses
  -- the comparison with `end()` that follows the loop
  have hlast : ∃ as, s'.access.accesses = s.accesses ++ as ∧ as ≠ [] ∧ ∀ a ∈ as, a = !s.rehashed := by
    refine ⟨as ++ [s'.cursorOk], ?_, List.append_ne_nil_of_right_ne_nil _ (List.cons_ne_nil _ _),
      fun a ha => ?_⟩
    · rw [access, has, List.append_assoc]
    · obtain ha | ha := List.mem_append.mp ha
      · exact hall a ha
      · rw [List.mem_singleton.mp ha, cursorOk_eq hloop.inside, hloop.rehashed]
  dsimp only
  split
  · exact ⟨NetHandlerMgr.PointsInside.begin _, hlast⟩
  · exact ⟨hloop.inside, hlast⟩

end CursorMonitor

/-- The operation reads `it_cursor_`: a walk, or the removal of a connection that is in the
pool. -/
def NetMgrOp.ReadsCursor (s : CursorMonitor γ) : NetMgrOp ν γ → Prop
  | .walkThrough _ _ => True
  | .removeHandlerByEvent b => ∃ p, s.mgr.getHandlerByEvent s.heap b = some p
  | .removeHandler p =>
    ∃ n b q, s.heap.nets p = some n ∧ n.hevent = some b ∧
      s.mgr.getHandlerByEvent s.heap b = some q
  | .addHandlerBySocket .. | .addHandlerByUri .. | .changeNetStateByEvent .. => False

namespace CursorMonitor

/-- A removal accesses the cursor exactly when it finds an entry. -/
theorem accesses_removeHandlerByEvent (s : CursorMonitor γ) (b : BevPtr) :
    (s.removeHandlerByEvent b).accesses = s.accesses ↔
      ¬ ∃ p, s.mgr.getHandlerByEvent s.heap b = some p := by
  rw [removeHandlerByEvent]
  cases s.mgr.getHandlerByEvent s.heap b with
  | none => simp [goTo]
  | some p =>
    dsimp only
    split_ifs <;> simp [access, goTo]

theorem accesses_removeHandler (s : CursorMonitor γ) (p : NetPtr) :
    (s.removeHandler p).accesses = s.accesses ↔
      ¬ (NetMgrOp.removeHandler p : NetMgrOp ν γ).ReadsCursor s := by
  rw [removeHandler, NetMgrOp.ReadsCursor]
  cases hp : s.heap.nets p with
  | none => simp
  | some n =>
    cases hb : n.hevent with
    | none => simp [hb]
    | some b =>
      dsimp only [Option.bind_some]
      rw [hb]
      refine (s.accesses_removeHandlerByEvent b).trans (not_congr ⟨?_, ?_⟩)
      · rintro ⟨q, hq⟩
        exact ⟨n, b, q, rfl, hb, hq⟩
      · rintro ⟨n', b', q, hn', hb', hq⟩
        obtain rfl := Option.some.inj hn'
        obtain rfl := Option.some.inj (hb.symm.trans hb')
        exact ⟨q, hq⟩

/-- What an operation does with the cursor. -/
theorem step_spec {s s' : CursorMonitor γ} (h : s.mgr.PointsInside) {op : NetMgrOp ν γ}
    (hs : s.step op = some s') :
    s'.mgr.PointsInside ∧ ∃ as, s'.accesses = s.accesses ++ as ∧ (as ≠ [] ↔ op.ReadsCursor s) ∧
      ∀ a ∈ as, a = !s.rehashed := by
  have hquiet : ∀ {t : CursorMonitor γ}, t.accesses = s.accesses →
      ∃ as, t.accesses = s.accesses ++ as ∧ (as ≠ [] ↔ False) ∧ ∀ a ∈ as, a = !s.rehashed :=
    fun ht => ⟨[], by rw [ht, List.append_nil], by simp, List.forall_mem_nil _⟩
  cases op with
  | addHandlerBySocket sockFd type bevOk rehash =>
    obtain rfl := Option.some.inj hs
    exact ⟨h.addHandlerBySocket s.heap sockFd type bevOk, hquiet rfl⟩
  | addHandlerByUri type connect rehash =>
    obtain rfl := Option.some.inj hs
    exact ⟨h.addHandlerByUri s.heap type connect, hquiet rfl⟩
  | removeHandler p =>
    obtain rfl := Option.some.inj hs
    obtain ⟨hin, _, as, has, hall⟩ := used_removeHandler h p
    have hiff := accesses_removeHandler (ν := ν) s p
    rw [has, List.append_right_eq_self] at hiff
    exact ⟨hin, as, has, (not_congr hiff).trans not_not, hall⟩
  | removeHandlerByEvent b =>
    obtain rfl := Option.some.inj hs
    obtain ⟨hin, _, as, has, hall⟩ := used_removeHandlerByEvent h b
    have hiff := s.accesses_removeHandlerByEvent b
    rw [has, List.append_right_eq_self] at hiff
    exact ⟨hin, as, has, (not_congr hiff).trans not_not, hall⟩
  | changeNetStateByEvent b state =>
    obtain rfl := Option.some.inj hs
    exact ⟨h, hquiet rfl⟩
  | walkThrough act v =>
    obtain rfl := Option.some.inj hs
    obtain ⟨hin, as, has, hne, hall⟩ := used_walkThrough act v h
    exact ⟨hin, as, has, ⟨fun _ => trivial, fun _ => hne⟩, hall⟩

/-- A run goes on accessing cursors fit for use exactly when no step that reads the cursor is taken
between a rehash and the next assignment. -/
theorem accesses_run {s t : CursorMonitor γ} (h : s.mgr.PointsInside) {ops : List (NetMgrOp ν γ)}
    (hrun : Run.run step s ops = some t) :
    (∀ a ∈ t.accesses, a = true) ↔
      (∀ a ∈ s.accesses, a = true) ∧
        Run.Along step (fun s op => op.ReadsCursor s → s.rehashed = false) s ops := by
  induction ops generalizing s with
  | nil =>
    cases hrun
    exact (and_iff_left trivial).symm
  | cons op ops ih =>
    obtain ⟨s', hs', ht⟩ := Run.run_cons_some.mp hrun
    obtain ⟨hin, as, has, hreads, hall⟩ := step_spec h hs'
    have hstep : (∀ a ∈ s'.accesses, a = true) ↔
        (∀ a ∈ s.accesses, a = true) ∧ (op.ReadsCursor s → s.rehashed = false) := by
      rw [has, List.forall_mem_append, ← hreads]
      refine and_congr_right fun _ => ⟨fun hok hne => ?_, fun hok a ha => ?_⟩
      · obtain ⟨a, ha⟩ := List.exists_mem_of_ne_nil as hne
        simpa [hall a ha] using hok a ha
      · rw [hall a ha, hok (List.ne_nil_of_mem ha), Bool.not_false]
    rw [ih hin ht, hstep, and_assoc]
    refine and_congr_right fun _ => and_congr_right fun _ => ⟨fun hrest u hu => ?_, fun hrest => ?_⟩
    · obtain rfl := Option.some.inj (hs'.symm.trans hu)
      exact hrest
    · exact hrest s' hs'

end CursorMonitor

/-- Whenever the run reads, compares or increments `it_cursor_`, it is `end()` or a valid iterator
to an entry of the pool. -/
def CursorsOk (recvBuffSize : RapBuffer) (fate : Nat → Bool) (ops : List (NetMgrOp ν γ)) : Prop :=
  ∀ s, Run.run CursorMonitor.step (CursorMonitor.start recvBuffSize fate) ops = some s →
    ∀ a ∈ s.accesses, a = true

/-- The cursor is fit for use at every access of a run exactly when no walk and no removal that finds
its connection comes while `it_cursor_` has not been assigned since an insertion that
rehashed the table. -/
theorem cursorsOk_iff (recvBuffSize : RapBuffer) (fate : Nat → Bool)
    (ops : List (NetMgrOp ν γ)) :
    CursorsOk recvBuffSize fate ops ↔
      Run.Along CursorMonitor.step (fun s op => op.ReadsCursor s → s.rehashed = false)
        (CursorMonitor.start recvBuffSize fate) ops := by
  have hstart : (CursorMonitor.start (γ := γ) recvBuffSize fate).mgr.PointsInside :=
    NetHandlerMgr.PointsInside.ofEnd rfl
  obtain ⟨t, ht⟩ := Option.isSome_iff_exists.mp
    (Run.run_isSome CursorMonitor.step_isSome (CursorMonitor.start recvBuffSize fate) ops)
  have hrun := (CursorMonitor.accesses_run hstart ht).trans
    (and_iff_right (List.forall_mem_nil _))
  rw [← hrun]
  constructor
  · intro hok
    exact hok t ht
  · intro hok s hs
    obtain rfl := Option.some.inj (ht.symm.trans hs)
    exact hok

/-- Eleven frontends come, the twelfth makes the table grow; a walk before it and one after. -/
def growthBetweenWalks : List (NetMgrOp Unit Unit) :=
  let walk := .walkThrough (.ofCheck (fun n => (false, n)) fun _ => rfl) ()
  (List.range 11).map (fun i => .addHandlerBySocket (i + 5) 0 true false) ++
    [walk, .addHandlerBySocket 16 0 true true, walk]

/-- The second walk uses an iterator that the insertion has invalidated. -/
theorem growth_invalidates_cursor : ¬ CursorsOk .small (fun _ => true) growthBetweenWalks := by
  intro hok
  have hbad : (Run.run CursorMonitor.step (CursorMonitor.start .small fun _ => true)
      growthBetweenWalks).map (fun s => s.accesses.all fun a => a) = some false := by decide +kernel
  obtain ⟨s, hs, hall⟩ := Option.map_eq_some_iff.mp hbad
  have htrue := List.all_eq_true.mpr (hok s hs)
  rw [hall] at htrue
  cases htrue

end Rapidapp
