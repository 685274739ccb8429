import Rapidapp.Misc.Cursor
import Rapidapp.Framework.NetStates
import Rapidapp.Framework.PoolOrder

/-!
# The rounds of WalkThrough

A round of the walk over a pool (`framework/rapidapp_net_mgr.cpp:261-297`) goes from the call that
sets `it_cursor_` to `begin()` to the moment it is `end()`, over as many calls as it takes, and
connections come and go in between (`rapidapp_net_mgr.cpp:124-143`, `186-220`).
-/

namespace Rapidapp

variable {ν γ : Type}

/-! ## Runs -/

/-- The visitor, and the connections that were passed to its `DoSomething`. -/
def IWalkEach.logged (act : IWalkEach ν γ) : IWalkEach (ν × List NetPtr) γ where
  doSomething p v h :=
    let r := act.doSomething p v.1 h
    (r.1, (r.2.1, v.2 ++ [p]), r.2.2)
  sameConns p v h := act.sameConns p v.1 h

/-- An operation of a manager whose table does not rehash, or a rehash. `place` is where the table
puts a new entry. -/
inductive PoolOp (ν γ : Type) where
  | addHandlerBySocket (sockFd type : Int) (bevOk : Bool) (place : Nat)
  | addHandlerByUri (type : Int) (connect : Option Int) (place : Nat)
  | removeHandler (p : NetPtr)
  | removeHandlerByEvent (b : BevPtr)
  | changeNetStateByEvent (b : BevPtr) (state : NetState)
  | walkThrough (act : IWalkEach ν γ) (v : ν)
  | rehash (pool : HandlerPool)

/-- `AddHandlerToMap` (`rapidapp_net_mgr.cpp:124-143`) in a table that puts a new entry at this
place. -/
def NetHandlerMgr.addHandlerToMapAt (place : Nat) (m : NetHandlerMgr) (h : Heap γ) (p : NetPtr) :
    NetHandlerMgr :=
  match (h.nets p).bind (·.hevent) with
  | none => m
  | some b => { m with handlerPool := m.handlerPool.insertAt place (h.getfd b) p }

/-- It differs from `addHandlerToMap` in the place only. -/
theorem NetHandlerMgr.lookup_addHandlerToMapAt (place : Nat) (m : NetHandlerMgr) (h : Heap γ)
    (p : NetPtr) (fd : Int) :
    (m.addHandlerToMapAt place h p).handlerPool.lookup fd =
      (m.addHandlerToMap h p).handlerPool.lookup fd := by
  unfold addHandlerToMapAt addHandlerToMap
  cases (h.nets p).bind (·.hevent) with
  | none => rfl
  | some b => exact m.handlerPool.lookup_insertAt place (h.getfd b) p fd

/-- The outcome of one of the two `AddHandler` functions, with the entry at this place. -/
def CursorMonitor.placed (s : CursorMonitor γ) (place : Nat)
    (r : Option NetPtr × NetHandlerMgr × Heap γ) : CursorMonitor γ :=
  match r with
  | (none, m, h) => s.goTo (m, h)
  | (some p, _, h) => s.goTo (s.mgr.addHandlerToMapAt place h p, h)

/-- A manager and the rounds of its walk: the one that goes on since the cursor was set to `begin()`,
until it is `end()` or the table rehashes, and those that came to `end()`. -/
structure RoundMonitor (γ : Type) where
  monitor : CursorMonitor γ
  round : Option (Cursor.Round NetPtr)
  finished : List (Cursor.Round NetPtr)

namespace RoundMonitor

/-- After `NetHandlerMgr::Init`. -/
def start (recvBuffSize : RapBuffer) (fate : Nat → Bool) : RoundMonitor γ :=
  ⟨CursorMonitor.start recvBuffSize fate, none, []⟩

/-- The operation has visited these connections and left this manager. -/
def note (s : RoundMonitor γ) (s' : CursorMonitor γ) (visits : List NetPtr) : RoundMonitor γ :=
  match s.round with
  | none => { s with monitor := s' }
  | some r =>
    let r := r.after visits s'.mgr.connections
    if s'.mgr.itCursor = none then ⟨s', none, s.finished ++ [r]⟩ else ⟨s', some r, s.finished⟩

/-- `WalkThrough`: the loop, and then the cursor is set to `begin()` if it is `end()`. -/
def walkThrough (act : IWalkEach ν γ) (v : ν) (s : RoundMonitor γ) : RoundMonitor γ :=
  let r := s.monitor.walkLoop act.logged kSingleRoundLoopNum (v, [])
  let s' := s.note r.2 r.1.2
  let walked := s.monitor.walkThrough act v
  if r.2.mgr.itCursor = none then
    { s' with monitor := walked, round := some (.new walked.mgr.connections) }
  else { s' with monitor := walked }

/-- One operation. After a rehash the entries stand in any order, and the round is given up: whether
`it_cursor_` may still be used is not the question here. -/
def step (s : RoundMonitor γ) : PoolOp ν γ → Option (RoundMonitor γ)
  | .addHandlerBySocket sockFd type bevOk place =>
    some (s.note (s.monitor.placed place
      (s.monitor.mgr.addHandlerBySocket s.monitor.heap sockFd type bevOk)) [])
  | .addHandlerByUri type connect place =>
    some (s.note (s.monitor.placed place
      (s.monitor.mgr.addHandlerByUri s.monitor.heap type connect)) [])
  | .removeHandler p => some (s.note (s.monitor.removeHandler p) [])
  | .removeHandlerByEvent b => some (s.note (s.monitor.removeHandlerByEvent b) [])
  | .changeNetStateByEvent b state =>
    some (s.note (s.monitor.goTo
      (s.monitor.mgr, s.monitor.mgr.changeNetStateByEvent s.monitor.heap b state)) [])
  | .walkThrough act v => some (s.walkThrough act v)
  | .rehash pool =>
    if pool.entries.Perm s.monitor.mgr.handlerPool.entries then
      some { s with
        monitor := s.monitor.goTo ({ s.monitor.mgr with handlerPool := pool }, s.monitor.heap)
        round := none }
    else none

end RoundMonitor

/-! ## What one operation does to a round -/

namespace CursorMonitor

/-- What holds of a manager between two operations. -/
structure Fit (s : CursorMonitor γ) : Prop where
  inside : s.mgr.PointsInside
  distinct : s.mgr.connections.Nodup
  old : ∀ p ∈ s.mgr.connections, p < s.heap.nextNet

/-- What holds of the round that goes on. -/
structure InRound (s : CursorMonitor γ) (r : Cursor.Round NetPtr) : Prop where
  ok : ∃ passed ahead, s.mgr.Cut passed ahead ∧ r.Ok (passed.map (·.2)) (ahead.map (·.2))
  old : ∀ p ∈ r.visited, p < s.heap.nextNet

/-- An operation has led from `s` to `s'` and visited these connections. -/
structure Follows (s s' : CursorMonitor γ) (visits : List NetPtr) : Prop where
  fit : s'.Fit
  round : ∀ r, s.InRound r → s'.InRound (r.after visits s'.mgr.connections)

variable {s s' : CursorMonitor γ} {r : Cursor.Round NetPtr}

/-- What stayed is still in the pool. -/
theorem InRound.stayed_subset (h : s.InRound r) : r.stayed ⊆ s.mgr.connections := by
  intro p hp
  obtain ⟨passed, ahead, hcut, hok⟩ := h.ok
  rw [hcut.connections]
  exact List.mem_append.mpr (hok.present p hp)

/-- The table has changed since these connections were visited, but none of those that stayed has
changed sides, and none of those visited has come to stand ahead. -/
theorem inRound_after {visits passed ahead : List NetPtr}
    (hok : (⟨r.visited ++ visits, r.stayed⟩ : Cursor.Round NetPtr).Ok passed ahead)
    {passed' ahead' : List HandlerPool.Entry} (hcut : s'.mgr.Cut passed' ahead')
    (hpassed : ∀ e ∈ passed', e.2 ∈ passed ∨ e.2 ∉ r.stayed)
    (hahead : ∀ e ∈ ahead', e.2 ∈ ahead ∨ e.2 ∉ r.visited ++ visits)
    (hold : ∀ p ∈ r.visited ++ visits, p < s'.heap.nextNet) :
    s'.InRound (r.after visits s'.mgr.connections) := by
  refine ⟨⟨passed', ahead', hcut, hok.change (List.filter_subset_self _) ?_ ?_ ?_⟩, hold⟩
  · exact List.forall_mem_map.mpr hpassed
  · exact List.forall_mem_map.mpr hahead
  · intro p hp
    have hin := of_decide_eq_true (List.mem_filter.mp hp).2
    rw [hcut.connections] at hin
    exact List.mem_append.mp hin

/-- An operation that visits nothing: every connection stays on its side of the cursor, and those
that come are new. -/
theorem follows_of_cut (h : s.Fit) (h' : s'.Fit) (hle : s.heap.nextNet ≤ s'.heap.nextNet)
    (hcuts : ∀ {passed ahead}, s.mgr.Cut passed ahead → ∃ passed' ahead', s'.mgr.Cut passed' ahead' ∧
      (∀ e ∈ passed', e ∈ passed ∨ s.heap.nextNet ≤ e.2) ∧
      ∀ e ∈ ahead', e ∈ ahead ∨ s.heap.nextNet ≤ e.2) : Follows s s' [] where
  fit := h'
  round r hr := by
    obtain ⟨passed, ahead, hcut, hok⟩ := hr.ok
    obtain ⟨passed', ahead', hcut', hpassed, hahead⟩ := hcuts hcut
    have hsame : r.visited ++ [] = r.visited := List.append_nil _
    have hok' : (⟨r.visited ++ [], r.stayed⟩ : Cursor.Round NetPtr).Ok (passed.map (·.2))
        (ahead.map (·.2)) := by
      rw [hsame]
      exact hok
    apply inRound_after hok' hcut'
    · intro e he
      obtain he | hnew := hpassed e he
      · exact .inl (List.mem_map_of_mem he)
      · exact .inr fun hstayed => absurd (h.old _ (hr.stayed_subset hstayed)) (not_lt.mpr hnew)
    · intro e he
      rw [hsame]
      obtain he | hnew := hahead e he
      · exact .inl (List.mem_map_of_mem he)
      · exact .inr fun hvisited => absurd (hr.old _ hvisited) (not_lt.mpr hnew)
    · intro p hp
      rw [hsame] at hp
      exact (hr.old p hp).trans_le hle

/-! ### Removing -/

theorem connections_eraseEntry (m : NetHandlerMgr) (h : Heap γ) (fd : Int) (p : NetPtr) :
    (m.eraseEntry h fd p).1.connections.Sublist m.connections :=
  (List.kerase_sublist fd m.handlerPool.entries).map _

/-- The manager and a heap that is as young or younger, without this entry. -/
theorem Fit.eraseEntry (h : s.Fit) {heap : Heap γ} (hle : s.heap.nextNet ≤ heap.nextNet)
    (fd : Int) (p : NetPtr) (t : CursorMonitor γ) :
    (t.goTo (s.mgr.eraseEntry heap fd p)).Fit where
  inside := h.inside.eraseEntry heap fd p
  distinct := h.distinct.sublist (connections_eraseEntry s.mgr heap fd p)
  old q hq := by
    have hq := h.old q ((connections_eraseEntry s.mgr heap fd p).subset hq)
    exact hq.trans_le (hle.trans (Heap.handlerRule_statesKept.eraseEntry s.mgr heap fd p).nextNet)

theorem follows_eraseEntry (h : s.Fit) (fd : Int) (p : NetPtr) (t : CursorMonitor γ) :
    Follows s (t.goTo (s.mgr.eraseEntry s.heap fd p)) [] := by
  apply follows_of_cut h (h.eraseEntry le_rfl fd p t)
  · exact (Heap.handlerRule_statesKept.eraseEntry s.mgr s.heap fd p).nextNet
  · intro passed ahead hcut
    refine ⟨_, _, hcut.eraseEntry s.heap fd p, fun e he => .inl ?_, fun e he => .inl ?_⟩
    · exact (List.kerase_sublist fd passed).subset he
    · exact (List.kerase_sublist fd ahead).subset he

/-- The manager stays as it is. -/
theorem follows_same (h : s.Fit) (hmgr : s'.mgr = s.mgr) (hle : s.heap.nextNet ≤ s'.heap.nextNet) :
    Follows s s' [] := by
  have hfit : s'.Fit := by
    refine ⟨hmgr ▸ h.inside, hmgr ▸ h.distinct, fun p hp => ?_⟩
    rw [hmgr] at hp
    exact (h.old p hp).trans_le hle
  apply follows_of_cut h hfit hle
  intro passed ahead hcut
  exact ⟨passed, ahead, hmgr ▸ hcut, fun e he => .inl he, fun e he => .inl he⟩

theorem follows_removeHandlerByEvent (h : s.Fit) (b : BevPtr) :
    Follows s (s.removeHandlerByEvent b) [] := by
  unfold removeHandlerByEvent NetHandlerMgr.removeHandlerByEvent
  cases s.mgr.getHandlerByEvent s.heap b with
  | none => exact follows_same h rfl le_rfl
  | some p =>
    dsimp only
    split_ifs
    · exact follows_eraseEntry h _ p _
    · exact follows_eraseEntry h _ p _

theorem follows_removeHandler (h : s.Fit) (p : NetPtr) : Follows s (s.removeHandler p) [] := by
  unfold removeHandler
  cases (s.heap.nets p).bind (·.hevent) with
  | none => exact follows_same h rfl le_rfl
  | some b => exact follows_removeHandlerByEvent h b

/-! ### Adding -/

/-- A connection that is newer than all of the pool is put into it. -/
theorem Fit.insertAt (h : s.Fit) (place : Nat) (fd : Int) {p : NetPtr} {heap : Heap γ}
    (hp : s.heap.nextNet ≤ p) (hlt : p < heap.nextNet) :
    (s.goTo ({ s.mgr with handlerPool := s.mgr.handlerPool.insertAt place fd p }, heap)).Fit where
  inside := by
    obtain ⟨_, _, hcut⟩ := h.inside.cut
    obtain ⟨_, _, hcut', _⟩ := hcut.insertAt place fd p
    exact hcut'.pointsInside
  distinct := by
    have hpool := (s.mgr.handlerPool.insertAt place fd p).nodupKeys
    refine List.Nodup.map_on ?_ (List.NodupKeys.nodup hpool)
    -- the new connection is none of the others, and those are distinct
    have hnew : ∀ e ∈ s.mgr.handlerPool.entries, e.2 ≠ p := by
      intro e he heq
      have hold := h.old e.2 (List.mem_map_of_mem he)
      rw [heq] at hold
      exact absurd hold (not_lt.mpr hp)
    intro e he e' he' heq
    obtain rfl | ⟨he, _⟩ := HandlerPool.mem_insertAt.mp he
    · obtain rfl | ⟨he', _⟩ := HandlerPool.mem_insertAt.mp he'
      · rfl
      · exact absurd heq.symm (hnew e' he')
    · obtain rfl | ⟨he', _⟩ := HandlerPool.mem_insertAt.mp he'
      · exact absurd heq (hnew e he)
      · exact List.inj_on_of_nodup_map h.distinct he he' heq
  old q hq := by
    show q < heap.nextNet
    obtain ⟨e, he, rfl⟩ := List.mem_map.mp hq
    obtain rfl | ⟨he, _⟩ := HandlerPool.mem_insertAt.mp he
    · exact hlt
    · exact (h.old e.2 (List.mem_map_of_mem he)).trans_le (hp.trans hlt.le)

theorem follows_insertAt (h : s.Fit) (place : Nat) (fd : Int) {p : NetPtr} {heap : Heap γ}
    (hp : s.heap.nextNet ≤ p) (hlt : p < heap.nextNet) :
    Follows s (s.goTo
      ({ s.mgr with handlerPool := s.mgr.handlerPool.insertAt place fd p }, heap)) [] := by
  apply follows_of_cut h (h.insertAt place fd hp hlt)
  · exact hp.trans hlt.le
  · intro passed ahead hcut
    obtain ⟨passed', ahead', hcut', hpassed, hahead⟩ := hcut.insertAt place fd p
    have hnew : ∀ {e : HandlerPool.Entry}, e = ⟨fd, p⟩ → s.heap.nextNet ≤ e.2 := by
      rintro _ rfl
      exact hp
    exact ⟨passed', ahead', hcut', fun e he => (hpassed e he).imp_right hnew,
      fun e he => (hahead e he).imp_right hnew⟩

/-- What either `AddHandler` function does: nothing to the pool, or it returns a new connection. -/
def Adds (m : NetHandlerMgr) (h : Heap γ) (r : Option NetPtr × NetHandlerMgr × Heap γ) : Prop :=
  r.1 = none ∧ r.2.1 = m ∧ h.nextNet ≤ r.2.2.nextNet ∨
    r.1 = some h.nextNet ∧ r.2.2.nextNet = h.nextNet + 1

theorem nextNet_attach (h : Heap γ) (p : NetPtr) (fd type : Int) (state : NetState) :
    (h.attach p fd type state).nextNet = h.nextNet := by
  unfold Heap.attach
  split <;> rfl

theorem adds_addHandlerBySocket (m : NetHandlerMgr) (h : Heap γ) (sockFd type : Int)
    (bevOk : Bool) : Adds m h (m.addHandlerBySocket h sockFd type bevOk) := by
  unfold NetHandlerMgr.addHandlerBySocket
  split_ifs
  · exact .inl ⟨rfl, rfl, le_rfl⟩
  · exact .inr ⟨rfl, nextNet_attach _ _ _ _ _⟩
  · exact .inl ⟨rfl, rfl, Nat.le_succ _⟩

theorem adds_addHandlerByUri (m : NetHandlerMgr) (h : Heap γ) (type : Int)
    (connect : Option Int) : Adds m h (m.addHandlerByUri h type connect) := by
  unfold NetHandlerMgr.addHandlerByUri
  cases connect with
  | none => exact .inl ⟨rfl, rfl, Nat.le_succ _⟩
  | some fd => exact .inr ⟨rfl, nextNet_attach _ _ _ _ _⟩

theorem follows_placed (h : s.Fit) (place : Nat) {r : Option NetPtr × NetHandlerMgr × Heap γ}
    (hr : Adds s.mgr s.heap r) : Follows s (s.placed place r) [] := by
  obtain ⟨_ | p, m, heap⟩ := r
  · obtain ⟨_, rfl, hle⟩ | ⟨hsome, _⟩ := hr
    · exact follows_same h rfl hle
    · cases hsome
  · obtain ⟨hnone, _⟩ | ⟨hsome, hnext⟩ := hr
    · cases hnone
    cases hsome
    have hlt : s.heap.nextNet < heap.nextNet := Nat.lt_of_succ_le hnext.ge
    unfold placed NetHandlerMgr.addHandlerToMapAt
    dsimp only
    cases (heap.nets s.heap.nextNet).bind (·.hevent) with
    | none => exact follows_same h rfl hlt.le
    | some b => exact follows_insertAt h place (heap.getfd b) le_rfl hlt

theorem nextNet_changeNetStateByEvent (m : NetHandlerMgr) (h : Heap γ) (b : BevPtr)
    (state : NetState) : (m.changeNetStateByEvent h b state).nextNet = h.nextNet := by
  unfold NetHandlerMgr.changeNetStateByEvent
  cases m.getHandlerByEvent h b with
  | none => rfl
  | some p =>
    dsimp only
    cases h.nets p with
    | none => rfl
    | some n => rfl

/-! ### Rehashing -/

/-- The same entries in another order. -/
theorem Fit.rehash (h : s.Fit) {pool : HandlerPool}
    (hperm : pool.entries.Perm s.mgr.handlerPool.entries) :
    (s.goTo ({ s.mgr with handlerPool := pool }, s.heap)).Fit where
  inside fd hfd := by
    apply AList.mem_keys.mpr
    have hkeys : pool.keys.Perm s.mgr.handlerPool.keys := hperm.map _
    apply hkeys.mem_iff.mpr
    exact AList.mem_keys.mp (h.inside fd hfd)
  distinct := (hperm.map _).nodup_iff.mpr h.distinct
  old p hp := h.old p ((hperm.map _).mem_iff.mp hp)

/-! ### Walking -/

/-- The connection at the cursor is visited. -/
theorem InRound.visit (h : s.Fit) (hr : s.InRound r) {fd : Int} {p : NetPtr}
    (hcursor : s.mgr.itCursor = some fd) (hp : s.mgr.handlerPool.lookup fd = some p) :
    ∃ passed rest, s.mgr.Cut passed (⟨fd, p⟩ :: rest) ∧
      (⟨r.visited ++ [p], r.stayed⟩ : Cursor.Round NetPtr).Ok
        ((passed ++ [(⟨fd, p⟩ : HandlerPool.Entry)]).map (·.2)) (rest.map (·.2)) := by
  obtain ⟨passed, ahead, hcut, hok⟩ := hr.ok
  obtain ⟨q, rest, rfl, hq⟩ := hcut.head_eq hcursor
  cases hp.symm.trans hq
  have hdistinct := h.distinct
  rw [hcut.connections] at hdistinct
  have hnot : p ∉ rest.map (·.2) := (List.nodup_cons.mp (List.nodup_append.mp hdistinct).2.1).1
  refine ⟨passed, rest, hcut, ?_⟩
  rw [List.map_append]
  exact hok.visit hnot

/-- One round of the loop visits the connection at the cursor. -/
theorem follows_walkEntry (act : IWalkEach ν γ) (v : ν) (log : List NetPtr) (h : s.Fit) {fd : Int}
    (hcursor : s.mgr.itCursor = some fd) :
    ∃ p, (s.walkEntry act.logged fd (v, log)).1.2 = log ++ [p] ∧
      Follows s (s.walkEntry act.logged fd (v, log)).2 [p] ∧
      (s.walkEntry act.logged fd (v, log)).2.mgr.connections ⊆ s.mgr.connections := by
  obtain ⟨_, _, hcut⟩ := h.inside.cut
  obtain ⟨p, _, rfl, hp⟩ := hcut.head_eq hcursor
  have hlt : p < s.heap.nextNet := by
    apply h.old
    rw [hcut.connections]
    exact List.mem_append_right _ List.mem_cons_self
  have hle : s.heap.nextNet ≤ (act.doSomething p v s.heap).2.2.nextNet :=
    (act.sameConns p v s.heap).nextNet
  have hvisited : ∀ r, s.InRound r → ∀ q ∈ r.visited ++ [p],
      q < (act.doSomething p v s.heap).2.2.nextNet := by
    intro r hr q hq
    obtain hq | hq := List.mem_append.mp hq
    · exact (hr.old q hq).trans_le hle
    · rw [List.mem_singleton.mp hq]
      exact hlt.trans_le hle
  unfold walkEntry
  rw [hp]
  dsimp only [IWalkEach.logged]
  generalize act.doSomething p v s.heap = answer at hle hvisited ⊢
  obtain ⟨kick, v', heap⟩ := answer
  cases kick with
  | true =>
    refine ⟨p, rfl, ⟨h.eraseEntry hle fd p _, fun r hr => ?_⟩,
      (connections_eraseEntry s.mgr heap fd p).subset⟩
    obtain ⟨passed, rest, hcut, hok⟩ := hr.visit h hcursor hp
    apply inRound_after hok (hcut.eraseEntry heap fd p)
    · intro e he
      have hmem := (List.kerase_sublist fd passed).subset he
      exact .inl (List.mem_map_of_mem (List.mem_append_left _ hmem))
    · intro e he
      have htail : List.kerase fd (⟨fd, p⟩ :: rest) = rest := List.kerase_cons_eq rfl
      rw [htail] at he
      exact .inl (List.mem_map_of_mem he)
    · intro q hq
      exact (hvisited r hr q hq).trans_le (Heap.handlerRule_statesKept.eraseEntry s.mgr heap fd p).nextNet
  | false =>
    have hfit : (s.access.access.goTo ({ s.mgr with
        itCursor := NetHandlerMgr.succKey fd s.mgr.handlerPool.keys }, heap)).Fit :=
      ⟨NetHandlerMgr.PointsInside.next fd, h.distinct, fun q hq => (h.old q hq).trans_le hle⟩
    refine ⟨p, rfl, ⟨hfit, fun r hr => ?_⟩, List.Subset.refl _⟩
    obtain ⟨passed, rest, hcut, hok⟩ := hr.visit h hcursor hp
    apply inRound_after hok hcut.next
    · exact fun e he => .inl (List.mem_map_of_mem he)
    · exact fun e he => .inl (List.mem_map_of_mem he)
    · exact fun q hq => hvisited r hr q hq

theorem Fit.access (h : s.Fit) : s.access.Fit := ⟨h.inside, h.distinct, h.old⟩

theorem InRound.access (h : s.InRound r) : s.access.InRound r := ⟨h.ok, h.old⟩

/-- The loop visits some connections, one after the other. -/
theorem follows_walkLoop (act : IWalkEach ν γ) (k : Nat) (v : ν) (log : List NetPtr) (h : s.Fit) :
    ∃ visits, (s.walkLoop act.logged k (v, log)).1.2 = log ++ visits ∧
      Follows s (s.walkLoop act.logged k (v, log)).2 visits ∧
      (s.walkLoop act.logged k (v, log)).2.mgr.connections ⊆ s.mgr.connections := by
  induction k generalizing s v log with
  | zero =>
    exact ⟨[], (List.append_nil _).symm, follows_same h rfl le_rfl, List.Subset.refl _⟩
  | succ k ih =>
    rw [walkLoop]
    cases hcursor : s.mgr.itCursor with
    | none =>
      exact ⟨[], (List.append_nil _).symm, follows_same h rfl le_rfl, List.Subset.refl _⟩
    | some fd =>
      obtain ⟨p, hlog, hentry, hsubset⟩ := follows_walkEntry act v log h.access hcursor
      dsimp only
      generalize s.access.walkEntry act.logged fd (v, log) = t at hlog hentry hsubset ⊢
      obtain ⟨⟨v', log'⟩, s₁⟩ := t
      cases hlog
      obtain ⟨visits, hvisits, hrest, hsubset'⟩ := ih v' (log ++ [p]) hentry.fit
      refine ⟨p :: visits, ?_, ⟨hrest.fit, fun r hr => ?_⟩, fun q hq => hsubset (hsubset' hq)⟩
      · show (s₁.walkLoop act.logged k (v', log ++ [p])).1.2 = log ++ p :: visits
        rw [hvisits, List.append_assoc]
        rfl
      · have hround := hrest.round _ (hentry.round r hr.access)
        rwa [Cursor.Round.after_after r _ _ hsubset'] at hround

/-! ### The log changes nothing -/

theorem walkEntry_logged (act : IWalkEach ν γ) (fd : Int) (v : ν) (log : List NetPtr)
    (s : CursorMonitor γ) :
    (s.walkEntry act.logged fd (v, log)).1.1 = (s.walkEntry act fd v).1 ∧
      (s.walkEntry act.logged fd (v, log)).2 = (s.walkEntry act fd v).2 := by
  unfold walkEntry
  cases s.mgr.handlerPool.lookup fd with
  | none => exact ⟨rfl, rfl⟩
  | some p =>
    dsimp only [IWalkEach.logged]
    rcases act.doSomething p v s.heap with ⟨kick, v', heap⟩
    cases kick <;> exact ⟨rfl, rfl⟩

theorem walkLoop_logged (act : IWalkEach ν γ) (k : Nat) (v : ν) (log : List NetPtr)
    (s : CursorMonitor γ) :
    (s.walkLoop act.logged k (v, log)).2 = (s.walkLoop act k v).2 := by
  induction k generalizing v log s with
  | zero => rfl
  | succ k ih =>
    rw [walkLoop, walkLoop]
    cases s.mgr.itCursor with
    | none => rfl
    | some fd =>
      obtain ⟨hv, hs⟩ := walkEntry_logged act fd v log s.access
      dsimp only
      rw [← hv, ← hs]
      exact ih _ _ _

end CursorMonitor

/-! ## Every round -/

namespace RoundMonitor

variable {s s' : RoundMonitor γ}

/-- What holds of a round that came to `end()`: no connection was visited twice, and every one that
stayed was visited once. -/
def Complete (r : Cursor.Round NetPtr) : Prop :=
  r.visited.Nodup ∧ ∀ p ∈ r.stayed, r.visited.count p = 1

/-- What holds between two operations. -/
structure Ok (s : RoundMonitor γ) : Prop where
  fit : s.monitor.Fit
  round : ∀ r, s.round = some r → s.monitor.InRound r
  finished : ∀ r ∈ s.finished, Complete r

theorem ok_start (recvBuffSize : RapBuffer) (fate : Nat → Bool) :
    (start (γ := γ) recvBuffSize fate).Ok where
  fit := ⟨NetHandlerMgr.PointsInside.ofEnd rfl, List.nodup_nil, nofun⟩
  round := nofun
  finished := nofun

/-- A round is complete when the cursor is `end()`. -/
theorem complete_of_end {s : CursorMonitor γ} {r : Cursor.Round NetPtr} (h : s.InRound r)
    (hend : s.mgr.itCursor = none) : Complete r := by
  obtain ⟨passed, ahead, hcut, hok⟩ := h.ok
  have hcursor := hcut.cursor
  rw [hend] at hcursor
  obtain rfl : ahead = [] := by
    cases ahead with
    | nil => rfl
    | cons e rest => cases hcursor
  exact ⟨hok.once, fun p hp => hok.count_eq_one hp⟩

theorem Ok.note (h : s.Ok) {m : CursorMonitor γ} {visits : List NetPtr}
    (hm : s.monitor.Follows m visits) : (s.note m visits).Ok := by
  unfold RoundMonitor.note
  cases hround : s.round with
  | none => exact ⟨hm.fit, nofun, h.finished⟩
  | some r =>
    have hr := hm.round r (h.round r hround)
    dsimp only
    split_ifs with hend
    · refine ⟨hm.fit, nofun, fun r' hr' => ?_⟩
      obtain hold | hnew := List.mem_append.mp hr'
      · exact h.finished r' hold
      · rw [List.mem_singleton.mp hnew]
        exact complete_of_end hr hend
    · refine ⟨hm.fit, fun r' hr' => ?_, h.finished⟩
      cases hr'
      exact hr

theorem monitor_note (s : RoundMonitor γ) (m : CursorMonitor γ) (visits : List NetPtr) :
    (s.note m visits).monitor = m := by
  unfold note
  cases s.round with
  | none => rfl
  | some r =>
    dsimp only
    split_ifs <;> rfl

theorem Ok.walkThrough (h : s.Ok) (act : IWalkEach ν γ) (v : ν) : (s.walkThrough act v).Ok := by
  obtain ⟨visits, hlog, hloop, _⟩ :=
    CursorMonitor.follows_walkLoop act kSingleRoundLoopNum v [] h.fit
  have hsame := CursorMonitor.walkLoop_logged act kSingleRoundLoopNum v [] s.monitor
  unfold RoundMonitor.walkThrough CursorMonitor.walkThrough
  rw [← hsame]
  generalize s.monitor.walkLoop act.logged kSingleRoundLoopNum (v, []) = t at hlog hloop ⊢
  obtain ⟨⟨v', log⟩, m⟩ := t
  cases hlog
  have hnote := h.note hloop
  have hmonitor := monitor_note s m visits
  have hfit := hnote.fit
  have hround := hnote.round
  rw [hmonitor] at hfit hround
  dsimp only [CursorMonitor.access]
  cases hcursor : m.mgr.itCursor with
  | none =>
    -- `it_cursor_ = handler_pool_.begin()`
    refine ⟨⟨NetHandlerMgr.PointsInside.begin _, hfit.distinct, hfit.old⟩, ?_, hnote.finished⟩
    rintro r ⟨⟩
    exact ⟨⟨[], _, NetHandlerMgr.Cut.begin m.mgr, Cursor.Round.ok_new _⟩, nofun⟩
  | some fd =>
    exact ⟨hfit.access, fun r hr => (hround r hr).access, hnote.finished⟩

/-- What one operation preserves. -/
theorem Ok.step (h : s.Ok) {op : PoolOp ν γ} (hs : s.step op = some s') : s'.Ok := by
  cases op with
  | addHandlerBySocket sockFd type bevOk place =>
    cases hs
    exact h.note (CursorMonitor.follows_placed h.fit place
      (CursorMonitor.adds_addHandlerBySocket _ _ sockFd type bevOk))
  | addHandlerByUri type connect place =>
    cases hs
    exact h.note (CursorMonitor.follows_placed h.fit place
      (CursorMonitor.adds_addHandlerByUri _ _ type connect))
  | removeHandler p =>
    cases hs
    exact h.note (CursorMonitor.follows_removeHandler h.fit p)
  | removeHandlerByEvent b =>
    cases hs
    exact h.note (CursorMonitor.follows_removeHandlerByEvent h.fit b)
  | changeNetStateByEvent b state =>
    cases hs
    refine h.note (CursorMonitor.follows_same h.fit ?_ ?_)
    · rfl
    · exact (CursorMonitor.nextNet_changeNetStateByEvent _ _ b state).ge
  | walkThrough act v =>
    cases hs
    exact h.walkThrough act v
  | rehash pool =>
    rw [RoundMonitor.step] at hs
    split_ifs at hs with hperm
    cases hs
    exact ⟨h.fit.rehash hperm, nofun, h.finished⟩

theorem ok_run {recvBuffSize : RapBuffer} {fate : Nat → Bool} {ops : List (PoolOp ν γ)}
    (hrun : Run.run RoundMonitor.step (start recvBuffSize fate) ops = some s) : s.Ok :=
  Run.run_preserves (fun _ _ _ h hs => h.step hs) (ok_start recvBuffSize fate) hrun

/-- Whatever comes and goes between two rehashes, in a round that came to `end()` every connection
that was in the pool all the time is visited once, and none is visited twice. -/
theorem visited_once {recvBuffSize : RapBuffer} {fate : Nat → Bool} {ops : List (PoolOp ν γ)}
    (hrun : Run.run RoundMonitor.step (start recvBuffSize fate) ops = some s) :
    ∀ r ∈ s.finished, Complete r :=
  (ok_run hrun).finished

/-- Four frontends come, and a walk sets the cursor to the second of them. It is removed, another
comes, the visitor of the next walk closes the first one, and the fifth leaves before the last. -/
def removalsBetweenWalks : List (PoolOp Unit Unit) :=
  let walk := .walkThrough (.ofCheck (fun n => (n.nid == 1, n)) fun _ => rfl) ()
  [.addHandlerBySocket 5 0 true 0, .addHandlerBySocket 6 0 true 0, .addHandlerBySocket 7 0 true 1,
    .addHandlerBySocket 8 0 true 1, walk, .removeHandler 1, .addHandlerBySocket 6 0 true 1, walk,
    .removeHandler 4, walk]

theorem visited_once_removals :
    ∃ s, Run.run RoundMonitor.step (start .small fun _ => true) removalsBetweenWalks = some s ∧
      s.finished = [⟨[3, 4, 2, 0], [3, 2]⟩, ⟨[3, 2], [3, 2]⟩] ∧ ∀ r ∈ s.finished, Complete r := by
  have hruns : (Run.run RoundMonitor.step (start .small fun _ => true) removalsBetweenWalks).map
      (·.finished) = some [⟨[3, 4, 2, 0], [3, 2]⟩, ⟨[3, 2], [3, 2]⟩] := by decide +kernel
  obtain ⟨s, hs, hfinished⟩ := Option.map_eq_some_iff.mp hruns
  exact ⟨s, hs, hfinished, visited_once hs⟩

end RoundMonitor

end Rapidapp
