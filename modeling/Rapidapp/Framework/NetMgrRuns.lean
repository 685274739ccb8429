import Rapidapp.Misc.Run
import Rapidapp.Framework.SocketEvents

/-!
# Runs of one NetHandlerMgr

Any sequence of the operations of `framework/rapidapp_net_mgr.cpp` on one manager, with any
visitor in `WalkThrough`. `it_cursor_` is an iterator of a `std::tr1::unordered_map`: `erase`
invalidates only iterators to the erased entry, an insertion that rehashes the table
invalidates all. Whether an insertion rehashes is the library's choice and part of the
operation.

`CursorMonitor` goes along: it notes at every access to `it_cursor_` whether the iterator
could be used. `walkThrough_eq` connects it with the `WalkThrough` of the frontends.
-/

namespace Rapidapp

variable {ν γ : Type}

/-- `h'` has the objects of `h`, with the same owners and descriptors. -/
structure Heap.SameConns (h h' : Heap γ) : Prop where
  nextNet : h.nextNet ≤ h'.nextNet
  nextBev : h.nextBev ≤ h'.nextBev
  netNone : ∀ {p}, h.nets p = none → h'.nets p = none
  net : ∀ {p n}, h.nets p = some n → ∃ n', h'.nets p = some n' ∧ n'.hevent = n.hevent
  bevNone : ∀ {b}, h.bevs b = none → h'.bevs b = none
  bev : ∀ {b e}, h.bevs b = some e → ∃ e', h'.bevs b = some e' ∧ e'.fd = e.fd

/-- A process whose connections are those of this manager. -/
def World.ofMgr (m : NetHandlerMgr) (h : Heap γ) : World Unit γ where
  app := ()
  heap := h
  frontendHandlerMgr := m
  backendHandlerMgr := NetHandlerMgr.init .small
  now := 0
  svcMode := .normal

theorem World.Similar.sameConns {σ : Type} {w w' : World σ γ} (hs : Similar w w') :
    Heap.SameConns w.heap w'.heap :=
  ⟨hs.nextNet, hs.nextBev, hs.netNone, hs.net, hs.bevNone, hs.bev⟩

theorem Heap.SameConns.similar {h h' : Heap γ} (hs : Heap.SameConns h h') (m : NetHandlerMgr) :
    World.Similar (World.ofMgr m h) (World.ofMgr m h') :=
  ⟨fun _ => rfl, hs.nextNet, hs.nextBev, hs.netNone, hs.net, hs.bevNone, hs.bev⟩

/-- `class IWalkEach` (`rapidapp_net_mgr.h:11-20`): `DoSomething` is given an `EasyNet` and
answers whether to erase it. It has a state of its own, and may write to connections and
change what is stored with them; opening and closing them is the manager's. -/
structure IWalkEach (ν γ : Type) where
  doSomething : NetPtr → ν → Heap γ → Bool × ν × Heap γ
  sameConns : ∀ p v h, Heap.SameConns h (doSomething p v h).2.2

/-- An operation of a manager. `rehash` is whether an insertion it makes rehashes the table; the
other choices of the environment as in `addHandlerBySocket` and `addHandlerByUri`. -/
inductive NetMgrOp (ν γ : Type) where
  | addHandlerBySocket (sockFd type : Int) (bevOk rehash : Bool)
  | addHandlerByUri (type : Int) (connect : Option Int) (rehash : Bool)
  | removeHandler (p : NetPtr)
  | removeHandlerByEvent (b : BevPtr)
  | changeNetStateByEvent (b : BevPtr) (state : NetState)
  | walkThrough (act : IWalkEach ν γ) (v : ν)

/-- A manager and the heap, with two ghost records: whether an insertion has rehashed the table
since `it_cursor_` was last assigned, and for every access to `it_cursor_` whether it was
`end()` or a valid iterator to an entry. -/
structure CursorMonitor (γ : Type) where
  mgr : NetHandlerMgr
  heap : Heap γ
  rehashed : Bool
  accesses : List Bool

namespace CursorMonitor

/-- After `NetHandlerMgr::Init`. -/
def start (recvBuffSize : RapBuffer) (fate : Nat → Bool) : CursorMonitor γ where
  mgr := NetHandlerMgr.init recvBuffSize
  heap := Heap.empty fate
  rehashed := false
  accesses := []

/-- The manager with its heap, without the ghost records. -/
def state (s : CursorMonitor γ) : NetHandlerMgr × Heap γ := (s.mgr, s.heap)

/-- `it_cursor_` is `end()` or a valid iterator to an entry of the pool. -/
def cursorOk (s : CursorMonitor γ) : Bool :=
  !s.rehashed && s.mgr.itCursor.all fun fd => decide (fd ∈ s.mgr.handlerPool)

/-- `it_cursor_` is read, compared or incremented. -/
def access (s : CursorMonitor γ) : CursorMonitor γ :=
  { s with accesses := s.accesses ++ [s.cursorOk] }

/-- What the function leaves of manager and heap. -/
def goTo (s : CursorMonitor γ) (r : NetHandlerMgr × Heap γ) : CursorMonitor γ :=
  { s with mgr := r.1, heap := r.2 }

/-- The outcome of one of the two `AddHandler` functions. -/
def added (s : CursorMonitor γ) (rehash : Bool) (r : Option NetPtr × NetHandlerMgr × Heap γ) :
    CursorMonitor γ :=
  { s with mgr := r.2.1, heap := r.2.2, rehashed := s.rehashed || (rehash && r.1.isSome) }

/-- `NetHandlerMgr::RemoveHandlerByEvent` (`rapidapp_net_mgr.cpp:186-220`): when there is an entry,
`it_cursor_` is compared with it and, when it points there, incremented. -/
def removeHandlerByEvent (s : CursorMonitor γ) (b : BevPtr) : CursorMonitor γ :=
  let r := s.mgr.removeHandlerByEvent s.heap b
  match s.mgr.getHandlerByEvent s.heap b with
  | none => s.goTo r
  | some _ =>
    if s.mgr.itCursor = some (s.heap.getfd b) then s.access.access.goTo r else s.access.goTo r

/-- `NetHandlerMgr::RemoveHandler` (`rapidapp_net_mgr.cpp:147-156`). -/
def removeHandler (s : CursorMonitor γ) (p : NetPtr) : CursorMonitor γ :=
  match (s.heap.nets p).bind (·.hevent) with
  | none => s
  | some b => s.removeHandlerByEvent b

/-- The body of the loop of `WalkThrough` at the entry under `fd` (`rapidapp_net_mgr.cpp:272-289`):
`it_cursor_->second`, and `it_cursor_++` on either branch. -/
def walkEntry (act : IWalkEach ν γ) (fd : Int) (v : ν) (s : CursorMonitor γ) :
    ν × CursorMonitor γ :=
  match s.mgr.handlerPool.lookup fd with
  | none => (v, s.access.goTo ({ s.mgr with itCursor := none }, s.heap))
  | some p =>
    match act.doSomething p v s.heap with
    | (true, v, h) => (v, s.access.access.goTo (s.mgr.eraseEntry h fd p))
    | (false, v, h) =>
      (v, s.access.access.goTo
        ({ s.mgr with itCursor := NetHandlerMgr.succKey fd s.mgr.handlerPool.keys }, h))

/-- The loop of `WalkThrough` (`rapidapp_net_mgr.cpp:270`); its condition compares `it_cursor_`. -/
def walkLoop (act : IWalkEach ν γ) : Nat → ν → CursorMonitor γ → ν × CursorMonitor γ
  | 0, v, s => (v, s)
  | k + 1, v, s =>
    match s.mgr.itCursor with
    | none => (v, s.access)
    | some fd =>
      let r := walkEntry act fd v s.access
      walkLoop act k r.1 r.2

/-- `NetHandlerMgr::WalkThrough` (`rapidapp_net_mgr.cpp:261-297`). -/
def walkThrough (act : IWalkEach ν γ) (v : ν) (s : CursorMonitor γ) : CursorMonitor γ :=
  let s := (walkLoop act kSingleRoundLoopNum v s).2.access
  match s.mgr.itCursor with
  | none =>
    -- `it_cursor_ = handler_pool_.begin()`
    { s with mgr := { s.mgr with itCursor := s.mgr.handlerPool.keys.head? }, rehashed := false }
  | some _ => s

/-- One operation. -/
def step (s : CursorMonitor γ) : NetMgrOp ν γ → Option (CursorMonitor γ)
  | .addHandlerBySocket sockFd type bevOk rehash =>
    some (s.added rehash (s.mgr.addHandlerBySocket s.heap sockFd type bevOk))
  | .addHandlerByUri type connect rehash =>
    some (s.added rehash (s.mgr.addHandlerByUri s.heap type connect))
  | .removeHandler p => some (s.removeHandler p)
  | .removeHandlerByEvent b => some (s.removeHandlerByEvent b)
  | .changeNetStateByEvent b state =>
    some (s.goTo (s.mgr, s.mgr.changeNetStateByEvent s.heap b state))
  | .walkThrough act v => some (s.walkThrough act v)

theorem step_isSome (s : CursorMonitor γ) (op : NetMgrOp ν γ) : (s.step op).isSome := by
  cases op <;> rfl

end CursorMonitor

/-! ## The walk over the frontends -/

/-- A check of the fields of an `EasyNet` that leaves its `bufferevent` alone. -/
def IWalkEach.ofCheck (act : EasyNet γ → Bool × EasyNet γ)
    (hact : ∀ n, (act n).2.hevent = n.hevent) : IWalkEach Unit γ where
  doSomething p _ h :=
    match h.nets p with
    | none => (false, (), h)
    | some n => ((act n).1, (), h.setNet p (act n).2)
  sameConns p _ h := by
    cases hp : h.nets p with
    | none => exact (World.Similar.refl (World.ofMgr (.init .small) h)).sameConns
    | some n =>
      exact (World.similar_setNet (World.ofMgr (.init .small) h) hp (hact n)).sameConns

namespace World

variable {σ : Type}

/-- A round of the walk over the frontends is one of their manager. -/
theorem walkEntry_eq {act : EasyNet γ → Bool × EasyNet γ}
    (hact : ∀ n, (act n).2.hevent = n.hevent) (fd : Int) {w : World σ γ} {s : CursorMonitor γ}
    (hs : s.state = (w.frontendHandlerMgr, w.heap)) :
    w.walkEntry act fd =
      w.setMgr .frontEnd (s.walkEntry (.ofCheck act hact) fd ()).2.state := by
  obtain ⟨hmgr, hheap⟩ := Prod.ext_iff.mp hs
  dsimp only [CursorMonitor.state] at hmgr hheap
  unfold walkEntry CursorMonitor.walkEntry
  rw [hmgr, hheap]
  cases w.frontendHandlerMgr.handlerPool.lookup fd with
  | none => rfl
  | some p =>
    dsimp only [IWalkEach.ofCheck]
    cases w.heap.nets p with
    | none => rfl
    | some n =>
      dsimp only
      rcases act n with ⟨kick, n'⟩
      cases kick <;> rfl

theorem walkLoop_eq {act : EasyNet γ → Bool × EasyNet γ}
    (hact : ∀ n, (act n).2.hevent = n.hevent) (k : Nat) {w : World σ γ} {s : CursorMonitor γ}
    (hs : s.state = (w.frontendHandlerMgr, w.heap)) :
    w.walkLoop act k =
      w.setMgr .frontEnd (s.walkLoop (.ofCheck act hact) k ()).2.state := by
  induction k generalizing w s with
  | zero =>
    rw [walkLoop, CursorMonitor.walkLoop, hs]
    rfl
  | succ k ih =>
    have hcursor : s.mgr.itCursor = w.frontendHandlerMgr.itCursor :=
      congrArg (fun r => r.1.itCursor) hs
    rw [walkLoop, CursorMonitor.walkLoop, hcursor]
    cases w.frontendHandlerMgr.itCursor with
    | none =>
      have haccess : s.access.state = s.state := rfl
      dsimp only
      rw [haccess, hs]
      rfl
    | some fd =>
      have hentry := walkEntry_eq hact fd (s := s.access) hs
      dsimp only
      rw [hentry]
      exact ih rfl

/-- The walk of `Tick` over the frontends is `WalkThrough` of their manager. -/
theorem walkThrough_eq {act : EasyNet γ → Bool × EasyNet γ}
    (hact : ∀ n, (act n).2.hevent = n.hevent) {w : World σ γ} {s : CursorMonitor γ}
    (hs : s.state = (w.frontendHandlerMgr, w.heap)) :
    w.walkThrough act = w.setMgr .frontEnd (s.walkThrough (.ofCheck act hact) ()).state := by
  unfold walkThrough CursorMonitor.walkThrough
  rw [walkLoop_eq hact kSingleRoundLoopNum hs]
  generalize (s.walkLoop (.ofCheck act hact) kSingleRoundLoopNum ()).2 = s'
  dsimp only [CursorMonitor.access, setMgr, CursorMonitor.state]
  cases s'.mgr.itCursor <;> rfl

end World

end Rapidapp
