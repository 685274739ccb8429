import Mathlib.Data.Finset.Basic
import Rapidapp.Misc.Run
import Rapidapp.Framework.SocketEvents

/-!
# Setting up a connection

`CreateBackEnd` and `OnFrontEndConnect` (`framework/rapidapp_framework_imp.cpp:1317-1354`,
`958-1004`) with every call in them that can fail, and with the sockets that are open. A call that
cannot set up its connection undoes what was done so far, with two exceptions: `CreateBackEnd` goes
on with a null pointer when there is no memory for the user context, and nobody closes an accepted
socket for which there is no `bufferevent` (`setUp_right_iff`).
-/

namespace Rapidapp

variable {σ γ : Type}

/-- `MAX_URL_LEN` (`rapidapp_easy_net.h:10`). -/
def maxUrlLen : Nat := 128

/-- What the address of a client says. -/
structure SockAddrIn where
  sinAddr : UInt8 × UInt8 × UInt8 × UInt8
  sinPort : UInt16

/-- `inet_ntoa`. -/
def inetNtoa (a : UInt8 × UInt8 × UInt8 × UInt8) : List Char :=
  Nat.toDigits 10 a.1.toNat ++ '.' :: Nat.toDigits 10 a.2.1.toNat ++
    '.' :: Nat.toDigits 10 a.2.2.1.toNat ++ '.' :: Nat.toDigits 10 a.2.2.2.toNat

/-- The uri of a client, in the format `%s:%d` (`rapidapp_framework_imp.cpp:974`). -/
def SockAddrIn.uri (addr : SockAddrIn) : List Char :=
  inetNtoa addr.sinAddr ++ ':' :: Nat.toDigits 10 addr.sinPort.toNat

/-- What `bufferevent_socket_connect` does with a `bufferevent` without a socket: it opens one and
starts to connect, or it fails and may leave an open socket to the `bufferevent`. -/
inductive SocketConnect where
  | started (fd : Int)
  | failed (left : Option Int)
  deriving DecidableEq

/-- The descriptor of the socket it leaves open. -/
def SocketConnect.fd : SocketConnect → Option Int
  | .started fd => some fd
  | .failed left => left

/-- How the calls that `CreateBackEnd` makes turn out: `new`, `tcpsocket_str2sockin`,
`bufferevent_socket_new`, `bufferevent_socket_connect` and `calloc`. -/
structure ConnectFates where
  newOk : Bool
  parseOk : Bool
  bevOk : Bool
  connect : SocketConnect
  callocOk : Bool
  deriving DecidableEq

/-- How the calls that `OnFrontEndConnect` makes turn out. -/
structure AcceptFates where
  newOk : Bool
  bevOk : Bool
  callocOk : Bool
  deriving DecidableEq

/-- The connections of the framework, with the descriptors of the sockets that are open. -/
structure SocketWorld (σ γ : Type) where
  world : World σ γ
  sockets : Finset Int

namespace SocketWorld

/-- After `AppFrameWork::Init`. -/
def start (app : σ) (fate : Nat → Bool) (frontRecv backRecv : RapBuffer) (svcMode : SvcMode)
    (now : Int) : SocketWorld σ γ :=
  ⟨.start app fate frontRecv backRecv svcMode now, ∅⟩

/-- Other objects on the heap. -/
def setHeap (s : SocketWorld σ γ) (h : Heap γ) : SocketWorld σ γ :=
  { s with world := { s.world with heap := h } }

/-- The kernel opens a socket. -/
def openSocket (s : SocketWorld σ γ) (fd : Int) : SocketWorld σ γ :=
  { s with sockets := insert fd s.sockets }

/-- `bufferevent_free`; the `bufferevent`s are made with `BEV_OPT_CLOSE_ON_FREE`. -/
def buffereventFree (s : SocketWorld σ γ) (b : BevPtr) : SocketWorld σ γ :=
  { s.setHeap { s.world.heap with bevs := Function.update s.world.heap.bevs b none } with
    sockets := s.sockets.erase (s.world.heap.getfd b) }

/-- `EasyNet::Init` (`rapidapp_easy_net.cpp:22-50`) for an event base that is not null. -/
def easyNetInit (s : SocketWorld σ γ) (p : NetPtr) (sockFd type : Int) (bevOk : Bool) :
    Bool × SocketWorld σ γ :=
  if sockFd < 0 then (false, s)
  else if bevOk then (true, s.setHeap (s.world.heap.attach p sockFd type .netEstablished))
  else (false, s)

/-- `EasyNet::Connect` (`rapidapp_easy_net.cpp:52-105`) for an event base that is not null. -/
def easyNetConnect (s : SocketWorld σ γ) (p : NetPtr) (uri : List UInt8) (type : Int)
    (f : ConnectFates) : Bool × SocketWorld σ γ :=
  if maxUrlLen ≤ uri.length then (false, s)
  else if !f.parseOk then (false, s)
  else if !f.bevOk then (false, s)
  else
    match f.connect with
    | .started fd =>
      (true, (s.openSocket fd).setHeap (s.world.heap.attach p fd type .netConnecting))
    | .failed none =>
      let (b, h) := s.world.heap.newBev (-1)
      (false, (s.setHeap h).buffereventFree b)
    | .failed (some fd) =>
      let (b, h) := s.world.heap.newBev fd
      (false, ((s.openSocket fd).setHeap h).buffereventFree b)

/-- `AddHandlerToMap`. -/
def addHandlerToMap (s : SocketWorld σ γ) (side : Side) (p : NetPtr) : SocketWorld σ γ :=
  let m := (s.world.mgr side).addHandlerToMap s.world.heap p
  { s with world := s.world.setMgr side (m, s.world.heap) }

/-- `NetHandlerMgr::AddHandlerByUri` (`rapidapp_net_mgr.cpp:66-95`). -/
def addHandlerByUri (s : SocketWorld σ γ) (uri : Option (List UInt8)) (type : Int)
    (f : ConnectFates) : Option NetPtr × SocketWorld σ γ :=
  match uri with
  | none => (none, s)
  | some uri =>
    if !f.newOk then (none, s)
    else
      let (p, h) := s.world.heap.newEasyNet
      match (s.setHeap h).easyNetConnect p uri type f with
      | (false, s) => (none, s.setHeap (s.world.heap.deleteNet p))
      | (true, s) => (some p, s.addHandlerToMap .backEnd p)

/-- `NetHandlerMgr::AddHandlerBySocket` (`rapidapp_net_mgr.cpp:97-124`). -/
def addHandlerBySocket (s : SocketWorld σ γ) (sockFd type : Int) (f : AcceptFates) :
    Option NetPtr × SocketWorld σ γ :=
  if sockFd < 0 then (none, s)
  else if !f.newOk then (none, s)
  else
    let (p, h) := s.world.heap.newEasyNet
    match (s.setHeap h).easyNetInit p sockFd type f.bevOk with
    | (false, s) => (none, s.setHeap (s.world.heap.deleteNet p))
    | (true, s) => (some p, s.addHandlerToMap .frontEnd p)

/-- `EasyNet::CreateUserContext` for a size above zero. -/
def createUserContext [Inhabited γ] (s : SocketWorld σ γ) (p : NetPtr) (callocOk : Bool) :
    Bool × SocketWorld σ γ :=
  ((s.world.heap.createUserContext p callocOk).1,
    s.setHeap (s.world.heap.createUserContext p callocOk).2)

/-- `NetHandlerMgr::RemoveHandlerByEvent`; `CleanUp` frees the `bufferevent` of the `EasyNet`. -/
def removeHandlerByEvent (s : SocketWorld σ γ) (side : Side) (b : BevPtr) : SocketWorld σ γ :=
  match (s.world.mgr side).getHandlerByEvent s.world.heap b with
  | none => s
  | some p =>
    { world := s.world.eraseAt side (s.world.heap.getfd b) p
      sockets :=
        match (s.world.heap.nets p).bind (·.hevent) with
        | none => s.sockets
        | some b => s.sockets.erase (s.world.heap.getfd b) }

/-- `NetHandlerMgr::RemoveHandler`. -/
def removeHandler (s : SocketWorld σ γ) (side : Side) (p : NetPtr) : SocketWorld σ γ :=
  match (s.world.heap.nets p).bind (·.hevent) with
  | none => s
  | some b => s.removeHandlerByEvent side b

/-- `DestroyBackEnd` and `DestroyFrontEnd` (`rapidapp_framework_imp.cpp:1343-1367`) with what they
leave in the pointer. -/
def destroyNet (s : SocketWorld σ γ) (side : Side) (net : Option NetPtr) :
    Option NetPtr × SocketWorld σ γ :=
  match net with
  | none => (none, s)
  | some p => (none, s.removeHandler side p)

/-- `EasyNet::set_active_time`. `none` is its use on a null pointer. -/
def setActiveTime (s : SocketWorld σ γ) (net : Option NetPtr) : Option (SocketWorld σ γ) :=
  match net with
  | none => none
  | some p =>
    match s.world.heap.nets p with
    | none => some s
    | some n =>
      some (s.setHeap (s.world.heap.setNet p { n with lastActiveTimestamp := s.world.now }))

/-- `AppFrameWork::CreateBackEnd` (`rapidapp_framework_imp.cpp:1317-1341`); `uctxSize` is what
`GetBackEndContextSize` returns. `none` is the use of a null `EasyNet`. -/
def createBackEnd [Inhabited γ] (s : SocketWorld σ γ) (uri : Option (List UInt8)) (type : Int)
    (uctxSize : Nat) (f : ConnectFates) : Option (Option NetPtr × SocketWorld σ γ) :=
  match s.addHandlerByUri uri type f with
  | (none, s) => some (none, s)
  | (some p, s) =>
    let (net, s) :=
      if 0 < uctxSize then
        match s.createUserContext p f.callocOk with
        | (false, s) => s.destroyNet .backEnd (some p)
        | (true, s) => (some p, s)
      else (some p, s)
    (s.setActiveTime net).map fun s => (net, s)

/-- `AppFrameWork::OnFrontEndConnect` (`rapidapp_framework_imp.cpp:958-1004`) up to the call of the
application's `OnFrontEndConnect`, whose result it ignores; `uctxSize` is what
`GetFrontEndContextSize` returns. `none` is the failed assertion, or the use of a null
`EasyNet`. -/
def onFrontEndConnect [Inhabited γ] (s : SocketWorld σ γ) (sock : Int) (addr : SockAddrIn)
    (uctxSize : Nat) (f : AcceptFates) : Option (Int × SocketWorld σ γ) :=
  if sock < 0 then none
  else
    match s.addHandlerBySocket sock 0 f with
    | (none, s) => some (-1, s)
    | (some p, s) =>
      if maxUrlLen ≤ addr.uri.length then some (-1, s)
      else if 0 < uctxSize then
        match s.createUserContext p f.callocOk with
        | (false, s) => some (-1, s.removeHandler .frontEnd p)
        | (true, s) => (s.setActiveTime (some p)).map fun s => (0, s)
      else (s.setActiveTime (some p)).map fun s => (0, s)

end SocketWorld

/-- A backend is made, a client is accepted, or a connection is destroyed. -/
inductive SocketEvent where
  | createBackEnd (uri : Option (List UInt8)) (type : Int) (uctxSize : Nat) (f : ConnectFates)
  | accept (sock : Int) (addr : SockAddrIn) (uctxSize : Nat) (f : AcceptFates)
  | destroyNet (side : Side) (net : Option NetPtr)

namespace SocketWorld

/-- The descriptor of no open socket. -/
def Unused (s : SocketWorld σ γ) (fd : Int) : Prop := 0 ≤ fd ∧ fd < 2 ^ 31 ∧ fd ∉ s.sockets

instance (s : SocketWorld σ γ) (fd : Int) : Decidable (s.Unused fd) :=
  inferInstanceAs (Decidable (_ ∧ _ ∧ _))

/-- The kernel gives a new socket an unused descriptor. -/
def Possible (s : SocketWorld σ γ) : SocketEvent → Prop
  | .createBackEnd _ _ _ f => ∀ fd ∈ f.connect.fd, s.Unused fd
  | .accept sock _ _ _ => s.Unused sock
  | .destroyNet _ _ => True

instance (s : SocketWorld σ γ) : DecidablePred s.Possible
  | .createBackEnd _ _ _ f => inferInstanceAs (Decidable (∀ fd ∈ f.connect.fd, s.Unused fd))
  | .accept sock _ _ _ => inferInstanceAs (Decidable (s.Unused sock))
  | .destroyNet _ _ => isTrue trivial

/-- One event. -/
def step [Inhabited γ] (s : SocketWorld σ γ) (e : SocketEvent) : Option (SocketWorld σ γ) :=
  if s.Possible e then
    match e with
    | .createBackEnd uri type uctxSize f => (s.createBackEnd uri type uctxSize f).map (·.2)
    | .accept sock addr uctxSize f =>
      ((s.openSocket sock).onFrontEndConnect sock addr uctxSize f).map (·.2)
    | .destroyNet side net => some (s.destroyNet side net).2
  else none

end SocketWorld

/-! ## What is asked of the two calls -/

/-- All calls of `EasyNet::Connect` succeed. -/
def ConnectFates.ConnectsTo (f : ConnectFates) (uri : List UInt8) : Prop :=
  uri.length < maxUrlLen ∧ f.parseOk = true ∧ f.bevOk = true ∧ ∃ fd, f.connect = .started fd

/-- All calls up to `calloc` succeed. -/
def ConnectFates.Connects (f : ConnectFates) (uri : Option (List UInt8)) : Prop :=
  f.newOk = true ∧ ∃ u, uri = some u ∧ f.ConnectsTo u

/-- All calls succeed. -/
def ConnectFates.SetsUp (f : ConnectFates) (uri : Option (List UInt8)) (uctxSize : Nat) : Prop :=
  f.Connects uri ∧ (0 < uctxSize → f.callocOk = true)

/-- All calls up to `calloc` succeed. -/
def AcceptFates.Accepts (f : AcceptFates) : Prop := f.newOk = true ∧ f.bevOk = true

/-- All calls succeed. -/
def AcceptFates.SetsUp (f : AcceptFates) (uctxSize : Nat) : Prop :=
  f.Accepts ∧ (0 < uctxSize → f.callocOk = true)

namespace SocketWorld

/-- The pool of that side and the open sockets are as they were. -/
structure Undone (side : Side) (s s' : SocketWorld σ γ) : Prop where
  pool : (s'.world.mgr side).handlerPool = (s.world.mgr side).handlerPool
  sockets : s'.sockets = s.sockets

/-- The `EasyNet` is in the pool of that side under the descriptor of an open socket. -/
def Pooled (side : Side) (s : SocketWorld σ γ) (p : NetPtr) : Prop :=
  ∃ fd, (s.world.mgr side).handlerPool.lookup fd = some p ∧ fd ∈ s.sockets

/-- `CreateBackEnd` uses no null pointer, and it returns null exactly when the connection could not
be set up; then everything is undone. -/
def CreateBackEndRight [Inhabited γ] (s : SocketWorld σ γ) (uri : Option (List UInt8)) (type : Int)
    (uctxSize : Nat) (f : ConnectFates) : Prop :=
  ∃ net s', s.createBackEnd uri type uctxSize f = some (net, s') ∧
    (net = none ↔ ¬ f.SetsUp uri uctxSize) ∧ (net = none → Undone .backEnd s s') ∧
    ∀ p, net = some p → Pooled .backEnd s' p

/-- `OnFrontEndConnect` uses no null pointer, and what it returns is not zero exactly when the
connection could not be set up; then everything is undone, and the accepted socket is closed. -/
def OnFrontEndConnectRight [Inhabited γ] (s : SocketWorld σ γ) (sock : Int) (addr : SockAddrIn)
    (uctxSize : Nat) (f : AcceptFates) : Prop :=
  ∃ ret s', (s.openSocket sock).onFrontEndConnect sock addr uctxSize f = some (ret, s') ∧
    (ret ≠ 0 ↔ ¬ f.SetsUp uctxSize) ∧ (ret ≠ 0 → Undone .frontEnd s s') ∧
    (ret = 0 → ∃ p, Pooled .frontEnd s' p)

/-- What is asked of an event. -/
def Right [Inhabited γ] (s : SocketWorld σ γ) : SocketEvent → Prop
  | .createBackEnd uri type uctxSize f => s.CreateBackEndRight uri type uctxSize f
  | .accept sock addr uctxSize f => s.OnFrontEndConnectRight sock addr uctxSize f
  | .destroyNet _ _ => True

end SocketWorld

/-- The calls that fail are others than the `calloc` of a backend, and than the `new` and the
`bufferevent_socket_new` of a frontend. -/
def SocketEvent.Undoes : SocketEvent → Prop
  | .createBackEnd uri _ uctxSize f => f.Connects uri → 0 < uctxSize → f.callocOk = true
  | .accept _ _ _ f => f.Accepts
  | .destroyNet _ _ => True

namespace SocketWorld

/-! ## Objects and sockets -/

/-- The connections are in order, and the sockets of their `bufferevent`s are open. -/
structure Ok (s : SocketWorld σ γ) : Prop where
  world : s.world.Ok
  opened : ∀ b e, s.world.heap.bevs b = some e → e.fd ∈ s.sockets
  nonneg : ∀ fd ∈ s.sockets, 0 ≤ fd

theorem Unused.freshFd {s : SocketWorld σ γ} (h : s.Ok) {fd : Int} (hfd : s.Unused fd) :
    s.world.FreshFd fd := by
  refine ⟨hfd.1, hfd.2.1, fun b e he heq => hfd.2.2 ?_⟩
  rw [← heq]
  exact h.opened b e he

theorem Ok.start (app : σ) (fate : Nat → Bool) (frontRecv backRecv : RapBuffer) (svcMode : SvcMode)
    (now : Int) : (start (γ := γ) app fate frontRecv backRecv svcMode now).Ok where
  world := World.ok_start app fate frontRecv backRecv svcMode now
  opened b e he := by cases he
  nonneg fd hfd := absurd hfd (Finset.notMem_empty fd)

theorem Ok.openSocket {s : SocketWorld σ γ} (h : s.Ok) {fd : Int} (hfd : 0 ≤ fd) :
    (s.openSocket fd).Ok where
  world := h.world
  opened b e he := Finset.mem_insert_of_mem (h.opened b e he)
  nonneg fd' hfd' := by
    rcases Finset.mem_insert.mp hfd' with rfl | hold
    · exact hfd
    · exact h.nonneg fd' hold

/-- The same objects, and no socket closed. -/
theorem Ok.similar {s s' : SocketWorld σ γ} (h : s.Ok) (hs : s.world.Similar s'.world)
    (hsockets : s'.sockets = s.sockets) : s'.Ok where
  world := h.world.similar hs
  opened b e' he' := by
    obtain ⟨e, he, hfd⟩ := hs.bev_back he'
    rw [hfd, hsockets]
    exact h.opened b e he
  nonneg fd hfd := h.nonneg fd (hsockets ▸ hfd)

/-- A connection on a new socket. -/
theorem Ok.openAt {s : SocketWorld σ γ} (h : s.Ok) (side : Side) {fd : Int} (hfd : s.Unused fd)
    (type : Int) (state : NetState) :
    Ok ⟨s.world.openAt side fd type state, insert fd s.sockets⟩ where
  world := h.world.openAt side (hfd.freshFd h) type state
  opened b e he := by
    rw [World.bevs_openAt] at he
    by_cases hb : b = s.world.heap.nextBev
    · subst hb
      simp only [Function.update_self, Option.some.injEq] at he
      rw [← he]
      exact Finset.mem_insert_self _ _
    · rw [Function.update_of_ne hb] at he
      exact Finset.mem_insert_of_mem (h.opened b e he)
  nonneg fd' hfd' := by
    rcases Finset.mem_insert.mp hfd' with rfl | hold
    · exact hfd.1
    · exact h.nonneg fd' hold

/-- The addresses of an `EasyNet` and of `k` `bufferevent`s have been used up. -/
def usedUp (s : SocketWorld σ γ) (k : Nat) : SocketWorld σ γ :=
  let h := s.world.heap.newEasyNet.2.deleteNet s.world.heap.newEasyNet.1
  s.setHeap { h with nextBev := h.nextBev + k }

theorem similar_usedUp {s : SocketWorld σ γ} (h : s.Ok) (k : Nat) :
    s.world.Similar (s.usedUp k).world :=
  have hdeleted := World.similar_newDelete h.world
  ⟨hdeleted.pool, hdeleted.nextNet, Nat.le_add_right _ _, hdeleted.netNone, hdeleted.net,
    hdeleted.bevNone, hdeleted.bev⟩

/-! ## CreateBackEnd -/

theorem bevs_nextBev {h : Heap γ} (hok : h.Ok) : h.bevs h.nextBev = none := by
  cases hb : h.bevs h.nextBev with
  | none => rfl
  | some e => exact absurd (hok.bevLt hb) (lt_irrefl _)

/-- A `bufferevent` that was made and freed again. -/
theorem buffereventFree_newBev (s : SocketWorld σ γ) (fd : Int)
    (hnext : s.world.heap.bevs s.world.heap.nextBev = none) :
    (s.setHeap (s.world.heap.newBev fd).2).buffereventFree (s.world.heap.newBev fd).1 =
      { s.setHeap { s.world.heap with nextBev := s.world.heap.nextBev + 1 } with
        sockets := s.sockets.erase fd } := by
  have hsame : Function.update s.world.heap.bevs s.world.heap.nextBev none = s.world.heap.bevs := by
    rw [← hnext]
    exact Function.update_eq_self _ _
  simp [buffereventFree, setHeap, Heap.newBev, Heap.setBev, Heap.getfd, hsame]

/-- `EasyNet::Connect` fails and leaves no socket open, or it goes on to connect. -/
theorem easyNetConnect_cases {s : SocketWorld σ γ} {f : ConnectFates} (p : NetPtr)
    (uri : List UInt8) (type : Int) (hnext : s.world.heap.bevs s.world.heap.nextBev = none)
    (hneg : -1 ∉ s.sockets) (hfd : ∀ fd ∈ f.connect.fd, s.Unused fd) :
    (¬ f.ConnectsTo uri ∧ ∃ k, s.easyNetConnect p uri type f =
      (false, s.setHeap { s.world.heap with nextBev := s.world.heap.nextBev + k })) ∨
    ∃ fd, f.ConnectsTo uri ∧ f.connect = .started fd ∧ s.easyNetConnect p uri type f =
      (true, (s.openSocket fd).setHeap (s.world.heap.attach p fd type .netConnecting)) := by
  by_cases huri : maxUrlLen ≤ uri.length
  · refine .inl ⟨fun hc => absurd hc.1 (not_lt.mpr huri), 0, ?_⟩
    rw [easyNetConnect, if_pos huri]
    rfl
  cases hparse : f.parseOk with
  | false =>
    refine .inl ⟨fun hc => by simp [hc.2.1] at hparse, 0, ?_⟩
    simp only [easyNetConnect, huri, hparse]
    rfl
  | true =>
    cases hbev : f.bevOk with
    | false =>
      refine .inl ⟨fun hc => by simp [hc.2.2.1] at hbev, 0, ?_⟩
      simp only [easyNetConnect, huri, hparse, hbev]
      rfl
    | true =>
      have hfate : ∀ left, f.connect = .failed left → ¬ f.ConnectsTo uri := by
        rintro left hleft ⟨-, -, -, fd, hstarted⟩
        rw [hleft] at hstarted
        cases hstarted
      rcases hconnect : f.connect with fd | _ | fd
      · refine .inr ⟨fd, ⟨not_le.mp huri, hparse, hbev, fd, hconnect⟩, rfl, ?_⟩
        simp [easyNetConnect, huri, hparse, hbev, hconnect]
      · refine .inl ⟨hfate none hconnect, 1, ?_⟩
        have hfree := s.buffereventFree_newBev (-1) hnext
        rw [Finset.erase_eq_of_notMem hneg] at hfree
        simp only [easyNetConnect, huri, hparse, hbev, hconnect, hfree]
        rfl
      · refine .inl ⟨hfate (some fd) hconnect, 1, ?_⟩
        have hunused := hfd fd (by rw [hconnect]; rfl)
        have hfree := (s.openSocket fd).buffereventFree_newBev fd hnext
        have herase : (s.openSocket fd).sockets.erase fd = s.sockets :=
          Finset.erase_insert hunused.2.2
        rw [herase] at hfree
        simp only [easyNetConnect, huri, hparse, hbev, hconnect]
        exact congrArg (Prod.mk false) hfree

/-- `AddHandlerByUri` leaves nothing behind, or a connection in the pool. -/
theorem addHandlerByUri_cases {s : SocketWorld σ γ} (h : s.Ok) (uri : Option (List UInt8))
    (type : Int) {f : ConnectFates} (hfd : ∀ fd ∈ f.connect.fd, s.Unused fd) :
    (¬ f.Connects uri ∧ ∃ s', s.addHandlerByUri uri type f = (none, s') ∧
      s.world.Similar s'.world ∧ s'.sockets = s.sockets) ∨
    ∃ fd, f.Connects uri ∧ f.connect = .started fd ∧ s.addHandlerByUri uri type f =
      (some s.world.heap.nextNet,
        ⟨s.world.openAt .backEnd fd type .netConnecting, insert fd s.sockets⟩) := by
  have hself : s.world.Similar s.world := .refl _
  cases uri with
  | none =>
    refine .inl ⟨?_, s, rfl, hself, rfl⟩
    rintro ⟨-, u, hu, -⟩
    cases hu
  | some u =>
    cases hnew : f.newOk with
    | false =>
      refine .inl ⟨fun hc => by simp [hc.1] at hnew, s, ?_, hself, rfl⟩
      simp [addHandlerByUri, hnew]
    | true =>
      have hneg : (-1 : Int) ∉ s.sockets := fun hmem => absurd (h.nonneg _ hmem) (by decide)
      have hnext := bevs_nextBev h.world.heap
      obtain ⟨hfail, k, heq⟩ | ⟨fd, hto, hstarted, heq⟩ :=
        easyNetConnect_cases (s := s.setHeap s.world.heap.newEasyNet.2) s.world.heap.newEasyNet.1
          u type hnext hneg hfd
      · refine .inl ⟨?_, s.usedUp k, ?_, similar_usedUp h k, rfl⟩
        · rintro ⟨-, u', hu', hto⟩
          cases hu'
          exact hfail hto
        · simp only [addHandlerByUri, hnew, heq]
          rfl
      · exact .inr ⟨fd, ⟨hnew, u, rfl, hto⟩, hstarted, by simp only [addHandlerByUri, hnew, heq]; rfl⟩

/-- The stores into a connection that is there: it stays what it is. -/
structure Stored (p : NetPtr) (s s' : SocketWorld σ γ) : Prop where
  similar : s.world.Similar s'.world
  sockets : s'.sockets = s.sockets
  net : ∃ n, s'.world.heap.nets p = some n

theorem Stored.trans {p : NetPtr} {s s' s'' : SocketWorld σ γ} (h : Stored p s s')
    (h' : Stored p s' s'') : Stored p s s'' :=
  ⟨h.similar.trans h'.similar, h'.sockets.trans h.sockets, h'.net⟩

theorem stored_setNet {s : SocketWorld σ γ} {p : NetPtr} {n : EasyNet γ} (n' : EasyNet γ)
    (hn : s.world.heap.nets p = some n) (hev : n'.hevent = n.hevent) :
    Stored p s (s.setHeap (s.world.heap.setNet p n')) :=
  ⟨World.similar_setNet s.world hn hev, rfl, n', Function.update_self _ _ _⟩

theorem createUserContext_ok [Inhabited γ] {s : SocketWorld σ γ} {p : NetPtr}
    (hp : ∃ n, s.world.heap.nets p = some n) :
    ∃ s', s.createUserContext p true = (true, s') ∧ Stored p s s' := by
  obtain ⟨n, hn⟩ := hp
  refine ⟨_, ?_, stored_setNet { n with userContext := some default } hn rfl⟩
  simp [createUserContext, Heap.createUserContext, hn]

theorem createUserContext_failed [Inhabited γ] (s : SocketWorld σ γ) (p : NetPtr) :
    s.createUserContext p false = (false, s) := by
  unfold createUserContext Heap.createUserContext
  cases s.world.heap.nets p <;> rfl

theorem setActiveTime_ok {s : SocketWorld σ γ} {p : NetPtr}
    (hp : ∃ n, s.world.heap.nets p = some n) :
    ∃ s', s.setActiveTime (some p) = some s' ∧ Stored p s s' := by
  obtain ⟨n, hn⟩ := hp
  refine ⟨_, ?_, stored_setNet { n with lastActiveTimestamp := s.world.now } hn rfl⟩
  simp [setActiveTime, hn]

/-- The newest connection is in the pool. -/
theorem pooled_openAt {s s' : SocketWorld σ γ} {side : Side} {fd type : Int} {state : NetState}
    (hs : Stored s.world.heap.nextNet
      ⟨s.world.openAt side fd type state, insert fd s.sockets⟩ s') :
    Pooled side s' s.world.heap.nextNet := by
  refine ⟨fd, ?_, ?_⟩
  · rw [hs.similar.pool side, World.lookup_openAt]
    exact if_pos ⟨rfl, rfl⟩
  · rw [hs.sockets]
    exact Finset.mem_insert_self _ _

/-- The ways through `CreateBackEnd`: nothing is left behind, a null pointer is used, or there is
one more connection. -/
theorem createBackEnd_cases [Inhabited γ] {s : SocketWorld σ γ} (h : s.Ok)
    (uri : Option (List UInt8)) (type : Int) (uctxSize : Nat) {f : ConnectFates}
    (hfd : ∀ fd ∈ f.connect.fd, s.Unused fd) :
    (¬ f.Connects uri ∧ ∃ s', s.createBackEnd uri type uctxSize f = some (none, s') ∧
      s.world.Similar s'.world ∧ s'.sockets = s.sockets) ∨
    (f.Connects uri ∧ 0 < uctxSize ∧ f.callocOk = false ∧
      s.createBackEnd uri type uctxSize f = none) ∨
    ∃ fd s', f.SetsUp uri uctxSize ∧ f.connect = .started fd ∧
      s.createBackEnd uri type uctxSize f = some (some s.world.heap.nextNet, s') ∧
      Stored s.world.heap.nextNet
        ⟨s.world.openAt .backEnd fd type .netConnecting, insert fd s.sockets⟩ s' := by
  obtain ⟨hnot, s', heq, hsim, hsockets⟩ | ⟨fd, hc, hstarted, heq⟩ :=
    addHandlerByUri_cases h uri type hfd
  · exact .inl ⟨hnot, s', by simp [createBackEnd, heq], hsim, hsockets⟩
  refine .inr ?_
  have hlive := s.world.live_openAt .backEnd fd type .netConnecting
  set s₁ : SocketWorld σ γ := ⟨s.world.openAt .backEnd fd type .netConnecting, insert fd s.sockets⟩
  by_cases hctx : 0 < uctxSize
  · cases hcalloc : f.callocOk with
    | false =>
      -- the pointer is null after `DestroyBackEnd`
      refine .inl ⟨hc, hctx, rfl, ?_⟩
      simp [createBackEnd, heq, hctx, hcalloc, createUserContext_failed, destroyNet, setActiveTime]
    | true =>
      obtain ⟨s₂, heq₂, hstored₂⟩ := createUserContext_ok (s := s₁) ⟨_, hlive.net⟩
      obtain ⟨s₃, heq₃, hstored₃⟩ := setActiveTime_ok hstored₂.net
      refine .inr ⟨fd, s₃, ⟨hc, fun _ => hcalloc⟩, hstarted, ?_, hstored₂.trans hstored₃⟩
      simp [createBackEnd, heq, hctx, hcalloc, heq₂, heq₃]
  · obtain ⟨s₃, heq₃, hstored₃⟩ := setActiveTime_ok (s := s₁) ⟨_, hlive.net⟩
    refine .inr ⟨fd, s₃, ⟨hc, fun hpos => absurd hpos hctx⟩, hstarted, ?_, hstored₃⟩
    simp [createBackEnd, heq, hctx, heq₃]

/-! ## OnFrontEndConnect -/

/-- The uri of a client always fits. -/
theorem length_uri (addr : SockAddrIn) : addr.uri.length < maxUrlLen := by
  have hdigits : ∀ n k, 0 < k → n < 10 ^ k → (Nat.toDigits 10 n).length ≤ k := by
    intro n k hk hn
    exact (Nat.length_toDigits_le_iff (by decide) hk).mpr hn
  have hbyte : ∀ b : UInt8, (Nat.toDigits 10 b.toNat).length ≤ 3 := by
    intro b
    exact hdigits _ 3 (by decide) (lt_trans b.toNat_lt (by decide))
  have hport := hdigits addr.sinPort.toNat 5 (by decide) (lt_trans addr.sinPort.toNat_lt (by decide))
  have h₁ := hbyte addr.sinAddr.1
  have h₂ := hbyte addr.sinAddr.2.1
  have h₃ := hbyte addr.sinAddr.2.2.1
  have h₄ := hbyte addr.sinAddr.2.2.2
  simp only [SockAddrIn.uri, inetNtoa, List.length_append, List.length_cons, maxUrlLen]
  omega

/-- `AddHandlerBySocket` makes nothing, or a connection in the pool. -/
theorem addHandlerBySocket_cases {s : SocketWorld σ γ} (h : s.Ok) {sock : Int} (hsock : 0 ≤ sock)
    (type : Int) (f : AcceptFates) :
    (¬ f.Accepts ∧ ∃ s', s.addHandlerBySocket sock type f = (none, s') ∧
      s.world.Similar s'.world ∧ s'.sockets = s.sockets) ∨
    (f.Accepts ∧ s.addHandlerBySocket sock type f =
      (some s.world.heap.nextNet, { s with
        world := s.world.openAt .frontEnd sock type .netEstablished })) := by
  have hneg : ¬ sock < 0 := not_lt.mpr hsock
  cases hnew : f.newOk with
  | false =>
    refine .inl ⟨fun ha => by simp [ha.1] at hnew, s, ?_, .refl _, rfl⟩
    simp [addHandlerBySocket, hneg, hnew]
  | true =>
    cases hbev : f.bevOk with
    | false =>
      refine .inl ⟨fun ha => by simp [ha.2] at hbev, s.usedUp 0, ?_, similar_usedUp h 0, rfl⟩
      simp only [addHandlerBySocket, easyNetInit, hneg, hnew, hbev]
      rfl
    | true =>
      refine .inr ⟨⟨hnew, hbev⟩, ?_⟩
      simp only [addHandlerBySocket, easyNetInit, hneg, hnew, hbev]
      rfl

/-- The socket of a connection that is removed is closed. -/
theorem removeHandler_eq {s : SocketWorld σ γ} {side : Side} {p : NetPtr} {n : EasyNet γ}
    {b : BevPtr} {e : BufferEvent} (hl : s.world.heap.Live p n b e)
    (hp : (s.world.mgr side).handlerPool.lookup e.fd = some p) :
    s.removeHandler side p = ⟨s.world.eraseAt side e.fd p, s.sockets.erase e.fd⟩ := by
  have hev := World.getHandlerByEvent_eq side hl.bev
  simp [removeHandler, removeHandlerByEvent, hl.net, hl.hevent, hev, hp, World.getfd_of_bev hl.bev]

/-- An entry that was added and erased again. -/
theorem erase_insert_pool {pool : HandlerPool} {fd : Int} (h : pool.lookup fd = none)
    (p : NetPtr) : (pool.insert fd p).erase fd = pool := by
  have hmem : fd ∉ pool := AList.lookup_eq_none.mp h
  apply AList.ext
  show List.kerase fd (pool.insert fd p).entries = pool.entries
  rw [AList.entries_insert_of_notMem hmem]
  exact List.kerase_cons_eq rfl

theorem pool_openAt (w : World σ γ) (side : Side) (fd type : Int) (state : NetState) :
    ((w.openAt side fd type state).mgr side).handlerPool =
      (w.mgr side).handlerPool.insert fd w.heap.nextNet := by
  cases side <;>
    simp [World.openAt, World.setMgr, World.mgr, NetHandlerMgr.addHandlerToMap, World.openNet_eq,
      World.openedNet, Heap.getfd]

/-- A connection that was only just made goes without a trace. -/
theorem removeHandler_openAt {s : SocketWorld σ γ} (h : s.Ok) (side : Side) {fd : Int}
    (hfd : s.Unused fd) (type : Int) (state : NetState) :
    Undone side s (removeHandler
      ⟨s.world.openAt side fd type state, insert fd s.sockets⟩ side s.world.heap.nextNet) := by
  have hlookup : ((s.world.openAt side fd type state).mgr side).handlerPool.lookup fd =
      some s.world.heap.nextNet := by
    rw [World.lookup_openAt, if_pos ⟨rfl, rfl⟩]
  rw [removeHandler_eq (s.world.live_openAt side fd type state) hlookup]
  refine ⟨?_, Finset.erase_insert hfd.2.2⟩
  have hpool : ∀ w : World σ γ, ((w.eraseAt side fd s.world.heap.nextNet).mgr side).handlerPool =
      (w.mgr side).handlerPool.erase fd := by
    intro w
    cases side <;> rfl
  rw [hpool, pool_openAt]
  exact erase_insert_pool ((hfd.freshFd h).lookup_none h.world side) _

/-- The ways through `OnFrontEndConnect`: nothing was made, and the socket is still open, or
everything is undone, or there is one more connection. -/
theorem onFrontEndConnect_cases [Inhabited γ] {s : SocketWorld σ γ} (h : s.Ok) {sock : Int}
    (hsock : s.Unused sock) (addr : SockAddrIn) (uctxSize : Nat) (f : AcceptFates) :
    (¬ f.Accepts ∧ ∃ s', (s.openSocket sock).onFrontEndConnect sock addr uctxSize f =
        some (-1, s') ∧ s.world.Similar s'.world ∧ s'.sockets = insert sock s.sockets) ∨
    (f.Accepts ∧ 0 < uctxSize ∧ f.callocOk = false ∧
      (s.openSocket sock).onFrontEndConnect sock addr uctxSize f = some (-1, removeHandler
        ⟨s.world.openAt .frontEnd sock 0 .netEstablished, insert sock s.sockets⟩ .frontEnd
        s.world.heap.nextNet)) ∨
    ∃ s', f.SetsUp uctxSize ∧
      (s.openSocket sock).onFrontEndConnect sock addr uctxSize f = some (0, s') ∧
      Stored s.world.heap.nextNet
        ⟨s.world.openAt .frontEnd sock 0 .netEstablished, insert sock s.sockets⟩ s' := by
  have hneg : ¬ sock < 0 := not_lt.mpr hsock.1
  have huri : ¬ maxUrlLen ≤ addr.uri.length := not_le.mpr (length_uri addr)
  obtain ⟨hnot, s', heq, hsim, hsockets⟩ | ⟨ha, heq⟩ :=
    addHandlerBySocket_cases (h.openSocket hsock.1) hsock.1 0 f
  · exact .inl ⟨hnot, s', by simp [onFrontEndConnect, hneg, heq], hsim, hsockets⟩
  refine .inr ?_
  have hlive := s.world.live_openAt .frontEnd sock 0 .netEstablished
  by_cases hctx : 0 < uctxSize
  · cases hcalloc : f.callocOk with
    | false =>
      refine .inl ⟨ha, hctx, rfl, ?_⟩
      simp only [onFrontEndConnect, heq, hneg, huri, hctx, hcalloc, createUserContext_failed,
        if_false, if_true]
      rfl
    | true =>
      obtain ⟨s₂, heq₂, hstored₂⟩ := createUserContext_ok (s := { s.openSocket sock with
        world := (s.openSocket sock).world.openAt .frontEnd sock 0 .netEstablished }) ⟨_, hlive.net⟩
      obtain ⟨s₃, heq₃, hstored₃⟩ := setActiveTime_ok hstored₂.net
      have hp : (s.openSocket sock).world.heap.nextNet = s.world.heap.nextNet := rfl
      refine .inr ⟨s₃, ⟨ha, fun _ => hcalloc⟩, ?_, hstored₂.trans hstored₃⟩
      simp [onFrontEndConnect, heq, hneg, huri, hctx, hcalloc, heq₂, heq₃, hp]
  · obtain ⟨s₃, heq₃, hstored₃⟩ := setActiveTime_ok (s := { s.openSocket sock with
      world := (s.openSocket sock).world.openAt .frontEnd sock 0 .netEstablished }) ⟨_, hlive.net⟩
    have hp : (s.openSocket sock).world.heap.nextNet = s.world.heap.nextNet := rfl
    refine .inr ⟨s₃, ⟨ha, fun hpos => absurd hpos hctx⟩, ?_, hstored₃⟩
    simp [onFrontEndConnect, heq, hneg, huri, hctx, heq₃, hp]

/-! ## The calls without their sockets -/

/-- Where all calls succeed and there are no contexts this is `CreateBackEnd` on the connections. -/
theorem createBackEnd_world [Inhabited γ] {s : SocketWorld σ γ} (h : s.Ok)
    {uri : Option (List UInt8)} (type : Int) {f : ConnectFates} {fd : Int} (hc : f.Connects uri)
    (hstarted : f.connect = .started fd) (hfd : s.Unused fd) :
    (s.createBackEnd uri type 0 f).map (fun r => (r.1, r.2.world)) =
      some (s.world.createBackEnd type (some fd)) := by
  have hall : ∀ fd' ∈ f.connect.fd, s.Unused fd' := by
    rw [hstarted]
    rintro fd' hfd'
    cases hfd'
    exact hfd
  obtain ⟨hnot, -⟩ | ⟨fd', -, hstarted', heq⟩ := addHandlerByUri_cases h uri type hall
  · exact absurd hc hnot
  cases hstarted.symm.trans hstarted'
  obtain ⟨hnone, -⟩ | ⟨fd', n, hsome, hn, hworld⟩ := s.world.createBackEnd_cases type (some fd)
  · cases hnone
  cases hsome
  rw [hworld]
  simp only [createBackEnd, heq, lt_irrefl, if_false, setActiveTime, hn, setHeap]
  cases s
  rfl

/-- Accepting a client for an application with frontend contexts. -/
theorem onFrontEndConnect_world [Inhabited γ] {s : SocketWorld σ γ} (h : s.Ok) {sock : Int}
    (hsock : s.Unused sock) (addr : SockAddrIn) {uctxSize : Nat} (hctx : 0 < uctxSize)
    {f : AcceptFates} (hnew : f.newOk = true) :
    ((s.openSocket sock).onFrontEndConnect sock addr uctxSize f).map (fun r => r.2.world) =
      some (s.world.onFrontEndConnect (fun _ w => w) sock f.bevOk f.callocOk) := by
  have hneg : ¬ sock < 0 := not_lt.mpr hsock.1
  have huri : ¬ maxUrlLen ≤ addr.uri.length := not_le.mpr (length_uri addr)
  cases hbev : f.bevOk with
  | false =>
    simp only [onFrontEndConnect, addHandlerBySocket, easyNetInit, World.onFrontEndConnect,
      NetHandlerMgr.addHandlerBySocket, hneg, hnew, hbev]
    rfl
  | true =>
    have hlive := s.world.live_openAt .frontEnd sock 0 .netEstablished
    set w₁ := s.world.openAt .frontEnd sock 0 .netEstablished with hw₁
    have hadd : s.world.frontendHandlerMgr.addHandlerBySocket s.world.heap sock 0 true =
        (some s.world.heap.nextNet, w₁.frontendHandlerMgr, w₁.heap) := by
      simp only [NetHandlerMgr.addHandlerBySocket, hneg, if_false]
      rfl
    obtain ⟨hnot, -⟩ | ⟨-, heq⟩ := addHandlerBySocket_cases (h.openSocket hsock.1) hsock.1 0 f
    · exact absurd ⟨hnew, hbev⟩ hnot
    have heq' : (s.openSocket sock).addHandlerBySocket sock 0 f =
        (some s.world.heap.nextNet, ⟨w₁, insert sock s.sockets⟩) := heq
    cases hcalloc : f.callocOk with
    | false =>
      have hlookup : (w₁.mgr .frontEnd).handlerPool.lookup sock = some s.world.heap.nextNet := by
        rw [hw₁, World.lookup_openAt, if_pos ⟨rfl, rfl⟩]
      have hremoved := removeHandler_eq (s := ⟨w₁, insert sock s.sockets⟩) hlive hlookup
      have hdestroyed : w₁.destroyNet .frontEnd (some s.world.heap.nextNet) =
          w₁.eraseAt .frontEnd sock s.world.heap.nextNet := by
        have hev := World.getHandlerByEvent_eq .frontEnd hlive.bev
        simp [World.destroyNet, NetHandlerMgr.removeHandler, NetHandlerMgr.removeHandlerByEvent,
          hlive.net, hlive.hevent, hev, hlookup, World.eraseAt, World.getfd_of_bev hlive.bev]
      have hworld : s.world.onFrontEndConnect (fun _ w => w) sock true false =
          w₁.destroyNet .frontEnd (some s.world.heap.nextNet) := by
        simp only [World.onFrontEndConnect, hadd, Heap.createUserContext, hlive.net,
          Bool.false_eq_true, if_false]
        rfl
      rw [hworld, hdestroyed]
      simp [onFrontEndConnect, heq', hneg, huri, hctx, hcalloc, createUserContext_failed, hremoved]
    | true =>
      simp only [onFrontEndConnect, World.onFrontEndConnect, heq', hadd, hneg, huri, hctx, hcalloc,
        createUserContext, Heap.createUserContext, hlive.net, setActiveTime, setHeap, Heap.setNet,
        Function.update_self, if_true, if_false, Option.map_some]
      rfl

/-! ## Any run -/

/-- A connection that is removed takes its objects and its socket with it. -/
theorem Ok.removeHandler {s : SocketWorld σ γ} (h : s.Ok) (side : Side) (p : NetPtr) :
    (s.removeHandler side p).Ok := by
  cases hn : s.world.heap.nets p with
  | none =>
    have hsame : s.removeHandler side p = s := by simp [SocketWorld.removeHandler, hn]
    rwa [hsame]
  | some n =>
    obtain ⟨b, e, hl⟩ := h.world.heap.owns hn
    have hev := World.getHandlerByEvent_eq side hl.bev
    cases hq : (s.world.mgr side).handlerPool.lookup e.fd with
    | none =>
      have hsame : s.removeHandler side p = s := by
        simp [SocketWorld.removeHandler, removeHandlerByEvent, hl.net, hl.hevent, hev, hq]
      rwa [hsame]
    | some q =>
      obtain rfl := h.world.lookup_live hl hq
      rw [removeHandler_eq hl hq]
      refine ⟨h.world.eraseAt hq, fun c f hc => ?_, fun fd hfd => ?_⟩
      · rw [World.heap_eraseAt _ _ _ hl] at hc
        by_cases hcb : c = b
        · subst hcb
          simp [Heap.release] at hc
        · simp only [Heap.release, Function.update_of_ne hcb] at hc
          refine Finset.mem_erase.mpr ⟨fun heq => hcb ?_, h.opened c f hc⟩
          exact h.world.heap.fdInj hc hl.bev heq
      · exact h.nonneg fd (Finset.mem_of_mem_erase hfd)

theorem Ok.stored {s s' : SocketWorld σ γ} {p : NetPtr} (h : s.Ok) (hs : Stored p s s') : s'.Ok :=
  h.similar hs.similar hs.sockets

/-- Every event leaves the connections in order. -/
theorem Ok.step [Inhabited γ] {s s' : SocketWorld σ γ} {e : SocketEvent} (h : s.Ok)
    (hs : s.step e = some s') : s'.Ok := by
  unfold SocketWorld.step at hs
  split_ifs at hs with he
  cases e with
  | createBackEnd uri type uctxSize f =>
    obtain ⟨-, s₁, heq, hsim, hsockets⟩ | ⟨-, -, -, heq⟩ | ⟨fd, s₁, -, hstarted, heq, hstored⟩ :=
      createBackEnd_cases h uri type uctxSize he
    · simp only [heq, Option.map_some, Option.some.injEq] at hs
      exact hs ▸ h.similar hsim hsockets
    · simp [heq] at hs
    · simp only [heq, Option.map_some, Option.some.injEq] at hs
      have hfd : s.Unused fd := he fd (by rw [hstarted]; rfl)
      exact hs ▸ (h.openAt .backEnd hfd type .netConnecting).stored hstored
  | accept sock addr uctxSize f =>
    have hopened := h.openAt .frontEnd he 0 .netEstablished
    obtain ⟨-, s₁, heq, hsim, hsockets⟩ | ⟨-, -, -, heq⟩ | ⟨s₁, -, heq, hstored⟩ :=
      onFrontEndConnect_cases h he addr uctxSize f
    · simp only [heq, Option.map_some, Option.some.injEq] at hs
      exact hs ▸ (h.openSocket he.1).similar hsim hsockets
    · simp only [heq, Option.map_some, Option.some.injEq] at hs
      exact hs ▸ hopened.removeHandler .frontEnd _
    · simp only [heq, Option.map_some, Option.some.injEq] at hs
      exact hs ▸ hopened.stored hstored
  | destroyNet side net =>
    obtain rfl := Option.some.inj hs
    cases net with
    | none => exact h
    | some p => exact h.removeHandler side p

/-- In an orderly state a possible call is right exactly when it undoes what it did. -/
theorem right_iff [Inhabited γ] {s : SocketWorld σ γ} (h : s.Ok) {e : SocketEvent}
    (he : s.Possible e) : s.Right e ↔ e.Undoes := by
  cases e with
  | createBackEnd uri type uctxSize f =>
    obtain ⟨hnot, s', heq, hsim, hsockets⟩ | ⟨hc, hctx, hcalloc, heq⟩ | ⟨fd, s', hsets, -, heq, hs⟩ :=
      createBackEnd_cases h uri type uctxSize he
    · refine iff_of_true ⟨none, s', heq, ?_, fun _ => ⟨hsim.pool .backEnd, hsockets⟩, ?_⟩ ?_
      · exact iff_of_true rfl fun hsets => hnot hsets.1
      · intro p hp
        cases hp
      · exact fun hc => absurd hc hnot
    · refine iff_of_false ?_ fun hundoes => ?_
      · rintro ⟨net, s', heq', -⟩
        rw [heq] at heq'
        cases heq'
      · have htrue := hundoes hc hctx
        rw [hcalloc] at htrue
        cases htrue
    · refine iff_of_true ⟨_, s', heq, ?_, ?_, ?_⟩ fun _ => hsets.2
      · exact iff_of_false (Option.some_ne_none _) (not_not.mpr hsets)
      · intro hnone
        cases hnone
      · intro p hp
        cases hp
        exact pooled_openAt hs
  | accept sock addr uctxSize f =>
    obtain ⟨hnot, s', heq, hsim, hsockets⟩ | ⟨ha, hctx, hcalloc, heq⟩ | ⟨s', hsets, heq, hs⟩ :=
      onFrontEndConnect_cases h he addr uctxSize f
    · refine iff_of_false ?_ hnot
      rintro ⟨ret, s₁, heq₁, -, hundone, -⟩
      obtain ⟨rfl, rfl⟩ := Prod.mk.inj (Option.some.inj (heq.symm.trans heq₁))
      have hsame := (hundone (by decide)).sockets
      rw [hsockets] at hsame
      exact he.2.2 (hsame ▸ Finset.mem_insert_self sock s.sockets)
    · refine iff_of_true ⟨-1, _, heq, ?_, ?_, ?_⟩ ha
      · refine iff_of_true (by decide) fun hsets => ?_
        have htrue := hsets.2 hctx
        rw [hcalloc] at htrue
        cases htrue
      · exact fun _ => removeHandler_openAt h .frontEnd he 0 .netEstablished
      · intro hzero
        cases hzero
    · refine iff_of_true ⟨0, s', heq, ?_, ?_, ?_⟩ hsets.1
      · exact iff_of_false (fun hne => hne rfl) (not_not.mpr hsets)
      · exact fun hne => absurd rfl hne
      · exact fun _ => ⟨_, pooled_openAt hs⟩
  | destroyNet side net => exact Iff.rfl

end SocketWorld

/-- In every run, a call uses no null pointer, says whether the connection is set up, and undoes
what it did when it is not, exactly when the calls that fail are others than the `calloc` of a
backend, and than the `new` and the `bufferevent_socket_new` of a frontend. -/
theorem setUp_right_iff [Inhabited γ] {app : σ} {fate : Nat → Bool} {frontRecv backRecv : RapBuffer}
    {svcMode : SvcMode} {now : Int} {es : List SocketEvent} {s : SocketWorld σ γ}
    (hrun : Run.run SocketWorld.step (.start app fate frontRecv backRecv svcMode now) es = some s)
    {e : SocketEvent} (he : s.Possible e) : s.Right e ↔ e.Undoes := by
  have hok : s.Ok :=
    Run.run_preserves (fun _ _ _ h hs => SocketWorld.Ok.step h hs)
      (.start app fate frontRecv backRecv svcMode now) hrun
  exact SocketWorld.right_iff hok he

/-- A process without connections. -/
def SocketWorld.idle : SocketWorld Unit Unit :=
  .start () (fun _ => true) .small .small .normal 0

theorem idle_right :
    SocketWorld.idle.Right (.accept 7 ⟨(127, 0, 0, 1), 80⟩ 8 ⟨true, true, false⟩) := by
  have hrun : Run.run SocketWorld.step .idle [] = some SocketWorld.idle := rfl
  have hpossible : SocketWorld.idle.Possible (.accept 7 ⟨(127, 0, 0, 1), 80⟩ 8 ⟨true, true, false⟩) := by
    decide
  exact (setUp_right_iff hrun hpossible).mpr ⟨rfl, rfl⟩

/-- There is no memory for the context of a backend, and no `bufferevent` for a client. -/
theorem idle_notRight :
    let backend : ConnectFates := ⟨true, true, true, .started 7, false⟩
    let frontend : AcceptFates := ⟨true, false, true⟩
    (SocketWorld.idle.createBackEnd (some [49]) 0 8 backend = none ∧
      ¬ SocketWorld.idle.Right (.createBackEnd (some [49]) 0 8 backend)) ∧
    ((SocketWorld.idle.openSocket 7).onFrontEndConnect 7 ⟨(127, 0, 0, 1), 80⟩ 8 frontend).map
        (fun r => (r.1, r.2.sockets)) = some (-1, {7}) ∧
      ¬ SocketWorld.idle.Right (.accept 7 ⟨(127, 0, 0, 1), 80⟩ 8 frontend) := by
  have hnull : SocketWorld.idle.createBackEnd (some [49]) 0 8
      ⟨true, true, true, .started 7, false⟩ = none := rfl
  have hopen : ((SocketWorld.idle.openSocket 7).onFrontEndConnect 7 ⟨(127, 0, 0, 1), 80⟩ 8
      ⟨true, false, true⟩).map (fun r => (r.1, r.2.sockets)) = some (-1, {7}) := rfl
  refine ⟨⟨hnull, ?_⟩, hopen, ?_⟩
  · rintro ⟨net, s', heq, -⟩
    rw [hnull] at heq
    cases heq
  · rintro ⟨ret, s', heq, -, hundone, -⟩
    rw [heq] at hopen
    obtain ⟨rfl, hsockets⟩ := Prod.mk.inj (Option.some.inj hopen)
    have hsame := (hundone (by decide)).sockets
    rw [hsockets] at hsame
    exact absurd hsame (by decide)

end Rapidapp
