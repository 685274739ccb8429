import Rapidapp.Framework.ApiOk

/-!
# Accepting, closing and checking connections

The event handlers of `AppFrameWork` that carry no message
(`framework/rapidapp_framework_imp.cpp`): `OnFrontEndConnect`, the two `OnSocketEvent`s, and
the part of `Tick` that goes through the frontends with `NetHandlerMgr::WalkThrough`. The
application's callbacks `OnFrontEndConnect` and `OnFrontEndClose` are parameters.
-/

namespace Rapidapp

variable {σ γ : Type}

/-- The `BEV_EVENT_*` bits of a socket event. -/
structure BevEvents where
  error : Bool := false
  connected : Bool := false
  timeout : Bool := false
  eof : Bool := false
  deriving DecidableEq

/-- The limits among the settings (`rapidapp_framework_imp.h:37-39`); none when not positive. -/
structure Setting where
  maxIdle : Int
  maxPkgSpeed : Int
  maxTrafficSpeed : Int
  deriving DecidableEq

/-- `kSingleRoundLoopNum` (`rapidapp_net_mgr.cpp:10`). -/
def kSingleRoundLoopNum : Nat := 1024

namespace World

/-- No open socket has this descriptor; what the kernel makes sure of for a new one. -/
def FdUnused (w : World σ γ) (fd : Int) : Prop :=
  0 ≤ fd ∧ fd < 2 ^ 31 ∧ ∀ b < w.heap.nextBev, ∀ e ∈ w.heap.bevs b, e.fd ≠ fd

instance (w : World σ γ) (fd : Int) : Decidable (w.FdUnused fd) :=
  inferInstanceAs (Decidable (0 ≤ fd ∧ fd < 2 ^ 31 ∧
    ∀ b < w.heap.nextBev, ∀ e ∈ w.heap.bevs b, e.fd ≠ fd))

/-- `AppFrameWork::OnFrontEndConnect` (`rapidapp_framework_imp.cpp:958-1004`) for an application
with frontend contexts. `bevOk` and `callocOk` as in `addHandlerBySocket` and
`createUserContext`. -/
def onFrontEndConnect [Inhabited γ] (onConnect : NetPtr → World σ γ → World σ γ) (fd : Int)
    (bevOk callocOk : Bool) (w : World σ γ) : World σ γ :=
  match w.frontendHandlerMgr.addHandlerBySocket w.heap fd 0 bevOk with
  | (none, m, h) => w.setMgr .frontEnd (m, h)
  | (some p, m, h) =>
    match h.createUserContext p callocOk with
    | (false, h) => w.setMgr .frontEnd (m.removeHandler h p)
    | (true, h) =>
      match h.nets p with
      | none => w.setMgr .frontEnd (m, h)
      | some n =>
        onConnect p
          (w.setMgr .frontEnd (m, h.setNet p { n with lastActiveTimestamp := w.now }))

/-- The connection of this event is closed: `OnFrontEndClose`, then `RemoveHandlerByEvent`. -/
def closeFrontEnd (onClose : NetPtr → World σ γ → World σ γ) (b : BevPtr) (w : World σ γ) :
    World σ γ :=
  let w := match w.frontendHandlerMgr.getHandlerByEvent w.heap b with
    | none => w
    | some p => onClose p w
  w.setMgr .frontEnd (w.frontendHandlerMgr.removeHandlerByEvent w.heap b)

/-- `AppFrameWork::OnFrontEndSocketEvent` (`rapidapp_framework_imp.cpp:1149-1194`). -/
def onFrontEndSocketEvent (onClose : NetPtr → World σ γ → World σ γ) (b : BevPtr)
    (events : BevEvents) (w : World σ γ) : World σ γ :=
  if events.error then w.closeFrontEnd onClose b
  else if events.timeout then w
  else if events.eof then w.closeFrontEnd onClose b
  else w

/-- `backend_handler_mgr_.ChangeNetStateByEvent`. -/
def changeBackEndState (w : World σ γ) (b : BevPtr) (state : NetState) : World σ γ :=
  { w with heap := w.backendHandlerMgr.changeNetStateByEvent w.heap b state }

/-- `AppFrameWork::OnBackEndSocketEvent` (`rapidapp_framework_imp.cpp:1269-1315`). -/
def onBackEndSocketEvent (b : BevPtr) (events : BevEvents) (w : World σ γ) : World σ γ :=
  if events.error then w.changeBackEndState b .netFailed
  else if events.connected then w.changeBackEndState b .netEstablished
  else if events.timeout then w
  else if events.eof then w.changeBackEndState b .netBeenClosed
  else w

/-- `AppFrameWork::DoSomething` (`rapidapp_framework_imp.cpp:1596-1645`): whether the connection
is to be closed, and its counters. -/
def doSomething (setting : Setting) (now : Int) (n : EasyNet γ) : Bool × EasyNet γ :=
  if 0 < setting.maxIdle ∧ setting.maxIdle < now - n.lastActiveTimestamp then (true, n)
  else if 0 < setting.maxPkgSpeed ∧
      setting.maxPkgSpeed < CInt.uint64 (n.currPkgCount - n.prevPkgCount) then (true, n)
  else
    let n := if 0 < setting.maxPkgSpeed then { n with prevPkgCount := 0, currPkgCount := 0 } else n
    if 0 < setting.maxTrafficSpeed ∧
        setting.maxTrafficSpeed < CInt.uint64 (n.currTrafficBytes - n.prevTrafficBytes) then
      (true, n)
    else if 0 < setting.maxTrafficSpeed then
      (false, { n with prevTrafficBytes := 0, currTrafficBytes := 0 })
    else (false, n)

/-- Libevent reads bytes from the socket into the input of its `bufferevent`. -/
def evbufferAdd (w : World σ γ) (b : BevPtr) (chunk : List UInt8) : World σ γ :=
  match w.heap.bevs b with
  | none => w
  | some e => { w with heap := w.heap.setBev b { e with input := e.input ++ chunk } }

/-- `it_cursor_ = ...`. -/
def setCursor (w : World σ γ) (cursor : Option Int) : World σ γ :=
  { w with frontendHandlerMgr := { w.frontendHandlerMgr with itCursor := cursor } }

/-- One round of the loop of `NetHandlerMgr::WalkThrough` at the entry under `fd`
(`rapidapp_net_mgr.cpp:272-289`). -/
def walkEntry (act : EasyNet γ → Bool × EasyNet γ) (fd : Int) (w : World σ γ) : World σ γ :=
  match w.frontendHandlerMgr.handlerPool.lookup fd with
  | none => w.setCursor none
  | some p =>
    match w.heap.nets p with
    | none => w.setCursor (NetHandlerMgr.succKey fd w.frontendHandlerMgr.handlerPool.keys)
    | some n =>
      match act n with
      | (true, n) =>
        { w with heap := w.heap.setNet p n }.setMgr .frontEnd
          (w.frontendHandlerMgr.eraseEntry (w.heap.setNet p n) fd p)
      | (false, n) =>
        { w with heap := w.heap.setNet p n }.setCursor
          (NetHandlerMgr.succKey fd w.frontendHandlerMgr.handlerPool.keys)

/-- The rounds of the loop of `NetHandlerMgr::WalkThrough`. -/
def walkLoop (act : EasyNet γ → Bool × EasyNet γ) : Nat → World σ γ → World σ γ
  | 0, w => w
  | k + 1, w =>
    match w.frontendHandlerMgr.itCursor with
    | none => w
    | some fd => walkLoop act k (w.walkEntry act fd)

/-- `NetHandlerMgr::WalkThrough` on the frontends (`rapidapp_net_mgr.cpp:261-297`). -/
def walkThrough (act : EasyNet γ → Bool × EasyNet γ) (w : World σ γ) : World σ γ :=
  let w := w.walkLoop act kSingleRoundLoopNum
  match w.frontendHandlerMgr.itCursor with
  | none => w.setCursor w.frontendHandlerMgr.handlerPool.keys.head?
  | some _ => w

/-- `AppFrameWork::Tick` (`rapidapp_framework_imp.cpp:846-897`) as far as connections go. -/
def tick (now : Int) (setting : Setting) (w : World σ γ) : World σ γ :=
  let w := { w with now := now }
  if 0 < setting.maxIdle ∨ 0 < setting.maxPkgSpeed ∨ 0 < setting.maxTrafficSpeed then
    w.walkThrough (doSomething setting now)
  else w

end World

end Rapidapp
