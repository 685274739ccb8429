import Rapidapp.Framework.OpenNets
import Rapidapp.Framework.RpcPairCaller

/-!
# The side that answers

What the process of the server has to do with the calls on the connection: the bytes of the caller
that `OnFrontEndMsg` has gone through are the frames of the calls that were taken, the closures of
the connection are the calls that are open, and what was written are the frames of the answers
(`Serving`). Everything else the process does leaves the connection alone.
-/

namespace Rapidapp

open Framing RemoteCalls

variable {υ ν Msg γ δ : Type}

/-- How far the loop has gone through the buffer, with the frame whose `OnRpcCall` has not
returned. -/
def Handling.had (h : Handling) : Nat := h.elapsed + h.calling.getD 0

theorem Handling.had_next (h : Handling) (msglen : Nat) :
    (h.next msglen).had = h.elapsed + msglen := Nat.add_zero _

/-- The loop finds the frames of the decoder. -/
theorem Handling.frame_eq (h : Handling) : h.frame = msgDecoder.next (h.buf.drop h.elapsed) := by
  unfold Handling.frame
  split_ifs with hlt
  · dsimp only
    rw [← List.length_drop]
    rfl
  · rw [List.drop_eq_nil_of_le (not_lt.mp hlt), Decoder.next_nil]

namespace RpcLine

/-- The bytes of the connection the loop has gone through since it began. -/
def had (l : RpcLine) : Option Handling → Nat
  | some h => if h.net = l.peer then h.had else 0
  | none => 0

/-- Of the bytes that have arrived, `drained` were taken out of the input for good, and the loop has
gone on to the end of the calls that were taken. -/
structure Reads (l : RpcLine) (proto : RpcProto Msg) (handling : Option Handling)
    (bytes input : List UInt8) (ask : Lane (RpcAsk Msg)) (drained : Nat) : Prop where
  rest : input = bytes.drop drained
  carries : Decoder.Carries msgDecoder proto.askFrame bytes (drained + l.had handling) ask
  bev : ∀ h, handling = some h → (h.net = l.peer ↔ h.bev = l.input)
  within : ∀ h, handling = some h → h.net = l.peer → h.buf <+: input ∧ h.had ≤ h.buf.length

/-- The closures of the connection are the calls that are open. -/
structure Open (l : RpcLine) (closures : ClosurePtr → Option EasyRpcClosure)
    (serving : List (RpcAsk Msg)) : Prop where
  opened : ∀ k closure, closures k = some closure → closure.net = l.peer →
    ∃ q, (closure.asyncId, q) ∈ serving
  apart : ∀ k k' closure closure', closures k = some closure → closures k' = some closure' →
    closure.net = l.peer → closure'.net = l.peer → closure.asyncId = closure'.asyncId → k = k'
  held : ∀ x ∈ serving, ∃ k closure, closures k = some closure ∧ closure.net = l.peer ∧
    closure.asyncId = x.1

/-- The connection has kept its buffers. -/
def Stays (l : RpcLine) (w w' : World ν δ) : Prop :=
  ∀ n e, w.heap.Live l.peer n l.input e → ∃ n', w'.heap.Live l.peer n' l.input e

end RpcLine

namespace RpcLine.Open

variable {l : RpcLine} {closures : ClosurePtr → Option EasyRpcClosure} {serving : List (RpcAsk Msg)}

theorem ne_of_none {j k : ClosurePtr} {closure : EasyRpcClosure} (hk : closures k = none)
    (hj : closures j = some closure) : j ≠ k := by
  rintro rfl
  cases hk.symm.trans hj

/-- A closure for a request of another connection. -/
theorem addOther (h : l.Open closures serving) {k : ClosurePtr} (hk : closures k = none)
    {closure : EasyRpcClosure} (hnet : closure.net ≠ l.peer) :
    l.Open (Function.update closures k (some closure)) serving := by
  have hold : ∀ {j cl}, Function.update closures k (some closure) j = some cl →
      cl.net = l.peer → closures j = some cl := by
    intro j cl hj hcl
    by_cases heq : j = k
    · subst heq
      obtain rfl := Option.some.inj ((Function.update_self j _ _).symm.trans hj)
      exact absurd hcl hnet
    · exact (Function.update_of_ne heq _ _).symm.trans hj
  refine ⟨fun j cl hj hcl => h.opened j cl (hold hj hcl) hcl, fun j j' cl cl' hj hj' hcl hcl' =>
    h.apart j j' cl cl' (hold hj hcl) (hold hj' hcl') hcl hcl', fun x hx => ?_⟩
  obtain ⟨j, cl, hj, hrest⟩ := h.held x hx
  exact ⟨j, cl, (Function.update_of_ne (ne_of_none hk hj) _ _).trans hj, hrest⟩

/-- A closure for a call. -/
theorem add (h : l.Open closures serving) {k : ClosurePtr} (hk : closures k = none)
    {closure : EasyRpcClosure} (hnet : closure.net = l.peer) {x : RpcAsk Msg}
    (hid : closure.asyncId = x.1) (hnew : x.1 ∉ serving.map Prod.fst) :
    l.Open (Function.update closures k (some closure)) (serving ++ [x]) := by
  have hcases : ∀ {j cl}, Function.update closures k (some closure) j = some cl →
      j = k ∧ cl = closure ∨ closures j = some cl := by
    intro j cl hj
    by_cases heq : j = k
    · subst heq
      exact .inl ⟨rfl, (Option.some.inj ((Function.update_self j _ _).symm.trans hj)).symm⟩
    · exact .inr ((Function.update_of_ne heq _ _).symm.trans hj)
  -- the closures there were are for other calls
  have hother : ∀ {j cl}, closures j = some cl → cl.net = l.peer →
      cl.asyncId ≠ closure.asyncId := by
    intro j cl hj hcl heq
    obtain ⟨q, hq⟩ := h.opened j cl hj hcl
    rw [heq, hid] at hq
    exact hnew (List.mem_map.mpr ⟨_, hq, rfl⟩)
  refine ⟨fun j cl hj hcl => ?_, fun j j' cl cl' hj hj' hcl hcl' heq => ?_, fun y hy => ?_⟩
  · obtain ⟨rfl, rfl⟩ | hold := hcases hj
    · exact ⟨x.2, List.mem_append_right _ (by rw [hid]; exact List.mem_cons_self)⟩
    · obtain ⟨q, hq⟩ := h.opened j cl hold hcl
      exact ⟨q, List.mem_append_left _ hq⟩
  · obtain ⟨rfl, rfl⟩ | hold := hcases hj
    · obtain ⟨rfl, rfl⟩ | hold' := hcases hj'
      · rfl
      · exact absurd heq.symm (hother hold' hcl')
    · obtain ⟨rfl, rfl⟩ | hold' := hcases hj'
      · exact absurd heq (hother hold hcl)
      · exact h.apart j j' cl cl' hold hold' hcl hcl' heq
  · obtain hy | hy := List.mem_append.mp hy
    · obtain ⟨j, cl, hj, hrest⟩ := h.held y hy
      exact ⟨j, cl, (Function.update_of_ne (ne_of_none hk hj) _ _).trans hj, hrest⟩
    · obtain rfl := List.mem_singleton.mp hy
      exact ⟨k, closure, Function.update_self _ _ _, hnet, hid⟩

theorem of_update_none {k j : ClosurePtr} {closure : EasyRpcClosure}
    (hj : Function.update closures k none j = some closure) :
    j ≠ k ∧ closures j = some closure := by
  by_cases heq : j = k
  · subst heq
    cases (Function.update_self j _ _).symm.trans hj
  · exact ⟨heq, (Function.update_of_ne heq _ _).symm.trans hj⟩

/-- A closure of another connection is deleted. -/
theorem deleteOther (h : l.Open closures serving) {k : ClosurePtr} {closure : EasyRpcClosure}
    (hk : closures k = some closure) (hnet : closure.net ≠ l.peer) :
    l.Open (Function.update closures k none) serving := by
  refine ⟨fun j cl hj hcl => h.opened j cl (of_update_none hj).2 hcl,
    fun j j' cl cl' hj hj' => h.apart j j' cl cl' (of_update_none hj).2 (of_update_none hj').2,
    fun x hx => ?_⟩
  obtain ⟨j, cl, hj, hcl, hid⟩ := h.held x hx
  have hne : j ≠ k := by
    rintro rfl
    obtain rfl := Option.some.inj (hj.symm.trans hk)
    exact hnet hcl
  exact ⟨j, cl, (Function.update_of_ne hne _ _).trans hj, hcl, hid⟩

/-- The closure of a call is deleted. -/
theorem delete (h : l.Open closures serving) {k : ClosurePtr} {closure : EasyRpcClosure}
    (hk : closures k = some closure) (hnet : closure.net = l.peer) :
    l.Open (Function.update closures k none)
      (serving.filter fun x => x.1 ≠ closure.asyncId) := by
  refine ⟨fun j cl hj hcl => ?_,
    fun j j' cl cl' hj hj' => h.apart j j' cl cl' (of_update_none hj).2 (of_update_none hj').2,
    fun x hx => ?_⟩
  · obtain ⟨hne, hj⟩ := of_update_none hj
    obtain ⟨q, hq⟩ := h.opened j cl hj hcl
    have hid : cl.asyncId ≠ closure.asyncId := fun heq =>
      hne (h.apart j k cl closure hj hk hcl hnet heq)
    exact ⟨q, List.mem_filter.mpr ⟨hq, decide_eq_true hid⟩⟩
  · obtain ⟨hx, hid⟩ := List.mem_filter.mp hx
    obtain ⟨j, cl, hj, hcl, hasyncid⟩ := h.held x hx
    have hne : j ≠ k := by
      rintro rfl
      obtain rfl := Option.some.inj (hj.symm.trans hk)
      exact of_decide_eq_true hid hasyncid.symm
    exact ⟨j, cl, (Function.update_of_ne hne _ _).trans hj, hcl, hasyncid⟩

end RpcLine.Open

/-- What holds of the server. -/
structure RpcSetup.Serving (S : RpcSetup υ ν Msg γ) (s : ServiceRun ν Msg δ) (bytes : List UInt8)
    (c : LineCalls Msg) : Prop where
  sound : s.Sound
  filed : s.service.Filed
  pooled : s.world.InFront S.line.peer
  line : ∃ n e drained, s.world.heap.Live S.line.peer n S.line.input e ∧
    e.output = Decoder.stream S.server.proto.tellFrame c.tell.all ∧
    S.line.Reads S.server.proto s.handling bytes e.input c.ask drained
  closures : S.line.Open s.service.closures c.serving

namespace RpcLine

variable {l : RpcLine} {w w' : World ν δ}

open World

theorem stays_of_leaves (h : Leaves l.peer w w') (hok : w'.Ok) (hfront : w'.InFront l.peer) :
    l.Stays w w' := by
  intro n e hl
  obtain ⟨n', hn'⟩ := hfront.alive hok
  obtain ⟨hev, _⟩ := h.net hl.net hn'
  obtain ⟨e', he', rfl⟩ := h.bev hl hn'
  exact ⟨n', hn', hev.trans hl.hevent, he'⟩

/-- A new user context. -/
theorem stays_setUserContext (l : RpcLine) (w : World ν δ) (p : NetPtr) (c : δ) :
    l.Stays w (w.setUserContext p c) := by
  intro n e hl
  by_cases hp : l.peer = p
  · subst hp
    rw [setUserContext, hl.net]
    dsimp only
    split
    · exact ⟨n, hl⟩
    · exact ⟨_, Function.update_self _ _ _, hl.hevent, hl.bev⟩
  · have hleft := leftAlone_setUserContext w hp c
    exact ⟨n, hleft.net.trans hl.net, hl.hevent, (hleft.bev hl.net hl.hevent).trans hl.bev⟩

end RpcLine

namespace RpcSetup

open World

variable {S : RpcSetup υ ν Msg γ} {s s' : ServiceRun ν Msg δ} {bytes : List UInt8}
  {c : LineCalls Msg}

namespace Serving

/-! ## The connection -/

/-- The connection is in the pool under its descriptor. -/
theorem lookup (h : S.Serving s bytes c) {n : EasyNet δ} {e : BufferEvent}
    (hl : s.world.heap.Live S.line.peer n S.line.input e) :
    s.world.frontendHandlerMgr.handlerPool.lookup e.fd = some S.line.peer := by
  obtain ⟨n', b, e', hl', hlookup⟩ := h.pooled.live h.sound.ok
  obtain rfl := Option.some.inj (hl.net.symm.trans hl'.net)
  obtain rfl := Option.some.inj (hl.hevent.symm.trans hl'.hevent)
  obtain rfl := Option.some.inj (hl.bev.symm.trans hl'.bev)
  exact hlookup

/-- The events of the input are for the connection. -/
theorem handler (h : S.Serving s bytes c) :
    s.world.frontendHandlerMgr.getHandlerByEvent s.world.heap S.line.input =
      some S.line.peer := by
  obtain ⟨n, e, _, hl, _⟩ := h.line
  have hget := getHandlerByEvent_eq (w := s.world) .frontEnd hl.bev
  exact hget.trans (h.lookup hl)

/-- What was written to the connection are the frames of the answers. -/
theorem output (h : S.Serving s bytes c) : s.world.heap.output S.line.input =
    Decoder.stream S.server.proto.tellFrame c.tell.all := by
  obtain ⟨n, e, drained, hl, hout, _⟩ := h.line
  rw [← hout, Heap.output, hl.bev]

/-- The connection has no other buffers. -/
theorem hevent_ne (h : S.Serving s bytes c) {b : BevPtr} (hb : b ≠ S.line.input) :
    ∀ n, s.world.heap.nets S.line.peer = some n → n.hevent ≠ some b := by
  intro n hn hev
  obtain ⟨n', e, _, hl, _⟩ := h.line
  obtain rfl := Option.some.inj (hl.net.symm.trans hn)
  exact hb (Option.some.inj (hev.symm.trans hl.hevent))

/-- A handler of another connection works on another buffer. -/
theorem bev_ne (h : S.Serving s bytes c) {k : Handling} (hk : s.handling = some k)
    (hnet : k.net ≠ S.line.peer) : k.bev ≠ S.line.input := by
  obtain ⟨_, _, _, _, _, hr⟩ := h.line
  exact fun heq => hnet ((hr.bev k hk).mpr heq)

/-! ## The rest of the process -/

/-- What the loop does without bytes for the connection. -/
theorem stays_loop [Inhabited δ] (h : S.Serving s bytes c) {taken : List (RpcAsk Msg)}
    {e : LoopEvent} (hserves : S.Serves s taken (.loop e))
    (hs : s.loopStep S.server S.setting e = some s') (hok : s'.world.Ok)
    (hfront : s'.world.InFront S.line.peer) : S.line.Stays s.world s'.world := by
  have hsok := h.sound.ok
  refine RpcLine.stays_of_leaves ?_ hok hfront
  cases e with
  | connect fd bevOk callocOk =>
    rw [ServiceRun.loopStep] at hs
    split_ifs at hs with hfresh
    cases hs
    show Leaves S.line.peer s.world (s.world.onFrontEndConnect (fun _ w => w) fd bevOk callocOk)
    obtain ⟨n, hn⟩ := h.pooled.alive hsok
    exact .onFrontEndConnect hsok (hsok.heap.netLt hn) (fun w₁ => .refl _ w₁)
      (hfresh.freshFd hsok) bevOk callocOk
  | arrive d chunk =>
    cases hs
    have hd : d ≠ S.line.input := by
      rintro rfl
      exact hserves h.handler
    exact .evbufferAdd_other (h.hevent_ne hd) chunk
  | socketEvent side d events =>
    cases side with
    | frontEnd =>
      cases hs
      exact .onFrontEndSocketEvent hsok (fun p _ => ⟨hsok, .refl _ _⟩) events
    | backEnd =>
      cases hs
      refine .onBackEndSocketEvent (fun hget => ?_) events
      exact not_inFront_of_backEnd hsok hget h.pooled
  | unpack data size =>
    cases hs
    exact .refl _ _
  | clock now =>
    cases hs
    exact .of_heap rfl
  | tick now =>
    cases hs
    exact .tick hsok now S.setting

/-- What the application does. -/
theorem stays_call (h : S.Serving s bytes c) {taken : List (RpcAsk Msg)}
    {e : ServiceCall ν Msg δ} (hserves : S.Serves s taken (.call e))
    (hs : s.callStep e = some s') (hok : s'.world.Ok)
    (hfront : s'.world.InFront S.line.peer) : S.line.Stays s.world s'.world := by
  have hsok := h.sound.ok
  cases e with
  | user user =>
    cases hs
    exact RpcLine.stays_of_leaves (.of_heap rfl) hok hfront
  | message addr message =>
    cases hs
    exact RpcLine.stays_of_leaves (.refl _ _) hok hfront
  | setUserContext p context =>
    cases hs
    exact RpcLine.stays_setUserContext S.line s.world p context
  | sendToFrontEnd net buf =>
    cases hs
    exact RpcLine.stays_of_leaves (.sendToFrontEnd hsok hserves buf) hok hfront
  | sendToBackEnd net buf =>
    cases hs
    exact RpcLine.stays_of_leaves (.sendToBackEnd hsok hserves buf) hok hfront
  | destroyNet side net =>
    cases hs
    exact RpcLine.stays_of_leaves (.destroyNet hsok side net) hok hfront
  | createBackEnd type connect =>
    rw [ServiceRun.callStep] at hs
    split_ifs at hs
    cases hs
    exact RpcLine.stays_of_leaves (.createBackEnd hsok type connect) hok hfront

end Serving

end RpcSetup

end Rapidapp
