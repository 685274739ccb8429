import Rapidapp.Misc.Run
import Rapidapp.Framework.ApiOk
import Rapidapp.Framework.RpcTables

/-!
# RpcCall: what its result says

`RpcCall` should return 0 only when `EasyNet::Send` has accepted the request, and leave the
tables as they were when it returns something else (`CallSound`). `RpcFunction` ignores what
`MessageToBinary` and `Send` return, so this holds of the calls that are refused before a
coroutine is started, and of those whose connection takes the request (`callSound_iff`).
-/

namespace Rapidapp

variable {υ Msg γ : Type}

namespace Heap

/-- The connection takes a message: it is established and both writes succeed. -/
def Takes (h : Heap γ) (p : NetPtr) : Prop :=
  ∃ n b, h.nets p = some n ∧ n.hevent = some b ∧ n.state = .netEstablished ∧
    (h.bevs b).isSome ∧ h.fate h.writes = true ∧ h.fate (h.writes + 1) = true

theorem writeFrame_ok_iff (h : Heap γ) (b : BevPtr) (msg : List UInt8) :
    (h.writeFrame b msg).1 = .easyNetOk ↔
      (h.bevs b).isSome ∧ h.fate h.writes = true ∧ h.fate (h.writes + 1) = true := by
  obtain ⟨hnot, h₁, hw, _⟩ | ⟨e, he, hfirst, ⟨hsecond, h₁, hw, _⟩ | ⟨hsecond, h₁, hw, _⟩⟩ :=
    h.writeFrame_cases b msg
  · rw [hw]
    refine iff_of_false (by simp) ?_
    rintro ⟨hb, hfirst, -⟩
    exact hnot ⟨hb, hfirst⟩
  · rw [hw]
    refine iff_of_false (by simp) ?_
    rintro ⟨-, -, htrue⟩
    cases hsecond.symm.trans htrue
  · rw [hw]
    exact iff_of_true rfl ⟨by rw [he]; rfl, hfirst, hsecond⟩

/-- `EasyNet::Send` accepts a message that is not empty exactly when the connection takes it. -/
theorem send_ok_iff (h : Heap γ) (p : NetPtr) {msg : List UInt8} (hmsg : msg ≠ []) :
    (h.send p msg).1 = .easyNetOk ↔ h.Takes p := by
  rcases h.send_cases p msg with ⟨hnil, -⟩ | ⟨r, hr, hsend⟩ | ⟨n, b, -, hn, hev, hst, hsend⟩
  · exact absurd hnil hmsg
  · rw [hsend]
    refine iff_of_false hr ?_
    rintro ⟨n, b, hn, hev, hst, hwrites⟩
    have hok := (h.writeFrame_ok_iff b msg).mpr hwrites
    rw [← send_eq_writeFrame hmsg hn hev hst, hsend] at hok
    exact hr hok
  · rw [hsend, writeFrame_ok_iff]
    constructor
    · intro hwrites
      exact ⟨n, b, hn, hev, hst, hwrites⟩
    · rintro ⟨n', b', hn', hev', -, hwrites⟩
      obtain rfl := Option.some.inj (hn.symm.trans hn')
      obtain rfl := Option.some.inj (hev.symm.trans hev')
      exact hwrites

end Heap

/-! ## Contexts are new -/

namespace RpcState

/-- The contexts in the coroutine table were made before the next one. -/
def Fresh (s : RpcState υ Msg) : Prop :=
  ∀ cid ctx, s.scheduler.find cid = some ctx → ctx.task.addr < s.nextCtx

theorem Fresh.within {s s' : RpcState υ Msg} (h : s.Fresh)
    (hsched : s'.scheduler.Within s.scheduler) (hctx : s'.nextCtx = s.nextCtx) : s'.Fresh := by
  intro cid ctx hfind
  obtain ⟨ctx', hfind', htask⟩ := hsched.task hfind
  rw [hctx, ← htask]
  exact h cid ctx' hfind'

/-- A table into which a new context has come under one id. -/
theorem Fresh.put {s s' : RpcState υ Msg} (h : s.Fresh) (cid : Int) {task : RpcContext}
    (htask : task.addr = s.nextCtx) (hctx : s'.nextCtx = s.nextCtx + 1)
    (hself : ∃ ctx, s'.scheduler.find cid = some ctx ∧ ctx.task = task)
    (hother : ∀ c, c ≠ cid → s'.scheduler.find c = s.scheduler.find c) : s'.Fresh := by
  intro c ctx hfind
  rw [hctx]
  by_cases hc : c = cid
  · obtain ⟨ctx', hfind', htask'⟩ := hself
    rw [hc, hfind'] at hfind
    cases hfind
    rw [htask', htask]
    exact Nat.lt_succ_self _
  · rw [hother c hc] at hfind
    exact Nat.lt_succ_of_lt (h c ctx hfind)

end RpcState

theorem fresh_step {proto : RpcProto Msg} {user : RpcUser υ Msg γ} {w w' : RpcWorld υ Msg γ}
    {e : RpcEvent γ} (h : w.app.Fresh) (hs : rpcStep proto user w e = some w') : w'.app.Fresh := by
  by_cases he : ∀ r a, e ≠ .call r a
  · obtain ⟨hsched, hctx⟩ := rpcStep_within he hs
    exact h.within hsched hctx
  · push Not at he
    obtain ⟨r, a, rfl⟩ := he
    rw [rpcStep] at hs
    obtain ⟨_, n, hn, heq⟩ |
        ⟨_, request, callback, rpc, net, _, _, _, _, ⟨_, heq⟩ | ⟨hcid, heq⟩⟩ :=
      w.rpcCall_cases proto user r a
    · rw [heq] at hs
      cases hs
      exact fun cid ctx hfind => lt_of_lt_of_le (h cid ctx hfind) hn
    · rw [heq] at hs
      cases hs
      have htask : (w.contextOf r request callback a).addr = w.app.nextCtx := rfl
      exact h.put w.app.scheduler.cidSeed htask rfl
        ⟨_, w.app.scheduler.find_enroll_self _, rfl⟩
        fun c hc => w.app.scheduler.find_enroll_ne hc _
    · rw [heq] at hs
      cases hs
      have htask : (w.contextOf r request callback a).addr = w.app.nextCtx := rfl
      exact h.put w.app.scheduler.cidSeed htask rfl
        ⟨_, w.app.scheduler.find_started_self _ hcid, rfl⟩
        fun c hc => w.app.scheduler.find_started_ne _ hcid hc

/-! ## The result of a call -/

namespace World

/-- `Send` has accepted the request of the call, and `w'` has the heap it left. -/
def RequestSent (proto : RpcProto Msg) (w w' : RpcWorld υ Msg γ) (r : RpcPtr) (a : RpcArgs) :
    Prop :=
  ∃ request rpc net frame, a.request = some request ∧ w.app.rpcs r = some rpc ∧
    rpc.binding = some net ∧
    proto.messageToBinary rpcTypeRequest w.app.asyncidSeed request.typeName
      (w.app.messages request.addr) w.app.buf = (0, frame) ∧
    w.heap.send net frame = (.easyNetOk, w'.heap)

/-- `RpcCall` returns 0 only when `Send` has accepted the request, and when it returns something
else `crid_list_` and the coroutine table are as they were. -/
def CallSound (proto : RpcProto Msg) (user : RpcUser υ Msg γ) (w : RpcWorld υ Msg γ) (r : RpcPtr)
    (a : RpcArgs) : Prop :=
  ∃ ret w', w.rpcCall proto user r a = some (ret, w') ∧
    (ret = 0 → RequestSent proto w w' r a) ∧
    (ret ≠ 0 → w'.app.rpcs = w.app.rpcs ∧
      w'.app.scheduler.coroutineTable = w.app.scheduler.coroutineTable)

/-- The request has a type name `MessageToBinary` accepts, the connection takes it, and the next
coroutine id is not negative. -/
def RequestFits (w : RpcWorld υ Msg γ) (r : RpcPtr) (a : RpcArgs) : Prop :=
  0 ≤ w.app.scheduler.cidSeed ∧ ∃ request rpc net, a.request = some request ∧
    request.typeName.length < maxMessageName ∧ w.app.rpcs r = some rpc ∧
    rpc.binding = some net ∧ w.heap.Takes net

theorem requestSent_called {proto : RpcProto Msg} {w : RpcWorld υ Msg γ} {r : RpcPtr}
    {a : RpcArgs} {request : MessageRef} {callback : Nat} {rpc : EasyRpc} {net : NetPtr}
    (hrequest : a.request = some request) (hrpc : w.app.rpcs r = some rpc)
    (hnet : rpc.binding = some net) (hcid : 0 ≤ w.app.scheduler.cidSeed) :
    RequestSent proto w (w.called proto rpc net (w.contextOf r request callback a)) r a ↔
      RequestFits w r a := by
  have hdet : ∀ {request' rpc' net'}, a.request = some request' → w.app.rpcs r = some rpc' →
      rpc'.binding = some net' → request' = request ∧ net' = net := by
    intro request' rpc' net' h₁ h₂ h₃
    cases hrequest.symm.trans h₁
    cases hrpc.symm.trans h₂
    cases hnet.symm.trans h₃
    exact ⟨rfl, rfl⟩
  constructor
  · rintro ⟨request', rpc', net', frame, h₁, h₂, h₃, hframe, hsend⟩
    obtain ⟨rfl, rfl⟩ := hdet h₁ h₂ h₃
    unfold RpcProto.messageToBinary at hframe
    split_ifs at hframe with hname
    · cases hframe
    · obtain rfl := (Prod.mk.inj hframe).2
      refine ⟨hcid, request', rpc', net', h₁, not_le.mp hname, h₂, h₃, ?_⟩
      exact (w.heap.send_ok_iff net' (proto.serializeRpc_ne_nil _)).mp (congrArg Prod.fst hsend)
  · rintro ⟨_, request', rpc', net', h₁, hname, h₂, h₃, htakes⟩
    obtain ⟨rfl, rfl⟩ := hdet h₁ h₂ h₃
    have hframe : proto.messageToBinary rpcTypeRequest w.app.asyncidSeed request'.typeName
        (w.app.messages request'.addr) w.app.buf =
          (0, w.requestBuf proto (w.contextOf r request' callback a)) := by
      unfold requestBuf RpcProto.messageToBinary
      simp only [contextOf, ge_iff_le, not_le.mpr hname, if_false]
    have hbuf : w.requestBuf proto (w.contextOf r request' callback a) ≠ [] := by
      unfold requestBuf RpcProto.messageToBinary
      simp only [contextOf, ge_iff_le, not_le.mpr hname, if_false]
      exact proto.serializeRpc_ne_nil _
    refine ⟨request', rpc', net', _, h₁, h₂, h₃, hframe, Prod.ext ?_ rfl⟩
    exact (w.heap.send_ok_iff net' hbuf).mpr htakes

/-- What `RpcCall` returns is what `CallSound` asks for exactly when the call is refused before a
coroutine is made for it, or its request is sent. -/
theorem callSound_iff_of_fresh {proto : RpcProto Msg} {user : RpcUser υ Msg γ}
    {w : RpcWorld υ Msg γ} (hfresh : w.app.Fresh) (r : RpcPtr) (a : RpcArgs) :
    CallSound proto user w r a ↔ RpcRefused w r a ∨ RequestFits w r a := by
  obtain ⟨hrefused, n, _, heq⟩ |
      ⟨hgo, request, callback, rpc, net, hrequest, _, hrpc, hnet, ⟨hcid, heq⟩ | ⟨hcid, heq⟩⟩ :=
    w.rpcCall_cases proto user r a
  · exact iff_of_true ⟨-1, _, heq, nofun, fun _ => ⟨rfl, rfl⟩⟩ (.inl hrefused)
  · -- the id is taken for an error, but the coroutine is in the table
    refine iff_of_false ?_ (not_or.mpr ⟨hgo, fun hfits => absurd hfits.1 (not_le.mpr hcid)⟩)
    rintro ⟨ret, w', heq', _, hsame⟩
    obtain ⟨rfl, rfl⟩ := Prod.mk.inj (Option.some.inj (heq.symm.trans heq'))
    have htable := (hsame (by decide)).2
    have hfind := w.app.scheduler.find_enroll_self (w.contextOf r request callback a)
    rw [CoroutineScheduler.find, htable] at hfind
    exact absurd (hfresh _ _ hfind) (lt_irrefl _)
  · rw [or_iff_right hgo, ← requestSent_called hrequest hrpc hnet hcid]
    constructor
    · rintro ⟨ret, w', heq', hsent, _⟩
      obtain ⟨rfl, rfl⟩ := Prod.mk.inj (Option.some.inj (heq.symm.trans heq'))
      exact hsent rfl
    · intro hsent
      exact ⟨0, _, heq, fun _ => hsent, fun hne => absurd rfl hne⟩

end World

/-- In every state of the program a call is sound exactly when it is refused before a coroutine is
made for it, or its request is sent. -/
theorem callSound_iff {proto : RpcProto Msg} {user : RpcUser υ Msg γ} {app : υ}
    {messages : Nat → Msg} {cocurrentNum : Int} {fate : Nat → Bool} {frontRecv backRecv : RapBuffer}
    {svcMode : SvcMode} {now : Int} {es : List (RpcEvent γ)} {w : RpcWorld υ Msg γ}
    (hrun : Run.run (rpcStep proto user)
      (.start (.init app messages cocurrentNum) fate frontRecv backRecv svcMode now) es = some w)
    (r : RpcPtr) (a : World.RpcArgs) :
    World.CallSound proto user w r a ↔ World.RpcRefused w r a ∨ World.RequestFits w r a := by
  have hfresh : w.app.Fresh :=
    Run.run_preserves (fun _ _ _ h hs => fresh_step h hs) (fun _ _ hfind => by cases hfind) hrun
  exact World.callSound_iff_of_fresh hfresh r a

/-- Messages that are their own bytes; an `RpcMessage` is its asyncid, in one byte, and
`msg_bin`. -/
def RpcProto.plain : RpcProto (List UInt8) where
  serializeToString m := m
  parseFromString _ bytes := (true, bytes)
  serializeRpc m := UInt8.ofNat m.asyncid :: m.msgBin
  serializeRpc_ne_nil := nofun
  parseRpcFromArray bytes _ :=
    (true, ⟨magicRpcstampV1, 2, (bytes.headD 0).toNat, [], none, bytes.tail⟩)

/-- An application that does nothing. -/
def RpcUser.idle : RpcUser Unit (List UInt8) Unit where
  app :=
    { onRecvFrontEnd := fun _ _ _ _ w => (0, w)
      onRecvFrontEnd_api := fun _ _ _ _ _ => .refl
      onRecvBackEnd := fun _ _ _ _ w => (0, w)
      onRecvBackEnd_api := fun _ _ _ _ _ => .refl
      spawnMessage := fun _ _ => none
      rpcSvcMgr := none
      rpcIsActive := fun _ _ => false
      rpcResume := fun _ _ _ w => w
      rpcResume_api := fun _ _ _ _ => .refl }
  onReply _ _ w := w
  onReply_api _ _ _ := .refl
  onReply_keeps _ _ w := .refl w.app
  onRecvBackEnd_keeps _ _ _ _ w := .refl w.app
  act _ w := w
  act_keeps _ w := .refl w.app

/-- A process without connections, whose application does nothing. -/
def RpcWorld.idle : RpcWorld Unit (List UInt8) Unit :=
  .start (.init () (fun _ => []) 8) (fun _ => true) .small .small .normal 0

/-- After `CreateRpc`, whose connection is still being made. -/
def RpcWorld.connecting : RpcWorld Unit (List UInt8) Unit :=
  (RpcWorld.idle.createRpc 0 (some 7) true).2

/-- A call with a request at 0, a response at 1, and the callback 1. -/
def World.RpcArgs.plain : World.RpcArgs := ⟨some ⟨0, [77]⟩, some ⟨1, [78]⟩, some 1, 0, true, true⟩

theorem callSound_iff_connecting :
    World.CallSound .plain .idle .connecting 0 .plain ↔
      World.RpcRefused .connecting 0 .plain ∨ World.RequestFits .connecting 0 .plain := by
  have hrun : Run.run (rpcStep .plain .idle) .idle [.createRpc 0 (some 7) true] =
      some .connecting := rfl
  exact callSound_iff hrun 0 .plain

/-- A call on a connection that is still being made returns 0. -/
theorem connecting_call_unsound :
    Run.run (rpcStep .plain .idle) .idle [.createRpc 0 (some 7) true] = some .connecting ∧
      ¬ World.CallSound .plain .idle .connecting 0 .plain := by
  refine ⟨rfl, ?_⟩
  rintro ⟨ret, w', hcall, hsent, _⟩
  have hret : ret = 0 := by
    have hzero : (RpcWorld.connecting.rpcCall .plain .idle 0 .plain).map Prod.fst = some 0 := by
      decide +kernel
    rw [hcall] at hzero
    exact Option.some.inj hzero
  obtain ⟨request, rpc, net, frame, _, hrpc, hnet, hframe, hsend⟩ := hsent hret
  obtain rfl : (⟨some 0, []⟩ : EasyRpc) = rpc := Option.some.inj hrpc
  obtain rfl : 0 = net := Option.some.inj hnet
  have hne : frame ≠ [] := by
    rintro rfl
    unfold RpcProto.messageToBinary at hframe
    split_ifs at hframe <;> cases hframe
  obtain ⟨n, _, hn, _, hestablished, _⟩ :=
    (RpcWorld.connecting.heap.send_ok_iff 0 hne).mp (congrArg Prod.fst hsend)
  have hstate : (RpcWorld.connecting.heap.nets 0).map (·.state) = some .netConnecting := rfl
  rw [hn, Option.map_some, hestablished] at hstate
  cases hstate

end Rapidapp
