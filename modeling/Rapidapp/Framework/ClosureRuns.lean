import Rapidapp.Framework.EasyRpcClosure
import Rapidapp.Framework.Removals
import Rapidapp.Framework.RpcCalls

/-!
# Closures and the connections they keep

An `EasyRpcClosure` keeps the `EasyNet*` its request came in on, and `Done` and `Cancel`
(`framework/rapidapp_easy_rpc.cpp:33-89`) send on it without asking whether the connection is still
there; the ids of `GetNetIds`, which would tell, are not used. `ServiceRun.Sound` says that every
such pointer is to a connection in the pool or to one that was removed, so that the sends stay in
the pool exactly when every closure is completed before its connection is removed
(`usesPool_iff`).
-/

namespace Rapidapp

variable {υ Msg γ : Type}

namespace ServiceState

/-- `s'` has the closures of `s`. -/
structure SameClosures (s s' : ServiceState Msg) : Prop where
  closures : s'.closures = s.closures
  nextClosure : s'.nextClosure = s.nextClosure
  asked : s'.asked = s.asked
  answered : s'.answered = s.answered

theorem SameClosures.refl (s : ServiceState Msg) : SameClosures s s := ⟨rfl, rfl, rfl, rfl⟩

theorem closures_openClosure {s : ServiceState Msg} {p : NetPtr} {req rsp : MessageRef}
    {asyncid : Nat} {c : ClosurePtr} {closure : EasyRpcClosure}
    (hc : (s.openClosure p req rsp asyncid).closures c = some closure) :
    c = s.nextClosure ∧ closure = ⟨p, s.rpcMsg.asyncid, req, rsp⟩ ∨
      s.closures c = some closure := by
  simp only [openClosure, Function.update_apply] at hc
  split_ifs at hc with hnew
  · exact .inl ⟨hnew, (Option.some.inj hc).symm⟩
  · exact .inr hc

theorem closures_deleteClosure {s : ServiceState Msg} {c d : ClosurePtr} {closure : EasyRpcClosure}
    (hd : (s.deleteClosure c).closures d = some closure) :
    d ≠ c ∧ s.closures d = some closure := by
  simp only [deleteClosure, Function.update_apply] at hd
  split_ifs at hd with heq
  exact ⟨heq, hd⟩

theorem spawnMessage_spec (server : RpcServer υ Msg) (data : List UInt8) (size : Nat)
    (s : ServiceState Msg) :
    SameClosures s (s.spawnMessage server data size).2 ∧
      (s.spawnMessage server data size).2.rpcMsg =
        (server.proto.unpackToRpcMsg data size s.rpcMsg).2 := by
  unfold spawnMessage
  rcases server.proto.unpackToRpcMsg data size s.rpcMsg with ⟨ret, msg⟩
  dsimp only
  split_ifs
  · exact ⟨⟨rfl, rfl, rfl, rfl⟩, rfl⟩
  · split
    · exact ⟨⟨rfl, rfl, rfl, rfl⟩, rfl⟩
    · exact ⟨⟨rfl, rfl, rfl, rfl⟩, rfl⟩
  · exact ⟨⟨rfl, rfl, rfl, rfl⟩, rfl⟩

/-- `OnFrontEndRpcMsg` ends without a closure, or makes one that has the `asyncid` of the request. -/
theorem onFrontEndRpcMsg_cases (server : RpcServer υ Msg) (user : υ) (newOk : Bool) (p : NetPtr)
    (data : List UInt8) (size : Nat) (s : ServiceState Msg) :
    ∃ s₁, SameClosures s s₁ ∧
      ((∃ ret, ret ≤ 0 ∧ s.onFrontEndRpcMsg server user newOk p data size = (ret, s₁)) ∨
        ∃ req rsp, s.onFrontEndRpcMsg server user newOk p data size =
          (1, s₁.openClosure p req rsp s₁.rpcMsg.asyncid)) := by
  obtain ⟨hsame, hmsg⟩ := s.spawnMessage_spec server data size
  unfold onFrontEndRpcMsg
  dsimp only
  rw [← hmsg]
  generalize s.spawnMessage server data size = r at hsame ⊢
  obtain ⟨_ | req, s₁⟩ := r
  · exact ⟨s₁, hsame, .inl ⟨-1, by decide, rfl⟩⟩
  dsimp only at hsame ⊢
  cases server.rpcSvcMgr with
  | none => exact ⟨s₁, hsame, .inl ⟨-1, by decide, rfl⟩⟩
  | some getRpcService =>
    dsimp only
    cases getRpcService req.typeName with
    | none => exact ⟨s₁, hsame, .inl ⟨0, le_rfl, rfl⟩⟩
    | some svc =>
      dsimp only
      cases svc.newResponse user with
      | none => exact ⟨s₁, hsame, .inl ⟨0, le_rfl, rfl⟩⟩
      | some response =>
        have hnew : SameClosures s (s₁.newMessage response.1 response.2).2 :=
          ⟨hsame.closures, hsame.nextClosure, hsame.asked, hsame.answered⟩
        refine ⟨_, hnew, ?_⟩
        cases newOk with
        | false => exact .inl ⟨0, le_rfl, rfl⟩
        | true => exact .inr ⟨req, _, rfl⟩

end ServiceState

namespace ServiceRun

open World

/-! ## Pointers to frontends -/

/-- The pointer is to a frontend in the pool, unless the frontend was removed. -/
def Held (s : ServiceRun υ Msg γ) (p : NetPtr) : Prop := p ∉ s.removed → s.world.InFront p

/-- What holds in every state of a run. -/
structure Sound (s : ServiceRun υ Msg γ) : Prop where
  ok : s.world.Ok
  inside : s.world.frontendHandlerMgr.PointsInside
  established : ∀ {p n}, s.world.InFront p → s.world.heap.nets p = some n →
    n.state = .netEstablished
  removed : ∀ p ∈ s.removed, s.world.Gone p
  handling : ∀ h, s.handling = some h → s.Held h.net
  closures : ∀ c closure, s.service.closures c = some closure → s.Held closure.net

theorem sound_start (user : υ) (messages : Nat → Msg) (fate : Nat → Bool)
    (frontRecv backRecv : RapBuffer) (now : Int) :
    Sound (start (γ := γ) user messages fate frontRecv backRecv now) where
  ok := World.ok_start _ _ _ _ _ _
  inside := NetHandlerMgr.PointsInside.ofEnd rfl
  established _ hn := nomatch hn
  removed := nofun
  handling := nofun
  closures := nofun

/-- A connection is in the pool exactly as long as it was not removed. -/
theorem Sound.inPool_iff {s : ServiceRun υ Msg γ} (h : s.Sound) {p : NetPtr} (hp : s.Held p) :
    s.world.inPool .frontEnd p = true ↔ p ∉ s.removed := by
  rw [inPool_iff_inFront]
  constructor
  · intro hfront hmem
    exact (h.removed p hmem).not_inFront h.ok hfront
  · exact hp

section Step

variable {s s' : ServiceRun υ Msg γ} {ps : List NetPtr}

theorem Held.moves (h : s.Sound) (hw : Removes ps s.world s'.world)
    (hremoved : s'.removed = s.removed ++ ps) {p : NetPtr} (hp : s.Held p) : s'.Held p := by
  intro hnot
  rw [hremoved, List.mem_append, not_or] at hnot
  have hfront := hp hnot.1
  obtain ⟨n, hn⟩ := hfront.alive h.ok
  obtain ⟨n', hn', _⟩ := hw.stays hfront hn hnot.2
  exact hw.onward.inFront hfront hn'

/-- An event that removes the frontends `ps`. -/
theorem Sound.moves (h : s.Sound) (hw : Removes ps s.world s'.world)
    (hremoved : s'.removed = s.removed ++ ps)
    (hhandling : ∀ k, s'.handling = some k → s.Held k.net ∨ s'.Held k.net)
    (hclosures : ∀ c closure, s'.service.closures c = some closure → s.Held closure.net) :
    s'.Sound where
  ok := hw.onward.ok
  inside := hw.onward.inside
  established {p n'} hp hn' := by
    have hfront := hw.old hp
    obtain ⟨n, hn⟩ := hfront.alive h.ok
    have hps : p ∉ ps := by
      intro hmem
      cases (hw.gone p hmem).symm.trans hn'
    obtain ⟨m, hm, hs⟩ := hw.stays hfront hn hps
    obtain rfl := Option.some.inj (hn'.symm.trans hm)
    exact hs.trans (h.established hfront hn)
  removed p hp := by
    rw [hremoved] at hp
    rcases List.mem_append.mp hp with hp | hp
    · exact (h.removed p hp).onward hw.onward
    · obtain ⟨n, hn⟩ := (hw.were p hp).alive h.ok
      exact ⟨lt_of_lt_of_le (h.ok.heap.netLt hn) hw.onward.nextNet, hw.gone p hp⟩
  handling k hk := (hhandling k hk).elim (Held.moves h hw hremoved) id
  closures c closure hc := Held.moves h hw hremoved (hclosures c closure hc)

/-- The connections of the process change, and nothing else. -/
theorem Sound.world (h : s.Sound) {w : World υ γ} (hw : Removes ps s.world w) :
    Sound { s with world := w, removed := s.removed ++ ps } :=
  h.moves hw rfl (fun k hk => .inl (h.handling k hk)) h.closures

theorem Sound.world_nil (h : s.Sound) {w : World υ γ} (hw : Removes [] s.world w) :
    Sound { s with world := w } := by
  have hall := h.world hw
  rwa [List.append_nil] at hall

/-! ## The steps of a run -/

theorem removes_onFrontEndSocketEvent {w : World υ γ} (h : w.Ok)
    (hin : w.frontendHandlerMgr.PointsInside) (b : BevPtr) (events : BevEvents) :
    Removes (ended b events w) w (w.onFrontEndSocketEvent (fun _ w => w) b events) := by
  have hclose : Removes (w.frontendHandlerMgr.getHandlerByEvent w.heap b).toList w
      (w.closeFrontEnd (fun _ w => w) b) := by
    have hremove := removes_removeHandlerByEvent h hin b
    rw [closeFrontEnd]
    cases hp : w.frontendHandlerMgr.getHandlerByEvent w.heap b <;> rwa [hp] at hremove
  obtain ⟨error, connected, timeout, eof⟩ := events
  rw [ended, onFrontEndSocketEvent]
  cases error <;> cases timeout <;> cases eof <;> first | exact hclose | exact .refl h hin

theorem Sound.endOfInput (h : s.Sound) (k : Handling) :
    Removes [] s.world (ServiceRun.endOfInput k s.world) := by
  have hdrain := removes_evbufferDrain h.ok h.inside k.bev k.elapsed
  exact hdrain.trans h.ok (removes_modifyNet hdrain.onward.ok hdrain.onward.inside k.net
    fun _ => ⟨rfl, rfl⟩)

/-- A round of the loop of `OnFrontEndMsg`: a closure is made for the connection it serves. -/
theorem Sound.round (h : s.Sound) (server : RpcServer υ Msg) (newOk : Bool) {k : Handling}
    (hk : s.handling = some k) : (s.round server newOk k).Sound := by
  have hheld := h.handling k hk
  unfold ServiceRun.round
  cases k.frame with
  | none => exact h.moves (h.endOfInput k) (List.append_nil _).symm nofun h.closures
  | some msglen =>
    dsimp only
    obtain ⟨s₁, hsame, ⟨ret, hret, heq⟩ | ⟨req, rsp, heq⟩⟩ :=
      s.service.onFrontEndRpcMsg_cases server s.world.app newOk k.net
        (payloadBytes k.buf k.elapsed msglen) (payloadSize msglen)
    · have hclosures : ∀ c closure, s₁.closures c = some closure → s.Held closure.net := by
        rw [hsame.closures]
        exact h.closures
      rw [heq]
      dsimp only
      split_ifs
      · exact h.moves (removes_destroyFrontEnd h.ok h.inside k.net) rfl nofun hclosures
      · refine h.moves (removes_modifyNet h.ok h.inside k.net fun _ => ⟨rfl, rfl⟩)
          (List.append_nil _).symm ?_ hclosures
        rintro _ ⟨⟩
        exact .inl hheld
      · omega
    · rw [heq]
      dsimp only
      rw [if_neg (by decide), if_neg (by decide)]
      refine h.moves (.refl h.ok h.inside) (List.append_nil _).symm ?_ fun c closure hc => ?_
      · rintro _ ⟨⟩
        exact .inl hheld
      · obtain ⟨_, rfl⟩ | hc := ServiceState.closures_openClosure hc
        · exact hheld
        · rw [hsame.closures] at hc
          exact h.closures c closure hc

theorem Sound.callStep (h : s.Sound) {e : ServiceCall υ Msg γ} (hs : s.callStep e = some s') :
    s'.Sound := by
  cases e with
  | user user =>
    cases hs
    have hstep : ApiStep s.world { s.world with app := user } := .app s.world user
    exact h.world_nil (removes_of_nets (ApiReach.onward (.single hstep) h.ok h.inside) rfl rfl)
  | message addr message =>
    cases hs
    exact ⟨h.ok, h.inside, h.established, h.removed, h.handling, h.closures⟩
  | setUserContext p c =>
    cases hs
    refine h.world_nil ?_
    rw [World.setUserContext]
    cases hn : s.world.heap.nets p with
    | none => exact .refl h.ok h.inside
    | some n =>
      dsimp only
      cases n.userContext with
      | none => exact .refl h.ok h.inside
      | some _ => exact removes_setNet h.ok h.inside hn rfl rfl
  | sendToFrontEnd net buf =>
    cases hs
    refine h.world_nil ?_
    obtain heq | ⟨p, _, heq⟩ := sendToFrontEnd_cases s.world net buf <;> rw [heq]
    · exact .refl h.ok h.inside
    · exact removes_send h.ok h.inside p buf
  | sendToBackEnd net buf =>
    cases hs
    refine h.world_nil ?_
    obtain heq | ⟨p, _, heq | ⟨n, hn, heq⟩⟩ := sendToBackEnd_cases s.world net buf <;> rw [heq]
    · exact .refl h.ok h.inside
    · exact removes_send h.ok h.inside p buf
    · have hsend := removes_send h.ok h.inside p buf
      exact hsend.trans h.ok (removes_setNet hsend.onward.ok hsend.onward.inside hn rfl rfl)
  | destroyNet side net =>
    cases hs
    cases side with
    | backEnd => exact h.world (removes_destroyBackEnd h.ok h.inside net)
    | frontEnd =>
      cases net with
      | none => exact h.world (.refl h.ok h.inside)
      | some p =>
        refine h.world ?_
        have hdestroy := removes_destroyFrontEnd h.ok h.inside p
        simpa [ifPooled, destroyFrontEnd] using hdestroy
  | createBackEnd type connect =>
    rw [ServiceRun.callStep] at hs
    split_ifs at hs with hfd
    cases hs
    exact h.world_nil (removes_createBackEnd h.ok h.inside type
      fun fd heq => (hfd fd heq).freshFd h.ok)

theorem Sound.loopStep [Inhabited γ] (h : s.Sound) {server : RpcServer υ Msg} {setting : Setting}
    {e : LoopEvent} (hs : s.loopStep server setting e = some s') : s'.Sound := by
  cases e with
  | connect fd bevOk callocOk =>
    rw [ServiceRun.loopStep] at hs
    split_ifs at hs with hfd
    cases hs
    have hfresh := hfd.freshFd h.ok
    obtain ⟨hothers, hnew⟩ := nets_onFrontEndConnect h.ok hfresh bevOk callocOk rfl
    have hw := (quiet_onFrontEndConnect (fun _ _ => .refl) h.ok h.inside hfresh bevOk callocOk).1
    generalize s.world.onFrontEndConnect (fun _ w => w) fd bevOk callocOk = w at hothers hnew hw ⊢
    have hheld : ∀ p, s.Held p → Held { s with world := w } p := by
      intro p hp hnot
      obtain ⟨n, hn⟩ := (hp hnot).alive h.ok
      have hlt := h.ok.heap.netLt hn
      exact hw.inFront (hp hnot) ((hothers p (Nat.ne_of_lt hlt)).trans hn)
    refine ⟨hw.ok, hw.inside, fun {p n} hp hn => ?_, fun p hp => (h.removed p hp).onward hw,
      fun k hk => hheld _ (h.handling k hk), fun c closure hc => hheld _ (h.closures c closure hc)⟩
    by_cases hpn : p = s.world.heap.nextNet
    · exact hnew n (hpn ▸ hn)
    · have hold := (hothers p hpn).symm.trans hn
      exact h.established (hw.inFront_back h.ok hold hp) hold
  | arrive b chunk =>
    cases hs
    refine h.moves (removes_evbufferAdd h.ok h.inside b chunk) (List.append_nil _).symm ?_
      h.closures
    intro k hk
    obtain ⟨e, _, hk⟩ := Option.bind_eq_some_iff.mp hk
    obtain ⟨p, hp, rfl⟩ := Option.map_eq_some_iff.mp hk
    exact .inr fun _ => ⟨e.fd, hp⟩
  | socketEvent side b events =>
    cases side with
    | backEnd =>
      cases hs
      exact h.world_nil (removes_onBackEndSocketEvent h.ok h.inside b events)
    | frontEnd =>
      cases hs
      exact h.world (removes_onFrontEndSocketEvent h.ok h.inside b events)
  | unpack data size =>
    cases hs
    exact ⟨h.ok, h.inside, h.established, h.removed, h.handling, h.closures⟩
  | clock now =>
    cases hs
    have hw : Onward s.world { s.world with now := now } :=
      .of_similar h.ok (.of_eq rfl fun side => by cases side <;> rfl) h.inside
    exact h.world_nil (removes_of_nets hw rfl rfl)
  | tick now =>
    cases hs
    exact h.world (removes_tick h.ok h.inside now setting)

/-- `Done` or `Cancel` of a closure sends its reply, if there is one, on the closure's connection,
and deletes the closure. -/
theorem complete_eq {reply : EasyRpcClosure → Int × List UInt8} {c : ClosurePtr}
    (hs : s.complete reply c = some s') :
    ∃ closure, s.service.closures c = some closure ∧
      s' = { if (reply closure).1 = 0 then s.sendReply closure.net (reply closure).2 else s with
        service := s.service.deleteClosure c } := by
  unfold complete at hs
  cases hc : s.service.closures c with
  | none =>
    rw [hc] at hs
    cases hs
  | some closure =>
    rw [hc] at hs
    refine ⟨closure, rfl, (Option.some.inj hs).symm.trans ?_⟩
    split_ifs <;> rfl

theorem Sound.complete (h : s.Sound) {reply : EasyRpcClosure → Int × List UInt8} {c : ClosurePtr}
    (hs : s.complete reply c = some s') : s'.Sound := by
  obtain ⟨closure, hc, rfl⟩ := complete_eq hs
  have hdeleted : ∀ d k, (s.service.deleteClosure c).closures d = some k → s.Held k.net :=
    fun d k hd => h.closures d k (ServiceState.closures_deleteClosure hd).2
  split_ifs
  · exact h.moves (removes_send h.ok h.inside closure.net (reply closure).2)
      (List.append_nil _).symm (fun k hk => .inl (h.handling k hk)) hdeleted
  · exact h.moves (.refl h.ok h.inside) (List.append_nil _).symm
      (fun k hk => .inl (h.handling k hk)) hdeleted

theorem Sound.step [Inhabited γ] (h : s.Sound) {server : RpcServer υ Msg} {setting : Setting}
    {e : ServiceEvent υ Msg γ} (hs : s.step server setting e = some s') : s'.Sound := by
  cases e with
  | loop e =>
    rw [ServiceRun.step] at hs
    split at hs
    · exact h.loopStep hs
    · cases hs
  | round newOk =>
    rw [ServiceRun.step] at hs
    split at hs
    · next hk =>
      cases hs
      exact h.round server newOk hk
    · cases hs
  | returned =>
    rw [ServiceRun.step] at hs
    split at hs
    · next hk =>
      cases hs
      have hheld := h.handling _ hk
      refine h.moves (removes_modifyNet h.ok h.inside _ fun _ => ⟨rfl, rfl⟩)
        (List.append_nil _).symm ?_ h.closures
      rintro _ ⟨⟩
      exact .inl hheld
    · cases hs
  | call e => exact h.callStep hs
  | done c =>
    have hs : s.complete (s.doneReply server.proto) c = some s' := hs
    exact h.complete hs
  | cancel c =>
    have hs : s.complete (cancelReply server.proto) c = some s' := hs
    exact h.complete hs

end Step

/-! ## The sends of the closures -/

/-- Every `Send` of a closure was on a connection in the pool. -/
def UsesPool (s : ServiceRun υ Msg γ) : Prop := ∀ u ∈ s.uses, u.2 = true

/-- A closure is completed before its connection is removed: by a socket event, by the walk, for a
request that cannot be decoded, or by `DestroyFrontEnd`. A `Done` whose response has a type name too
long to be sent does not use the connection. -/
def InTime (s : ServiceRun υ Msg γ) : ServiceEvent υ Msg γ → Prop
  | .done c => ∀ closure ∈ s.service.closures c,
      closure.rsp.typeName.length < maxMessageName → closure.net ∉ s.removed
  | .cancel c => ∀ closure ∈ s.service.closures c, closure.net ∉ s.removed
  | _ => True

section Uses

variable {s s' : ServiceRun υ Msg γ}

/-- Only `Done` and `Cancel` send for a closure. -/
theorem uses_step [Inhabited γ] {server : RpcServer υ Msg} {setting : Setting}
    {e : ServiceEvent υ Msg γ} (hs : s.step server setting e = some s')
    (he : ∀ c, e ≠ .done c ∧ e ≠ .cancel c) : s'.uses = s.uses := by
  cases e with
  | loop e =>
    rw [ServiceRun.step] at hs
    split at hs
    · cases e with
      | connect fd bevOk callocOk =>
        rw [ServiceRun.loopStep] at hs
        split_ifs at hs
        cases hs
        rfl
      | socketEvent side b events => cases side <;> cases hs <;> rfl
      | _ =>
        cases hs
        rfl
    · cases hs
  | round newOk =>
    rw [ServiceRun.step] at hs
    split at hs
    · cases hs
      unfold ServiceRun.round
      split
      · rfl
      · dsimp only
        split_ifs <;> rfl
    · cases hs
  | returned =>
    rw [ServiceRun.step] at hs
    split at hs
    · cases hs
      rfl
    · cases hs
  | call e =>
    cases e with
    | createBackEnd type connect =>
      rw [ServiceRun.step, ServiceRun.callStep] at hs
      split_ifs at hs
      cases hs
      rfl
    | _ =>
      cases hs
      rfl
  | done c => exact absurd rfl (he c).1
  | cancel c => exact absurd rfl (he c).2

/-- A completion uses the pool as before exactly when its connection is still there, or there is
nothing to send. -/
theorem Sound.usesPool_complete (h : s.Sound) (hpool : s.UsesPool)
    {reply : EasyRpcClosure → Int × List UInt8} {c : ClosurePtr}
    (hs : s.complete reply c = some s') :
    s'.UsesPool ↔ ∀ closure ∈ s.service.closures c,
      (reply closure).1 = 0 → closure.net ∉ s.removed := by
  obtain ⟨closure, hc, rfl⟩ := complete_eq hs
  have hheld := h.inPool_iff (h.closures c closure hc)
  have hone : (∀ k ∈ s.service.closures c, (reply k).1 = 0 → k.net ∉ s.removed) ↔
      ((reply closure).1 = 0 → closure.net ∉ s.removed) := by
    rw [hc]
    constructor
    · intro hall
      exact hall closure rfl
    · rintro hall _ ⟨⟩
      exact hall
  rw [hone]
  split_ifs with hret
  · rw [← hheld]
    constructor
    · intro hall _
      exact hall _ (List.mem_append_right _ (List.mem_singleton.mpr rfl))
    · intro hin u hu
      rcases List.mem_append.mp hu with hu | hu
      · exact hpool u hu
      · rw [List.mem_singleton.mp hu]
        exact hin hret
  · exact iff_of_true hpool fun hzero => absurd hzero hret

theorem doneReply_fst (proto : RpcProto Msg) (s : ServiceRun υ Msg γ) (closure : EasyRpcClosure) :
    (s.doneReply proto closure).1 = 0 ↔ closure.rsp.typeName.length < maxMessageName := by
  rw [doneReply, RpcProto.messageToBinary]
  split_ifs with hlong
  · exact iff_of_false (by decide) (not_lt.mpr hlong)
  · exact iff_of_true rfl (not_le.mp hlong)

/-- One event: the closures use the pool as before exactly when it completes none too late. -/
theorem Sound.usesPool_step [Inhabited γ] (h : s.Sound) (hpool : s.UsesPool)
    {server : RpcServer υ Msg} {setting : Setting} {e : ServiceEvent υ Msg γ}
    (hs : s.step server setting e = some s') : s'.UsesPool ↔ s.InTime e := by
  have hother : (∀ c, e ≠ .done c ∧ e ≠ .cancel c) → s'.UsesPool := by
    intro he
    rw [UsesPool, uses_step hs he]
    exact hpool
  cases e with
  | done c =>
    have hs : s.complete (s.doneReply server.proto) c = some s' := hs
    rw [h.usesPool_complete hpool hs, InTime]
    simp only [doneReply_fst]
  | cancel c =>
    have hs : s.complete (cancelReply server.proto) c = some s' := hs
    rw [h.usesPool_complete hpool hs, InTime]
    refine forall₂_congr fun closure _ => ?_
    exact ⟨fun hall => hall rfl, fun hnot _ => hnot⟩
  | _ => exact iff_of_true (hother fun c => ⟨nofun, nofun⟩) trivial

/-- A completion that comes too late is a step nevertheless. -/
theorem step_isSome_of_late [Inhabited γ] {server : RpcServer υ Msg} {setting : Setting}
    {e : ServiceEvent υ Msg γ} (he : ¬ s.InTime e) : (s.step server setting e).isSome := by
  have hcomplete : ∀ (reply : EasyRpcClosure → Int × List UInt8) {c : ClosurePtr},
      s.service.closures c ≠ none → (s.complete reply c).isSome := by
    intro reply c hc
    obtain ⟨closure, hclosure⟩ := Option.ne_none_iff_exists'.mp hc
    rw [complete, hclosure]
    rfl
  cases e with
  | done c =>
    refine hcomplete (s.doneReply server.proto) fun hnone => he fun closure hclosure => ?_
    cases hnone.symm.trans hclosure
  | cancel c =>
    refine hcomplete (cancelReply server.proto) fun hnone => he fun closure hclosure => ?_
    cases hnone.symm.trans hclosure
  | _ => exact absurd trivial he

end Uses

/-- In every run, `Done` and `Cancel` send on connections in the pool only, exactly when no closure
is completed after its connection was removed. -/
theorem usesPool_iff [Inhabited γ] (server : RpcServer υ Msg) (setting : Setting) (user : υ)
    (messages : Nat → Msg) (fate : Nat → Bool) (frontRecv backRecv : RapBuffer) (now : Int)
    (ops : List (ServiceEvent υ Msg γ)) :
    Run.Always (ServiceRun.step server setting) UsesPool
        (start user messages fate frontRecv backRecv now) ops ↔
      Run.Along (ServiceRun.step server setting) InTime
        (start user messages fate frontRecv backRecv now) ops :=
  Run.always_iff_along (I := Sound) (fun _ _ _ h hs => h.step hs)
    (fun _ _ _ h hpool hs => h.usesPool_step hpool hs)
    (fun _ _ _ _ he => step_isSome_of_late he)
    (sound_start user messages fate frontRecv backRecv now) nofun ops

/-- A server with one service, which answers every request with the one byte it makes. -/
def plainServer : RpcServer Unit (List UInt8) where
  proto := .plain
  newInstance _ := true
  rpcSvcMgr := some fun _ => some ⟨fun _ => some ([78], [1])⟩

/-- The process of this server before there is any connection. -/
def plainStart : ServiceRun Unit (List UInt8) Unit :=
  start () (fun _ => []) (fun _ => true) .small .small 0

/-- A frontend sends a request with the asyncid 9, and the service keeps the closure. -/
def requestKept : List (ServiceEvent Unit (List UInt8) Unit) :=
  [.loop (.connect 7 true true), .loop (.arrive 0 [0, 0, 0, 5, 9]), .round true, .returned,
    .round true]

/-- The peer closes the connection, and the service calls `Done` after that. -/
theorem done_after_close :
    (Run.run (ServiceRun.step plainServer ⟨-1, -1, -1⟩) plainStart
      (requestKept ++ [.loop (.socketEvent .frontEnd 0 ⟨false, false, false, true⟩), .done 0])).map
        (fun s => (s.uses, s.removed)) = some ([(0, false)], [0]) ∧
    ¬ Run.Always (ServiceRun.step plainServer ⟨-1, -1, -1⟩) UsesPool plainStart
      (requestKept ++ [.loop (.socketEvent .frontEnd 0 ⟨false, false, false, true⟩), .done 0]) := by
  have hrun : (Run.run (ServiceRun.step plainServer ⟨-1, -1, -1⟩) plainStart
      (requestKept ++ [.loop (.socketEvent .frontEnd 0 ⟨false, false, false, true⟩), .done 0])).map
        (fun s => (s.uses, s.removed)) = some ([(0, false)], [0]) := by decide +kernel
  refine ⟨hrun, fun hall => ?_⟩
  obtain ⟨s, hs, huses⟩ := Option.map_eq_some_iff.mp hrun
  have hlast := hall _ [] s (List.append_nil _).symm hs (0, false) (by
    rw [(Prod.mk.inj huses).1]
    exact List.mem_cons_self)
  cases hlast

end ServiceRun

end Rapidapp
