import Rapidapp.Framework.ClosureRuns
import Rapidapp.Framework.SendFrames

/-!
# Every request has its own reply

`rpc_msg_` (`framework/rapidapp_message_reflection.h:52`) is overwritten by the next request, but
`OnFrontEndRpcMsg` (`framework/rapidapp_framework_imp.cpp:1051`) copies its `asyncid` into the
closure before anything else is unpacked. `ServiceState.Filed` keeps what a closure says in step
with the request it was made for, and `replies_along` says that a completion appends one frame, to
the connection of that request and with its `asyncid`.
-/

namespace Rapidapp

variable {υ Msg γ : Type}

/-- A message that is not empty, on a connection that takes it, is appended to the output of that
connection as one frame. -/
theorem Heap.send_taken {h : Heap γ} {p : NetPtr} {msg : List UInt8} (hmsg : msg ≠ [])
    (ht : h.Takes p) : ∃ n b, h.Owns p n b ∧
      (h.send p msg).2.output b = h.output b ++ encodeMsg msg ∧
      ∀ c, c ≠ b → (h.send p msg).2.output c = h.output c := by
  have hok : h.send p msg = (.easyNetOk, (h.send p msg).2) :=
    Prod.ext ((h.send_ok_iff p hmsg).mpr ht) rfl
  obtain ⟨n, b, e, hl, _, hw⟩ := send_ok hmsg hok
  refine ⟨n, b, ⟨hl.net, hl.hevent, by rw [hl.bev]; rfl⟩, ?_, fun c hc => ?_⟩
  · rw [output, output, hw.bev hl.bev, hl.bev, if_pos rfl]
    rfl
  · rw [output, output, hw.bevs]
    cases h.bevs c with
    | none => rfl
    | some f => simp [hc]

namespace ServiceState

/-- A closure that is not completed was made for one request, whose connection and `asyncid` it
has, and which has no reply. -/
structure Filed (s : ServiceState Msg) : Prop where
  made : ∀ a ∈ s.asked, a.closure < s.nextClosure
  once : (s.asked.map Asked.closure).Nodup
  answered : ∀ c ∈ s.answered, c < s.nextClosure ∧ s.closures c = none
  nodup : s.answered.Nodup
  opened : ∀ c closure, s.closures c = some closure →
    ∃ a ∈ s.asked, a = ⟨c, closure.net, closure.asyncId⟩

theorem filed_init (messages : Nat → Msg) : Filed (init messages) where
  made := nofun
  once := List.nodup_nil
  answered := nofun
  nodup := List.nodup_nil
  opened := nofun

variable {s s' : ServiceState Msg}

theorem Filed.same (h : s.Filed) (hs : SameClosures s s') : s'.Filed where
  made := by
    rw [hs.asked, hs.nextClosure]
    exact h.made
  once := by
    rw [hs.asked]
    exact h.once
  answered := by
    rw [hs.answered, hs.nextClosure, hs.closures]
    exact h.answered
  nodup := by
    rw [hs.answered]
    exact h.nodup
  opened := by
    rw [hs.closures, hs.asked]
    exact h.opened

theorem Filed.openClosure (h : s.Filed) (p : NetPtr) (req rsp : MessageRef) :
    (s.openClosure p req rsp s.rpcMsg.asyncid).Filed where
  made a ha := by
    rcases List.mem_append.mp ha with ha | ha
    · exact Nat.lt_succ_of_lt (h.made a ha)
    · rw [List.mem_singleton.mp ha]
      exact Nat.lt_succ_self _
  once := by
    have hnew : s.nextClosure ∉ s.asked.map Asked.closure := by
      intro hmem
      obtain ⟨a, ha, heq⟩ := List.mem_map.mp hmem
      exact absurd (h.made a ha) (heq ▸ lt_irrefl _)
    rw [ServiceState.openClosure, List.map_append]
    exact List.nodup_append.mpr ⟨h.once, List.nodup_singleton _, by
      rintro c hc d hd rfl
      rw [List.mem_singleton.mp hd] at hc
      exact hnew hc⟩
  answered c hc := by
    obtain ⟨hlt, hnone⟩ := h.answered c hc
    exact ⟨Nat.lt_succ_of_lt hlt, (Function.update_of_ne (Nat.ne_of_lt hlt) _ _).trans hnone⟩
  nodup := h.nodup
  opened c closure hc := by
    obtain ⟨rfl, rfl⟩ | hc := closures_openClosure hc
    · exact ⟨_, List.mem_append_right _ (List.mem_singleton.mpr rfl), rfl⟩
    · obtain ⟨a, ha, heq⟩ := h.opened c closure hc
      exact ⟨a, List.mem_append_left _ ha, heq⟩

theorem Filed.deleteClosure (h : s.Filed) {c : ClosurePtr} (hc : s.closures c ≠ none) :
    (s.deleteClosure c).Filed where
  made := h.made
  once := h.once
  answered d hd := by
    rcases List.mem_append.mp hd with hd | hd
    · obtain ⟨hlt, hnone⟩ := h.answered d hd
      have hne : d ≠ c := by
        rintro rfl
        exact hc hnone
      exact ⟨hlt, (Function.update_of_ne hne _ _).trans hnone⟩
    · obtain rfl := List.mem_singleton.mp hd
      obtain ⟨closure, hclosure⟩ := Option.ne_none_iff_exists'.mp hc
      obtain ⟨a, ha, rfl⟩ := h.opened d closure hclosure
      exact ⟨h.made _ ha, Function.update_self _ _ _⟩
  nodup := by
    refine List.nodup_append.mpr ⟨h.nodup, List.nodup_singleton _, ?_⟩
    rintro d hd e he rfl
    rw [List.mem_singleton.mp he] at hd
    exact hc (h.answered c hd).2
  opened d closure hd := h.opened d closure (closures_deleteClosure hd).2

/-- The request a closure was made for is the only one with this closure. -/
theorem Filed.unique (h : s.Filed) {a a' : Asked} (ha : a ∈ s.asked) (ha' : a' ∈ s.asked)
    (heq : a'.closure = a.closure) : a' = a :=
  List.inj_on_of_nodup_map h.once ha' ha heq

end ServiceState

namespace ServiceRun

open World

variable {s s' : ServiceRun υ Msg γ}

/-- What an event does to the closures: nothing, or a request gets one, or one is completed. -/
theorem service_step [Inhabited γ] {server : RpcServer υ Msg} {setting : Setting}
    {e : ServiceEvent υ Msg γ} (hs : s.step server setting e = some s') :
    s.service.SameClosures s'.service ∨
      (∃ s₁ p req rsp, s.service.SameClosures s₁ ∧
        s'.service = s₁.openClosure p req rsp s₁.rpcMsg.asyncid) ∨
      ∃ c, s.service.closures c ≠ none ∧ s'.service = s.service.deleteClosure c := by
  have hcomplete : ∀ (reply : EasyRpcClosure → Int × List UInt8) c, s.complete reply c = some s' →
      s.service.closures c ≠ none ∧ s'.service = s.service.deleteClosure c := by
    intro reply c hs
    obtain ⟨closure, hc, rfl⟩ := complete_eq hs
    exact ⟨hc ▸ nofun, rfl⟩
  cases e with
  | loop e =>
    left
    rw [ServiceRun.step] at hs
    split at hs
    · cases e with
      | connect fd bevOk callocOk =>
        rw [ServiceRun.loopStep] at hs
        split_ifs at hs
        cases hs
        exact .refl s.service
      | socketEvent side b events => cases side <;> cases hs <;> exact .refl s.service
      | unpack data size =>
        cases hs
        exact ⟨rfl, rfl, rfl, rfl⟩
      | _ =>
        cases hs
        exact .refl s.service
    · cases hs
  | round newOk =>
    rw [ServiceRun.step] at hs
    split at hs
    · next b p buf elapsed _ =>
      cases hs
      unfold ServiceRun.round
      split
      · exact .inl (.refl s.service)
      · next msglen _ =>
        obtain ⟨s₁, hsame, ⟨ret, hret, heq⟩ | ⟨req, rsp, heq⟩⟩ :=
          s.service.onFrontEndRpcMsg_cases server s.world.app newOk p
            (payloadBytes buf elapsed msglen) (payloadSize msglen)
        · rw [heq]
          dsimp only
          split_ifs <;> exact .inl hsame
        · rw [heq]
          exact .inr (.inl ⟨s₁, p, req, rsp, hsame, rfl⟩)
    · cases hs
  | returned =>
    rw [ServiceRun.step] at hs
    split at hs
    · cases hs
      exact .inl (.refl s.service)
    · cases hs
  | call e =>
    left
    cases e with
    | createBackEnd type connect =>
      rw [ServiceRun.step, ServiceRun.callStep] at hs
      split_ifs at hs
      cases hs
      exact .refl s.service
    | message addr message =>
      cases hs
      exact ⟨rfl, rfl, rfl, rfl⟩
    | _ =>
      cases hs
      exact .refl s.service
  | done c => exact .inr (.inr ⟨c, hcomplete (s.doneReply server.proto) c hs⟩)
  | cancel c => exact .inr (.inr ⟨c, hcomplete (cancelReply server.proto) c hs⟩)

theorem filed_step [Inhabited γ] (h : s.service.Filed) {server : RpcServer υ Msg}
    {setting : Setting} {e : ServiceEvent υ Msg γ} (hs : s.step server setting e = some s') :
    s'.service.Filed := by
  obtain hsame | ⟨s₁, p, req, rsp, hsame, heq⟩ | ⟨c, hc, heq⟩ := service_step hs
  · exact h.same hsame
  · rw [heq]
    exact (h.same hsame).openClosure p req rsp
  · rw [heq]
    exact h.deleteClosure hc

/-! ## The reply to a request -/

/-- The connection that a closure has is open, and both writes of `Send` succeed. -/
def Writable (s : ServiceRun υ Msg γ) (closure : EasyRpcClosure) : Prop :=
  s.world.inPool .frontEnd closure.net = true ∧
    s.world.heap.fate s.world.heap.writes = true ∧
    s.world.heap.fate (s.world.heap.writes + 1) = true

instance (s : ServiceRun υ Msg γ) (closure : EasyRpcClosure) : Decidable (s.Writable closure) :=
  inferInstanceAs (Decidable (_ ∧ _ ∧ _))

/-- A closure is completed once, while its connection is open and takes what is written, and the
type of its response has a name that fits. -/
def Fair (s : ServiceRun υ Msg γ) : ServiceEvent υ Msg γ → Prop
  | .done c => ∃ closure ∈ s.service.closures c, s.Writable closure ∧
      closure.rsp.typeName.length < maxMessageName
  | .cancel c => ∃ closure ∈ s.service.closures c, s.Writable closure
  | _ => True

instance (s : ServiceRun υ Msg γ) : ∀ e : ServiceEvent υ Msg γ, Decidable (s.Fair e)
  | .done c => inferInstanceAs (Decidable (∃ closure ∈ s.service.closures c, _))
  | .cancel c => inferInstanceAs (Decidable (∃ closure ∈ s.service.closures c, _))
  | .loop _ | .round _ | .returned | .call _ => isTrue trivial

/-- From `s` to `s'` the closure answers the one request it was made for, which had no reply before:
one frame is appended to the output of that connection, and nothing to any other. -/
def Answers (s s' : ServiceRun υ Msg γ) (c : ClosurePtr) (reply : Asked → List UInt8) : Prop :=
  ∃ a n b, a ∈ s.service.asked ∧ a.closure = c ∧
    (∀ a' ∈ s.service.asked, a'.closure = c → a' = a) ∧ c ∉ s.service.answered ∧
    s.world.heap.Owns a.net n b ∧
    s'.world.heap.output b = s.world.heap.output b ++ encodeMsg (reply a) ∧
    ∀ b', b' ≠ b → s'.world.heap.output b' = s.world.heap.output b'

/-- `Done` answers with the closure's response, and `Cancel` with an error, under the `asyncid` of
the request. -/
def Correlated [Inhabited γ] (server : RpcServer υ Msg) (setting : Setting)
    (s : ServiceRun υ Msg γ) : ServiceEvent υ Msg γ → Prop
  | .done c => ∃ s' closure, s.step server setting (.done c) = some s' ∧
      s.service.closures c = some closure ∧ s.Answers s' c fun a =>
        server.proto.serializeRpc (server.proto.requestMessage rpcTypeResponse a.asyncid
          closure.rsp.typeName (s.service.messages closure.rsp.addr))
  | .cancel c => ∃ s', s.step server setting (.cancel c) = some s' ∧
      s.Answers s' c fun a => server.proto.serializeRpc (RpcProto.errorMessage a.asyncid)
  | _ => True

theorem Sound.takes (h : s.Sound) {closure : EasyRpcClosure} (hw : s.Writable closure) :
    s.world.heap.Takes closure.net := by
  obtain ⟨hpool, hfirst, hsecond⟩ := hw
  have hfront := inPool_iff_inFront.mp hpool
  obtain ⟨n, b, e, hl, _⟩ := hfront.live h.ok
  exact ⟨n, b, hl.net, hl.hevent, h.established hfront hl.net, by rw [hl.bev]; rfl, hfirst,
    hsecond⟩

/-- A completion whose reply could be made. -/
theorem Sound.answers (h : s.Sound) (hf : s.service.Filed) {c : ClosurePtr}
    {closure : EasyRpcClosure} (hc : s.service.closures c = some closure)
    (hw : s.Writable closure) (reply : EasyRpcClosure → Int × List UInt8)
    (frame : Asked → List UInt8) (hne : ∀ a, frame a ≠ [])
    (hreply : reply closure = (0, frame ⟨c, closure.net, closure.asyncId⟩)) :
    ∃ s', s.complete reply c = some s' ∧ s.Answers s' c frame := by
  obtain ⟨a, ha, rfl⟩ := hf.opened c closure hc
  obtain ⟨n, b, hn, hout, hothers⟩ :=
    Heap.send_taken (hne ⟨c, closure.net, closure.asyncId⟩) (h.takes hw)
  have hs : s.complete reply c = some { s.sendReply closure.net
      (frame ⟨c, closure.net, closure.asyncId⟩) with service := s.service.deleteClosure c } := by
    rw [ServiceRun.complete, hc]
    dsimp only
    rw [hreply]
    rfl
  refine ⟨_, hs, _, n, b, ha, rfl, fun a' ha' heq => hf.unique ha ha' heq, ?_, hn, hout, hothers⟩
  intro hmem
  cases (hf.answered c hmem).2.symm.trans hc

theorem Sound.correlated [Inhabited γ] (h : s.Sound) (hf : s.service.Filed)
    (server : RpcServer υ Msg) (setting : Setting) {e : ServiceEvent υ Msg γ} (hfair : s.Fair e) :
    s.Correlated server setting e := by
  cases e with
  | done c =>
    obtain ⟨closure, hc, hw, hname⟩ := hfair
    have hreply : s.doneReply server.proto closure = (0, server.proto.serializeRpc
        (server.proto.requestMessage rpcTypeResponse closure.asyncId closure.rsp.typeName
          (s.service.messages closure.rsp.addr))) := by
      rw [doneReply, RpcProto.messageToBinary, if_neg (not_le.mpr hname)]
    obtain ⟨s', hs, hanswers⟩ := h.answers hf hc hw (s.doneReply server.proto)
      (fun a => server.proto.serializeRpc (server.proto.requestMessage rpcTypeResponse
        a.asyncid closure.rsp.typeName (s.service.messages closure.rsp.addr)))
      (fun _ => server.proto.serializeRpc_ne_nil _) hreply
    exact ⟨s', closure, hs, hc, hanswers⟩
  | cancel c =>
    obtain ⟨closure, hc, hw⟩ := hfair
    exact h.answers hf hc hw (cancelReply server.proto)
      (fun a => server.proto.serializeRpc (RpcProto.errorMessage a.asyncid))
      (fun _ => server.proto.serializeRpc_ne_nil _) rfl
  | _ => trivial

/-- In every run in which the services complete their closures as they are asked to, each completion
answers the request its closure was made for and no other, and no request has two replies. -/
theorem replies_along [Inhabited γ] (server : RpcServer υ Msg) (setting : Setting) (user : υ)
    (messages : Nat → Msg) (fate : Nat → Bool) (frontRecv backRecv : RapBuffer) (now : Int)
    {ops : List (ServiceEvent υ Msg γ)}
    (hfair : Run.Along (ServiceRun.step server setting) Fair
      (start user messages fate frontRecv backRecv now) ops) :
    Run.Along (ServiceRun.step server setting) (Correlated server setting)
        (start user messages fate frontRecv backRecv now) ops ∧
      ∀ s, Run.run (ServiceRun.step server setting)
        (start user messages fate frontRecv backRecv now) ops = some s →
          s.service.answered.Nodup := by
  have hstart := sound_start (γ := γ) user messages fate frontRecv backRecv now
  have hfiled : (start (γ := γ) user messages fate frontRecv backRecv now).service.Filed :=
    ServiceState.filed_init messages
  have hstep : ∀ s e s', Sound s ∧ s.service.Filed →
      ServiceRun.step (γ := γ) server setting s e = some s' → Sound s' ∧ s'.service.Filed :=
    fun _ _ _ h hs => ⟨h.1.step hs, filed_step h.2 hs⟩
  constructor
  · exact Run.along_of_inv (fun s e s' h _ hs => hstep s e s' h hs)
      (fun s e h hfair => h.1.correlated h.2 server setting hfair) ⟨hstart, hfiled⟩ hfair
  · intro s hrun
    exact (Run.run_preserves hstep ⟨hstart, hfiled⟩ hrun).2.nodup

/-- Two frontends send a request each, with the asyncids 9 and 5. The second one is answered first,
by `Done`, and then the first one by `Cancel`. -/
def twoRequests : List (ServiceEvent Unit (List UInt8) Unit) :=
  requestKept ++ [.loop (.connect 8 true true), .loop (.arrive 1 [0, 0, 0, 5, 5]), .round true,
    .returned, .round true, .done 1, .cancel 0]

theorem replies_along_two :
    (Run.run (ServiceRun.step plainServer ⟨-1, -1, -1⟩) plainStart twoRequests).map
      (fun s => (s.world.heap.output 0, s.world.heap.output 1, s.service.answered)) =
        some (encodeMsg [9], encodeMsg [5, 1], [1, 0]) ∧
    Run.Along (ServiceRun.step plainServer ⟨-1, -1, -1⟩) (Correlated plainServer ⟨-1, -1, -1⟩)
      plainStart twoRequests :=
  ⟨by decide +kernel,
    (replies_along plainServer ⟨-1, -1, -1⟩ () (fun _ => []) (fun _ => true) .small .small 0
      (show Run.Along _ Fair plainStart twoRequests by decide +kernel)).1⟩

end ServiceRun

end Rapidapp
