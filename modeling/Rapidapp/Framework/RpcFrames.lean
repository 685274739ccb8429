import Rapidapp.Framework.RpcCalls
import Rapidapp.Framework.SendFrames

/-!
# RpcCall: the frames it writes

`RpcFunction` (`framework/rapidapp_easy_rpc.cpp:203-234`) encodes the request into a buffer that
all calls share and sends the buffer, whatever `MessageToBinary` says. A request that is refused
leaves the buffer as it was, so the request of an earlier call is sent once more. Every other call
sends its own request or nothing (`calls_ownFrame_iff`).
-/

namespace Rapidapp

variable {υ Msg γ : Type}

namespace Heap

/-- There is no whole frame at the start of these bytes. -/
def NoFrame (out : List UInt8) : Prop := ∀ msg, msg ≠ [] → ¬ encodeMsg msg <+: out

theorem noFrame_of_length {out : List UInt8} (h : out.length ≤ 4) : NoFrame out := by
  intro msg hmsg hprefix
  have hlen := hprefix.length_le
  rw [length_encodeMsg] at hlen
  have hpos := List.length_pos_iff.mpr hmsg
  omega

theorem noFrame_nil : NoFrame [] := noFrame_of_length (by simp)

theorem not_noFrame_encodeMsg {msg : List UInt8} (hmsg : msg ≠ []) : ¬ NoFrame (encodeMsg msg) :=
  fun h => h msg hmsg List.prefix_rfl

/-- What was appended to an output that is there can be read off. -/
theorem Wrote.out_eq {h h' : Heap γ} {out out' : BevPtr → List UInt8} (hw : Wrote h h' out)
    (hw' : Wrote h h' out') {b : BevPtr} (hb : (h.bevs b).isSome) : out b = out' b := by
  obtain ⟨e, he⟩ := Option.isSome_iff_exists.mp hb
  have heq := Option.some.inj ((hw.bev he).symm.trans (hw'.bev he))
  simpa using heq

/-- `Send` writes to one output at most: the frame when the connection takes it, and else no whole
frame. -/
theorem send_wrote (h : Heap γ) (p : NetPtr) (msg : List UInt8) :
    ∃ b out, Wrote h (h.send p msg).2 out ∧ (∀ c, c ≠ b → out c = []) ∧
      ((msg ≠ [] ∧ h.Takes p ∧ (h.bevs b).isSome ∧ out b = encodeMsg msg) ∨
        (¬ (msg ≠ [] ∧ h.Takes p) ∧ NoFrame (out b))) := by
  have hnothing : Wrote h h fun _ => [] := h.wrote_nothing h.writes
  by_cases hmsg : msg = []
  · refine ⟨0, fun _ => [], ?_, fun _ _ => rfl, .inr ⟨fun hne => hne.1 hmsg, noFrame_nil⟩⟩
    simpa [send, hmsg] using hnothing
  have hok := h.send_ok_iff p hmsg
  obtain ⟨hnil, -⟩ | ⟨r, hr, hsend⟩ | ⟨n, b, -, hp, hev, hst, hsend⟩ := h.send_cases p msg
  · exact absurd hnil hmsg
  · rw [hsend] at hok ⊢
    exact ⟨0, fun _ => [], hnothing, fun _ _ => rfl,
      .inr ⟨fun htakes => hr (hok.mpr htakes.2), noFrame_nil⟩⟩
  rw [hsend] at hok ⊢
  obtain ⟨-, h₁, hwrite, hw⟩ | ⟨e, he, -, ⟨-, h₁, hwrite, hw⟩ | ⟨-, h₁, hwrite, hw⟩⟩ :=
    h.writeFrame_cases b msg
  · rw [hwrite] at hok ⊢
    refine ⟨b, _, hw, fun _ _ => rfl, .inr ⟨fun htakes => ?_, noFrame_nil⟩⟩
    cases hok.mpr htakes.2
  · -- the header alone
    rw [hwrite] at hok ⊢
    refine ⟨b, _, hw, fun c hc => by simp [hc], .inr ⟨fun htakes => ?_, ?_⟩⟩
    · cases hok.mpr htakes.2
    · exact noFrame_of_length (by simp [lengthHeader])
  · rw [hwrite] at hok ⊢
    refine ⟨b, _, hw, fun c hc => by simp [hc], .inl ⟨hmsg, hok.mp rfl, by simp [he], ?_⟩⟩
    simp [encodeMsg]

end Heap

namespace World

/-- `frame` is the encoding of the request of the call, under the asyncid that the call puts into
`crid_list_`. -/
def OwnRequest (proto : RpcProto Msg) (w w' : RpcWorld υ Msg γ) (r : RpcPtr) (a : RpcArgs)
    (frame : List UInt8) : Prop :=
  ∃ request rpc cp, a.request = some request ∧ w.app.rpcs r = some rpc ∧
    w'.app.rpcs r = some { rpc with cridList := rpc.cridList ++ [cp] } ∧
    proto.messageToBinary rpcTypeRequest cp.asyncid request.typeName
      (w.app.messages request.addr) w.app.buf = (0, frame)

/-- The call writes to one output at most, and that no whole frame or the one of its request. -/
def OwnFrame (proto : RpcProto Msg) (user : RpcUser υ Msg γ) (w : RpcWorld υ Msg γ) (r : RpcPtr)
    (a : RpcArgs) : Prop :=
  ∃ ret w' b out, w.rpcCall proto user r a = some (ret, w') ∧ Heap.Wrote w.heap w'.heap out ∧
    (∀ c, c ≠ b → out c = []) ∧
    (Heap.NoFrame (out b) ∨ ∃ frame, OwnRequest proto w w' r a frame ∧ out b = encodeMsg frame)

/-- The call gets to `Send` with a request that `MessageToBinary` refuses, there is an earlier one
in the buffer, and the connection takes it. -/
def SendsStale (w : RpcWorld υ Msg γ) (r : RpcPtr) (a : RpcArgs) : Prop :=
  ¬ RpcRefused w r a ∧ 0 ≤ w.app.scheduler.cidSeed ∧ w.app.buf ≠ [] ∧
    ∃ request rpc net, a.request = some request ∧ maxMessageName ≤ request.typeName.length ∧
      w.app.rpcs r = some rpc ∧ rpc.binding = some net ∧ w.heap.Takes net

section Calls

variable {proto : RpcProto Msg} {user : RpcUser υ Msg γ} {w : RpcWorld υ Msg γ} {r : RpcPtr}
  {a : RpcArgs}

theorem requestBuf_refused {ctx : RpcContext}
    (hname : maxMessageName ≤ ctx.request.typeName.length) :
    w.requestBuf proto ctx = w.app.buf := by
  simp [requestBuf, RpcProto.messageToBinary, hname]

/-- A call that writes nothing. -/
theorem ownFrame_of_heap {ret : Int} {w' : RpcWorld υ Msg γ}
    (hcall : w.rpcCall proto user r a = some (ret, w')) (hheap : w'.heap = w.heap) :
    OwnFrame proto user w r a := by
  refine ⟨ret, w', 0, fun _ => [], hcall, ?_, fun _ _ => rfl, .inl Heap.noFrame_nil⟩
  rw [hheap]
  exact w.heap.wrote_nothing w.heap.writes

/-- The request of a call is its own unless its type name is too long. -/
theorem ownRequest_called {request : MessageRef} {callback : Nat} {rpc : EasyRpc} {net : NetPtr}
    (hrequest : a.request = some request) (hrpc : w.app.rpcs r = some rpc)
    (hname : request.typeName.length < maxMessageName) :
    OwnRequest proto w (w.called proto rpc net (w.contextOf r request callback a)) r a
      (w.requestBuf proto (w.contextOf r request callback a)) := by
  refine ⟨request, rpc, ⟨w.app.scheduler.cidSeed, w.app.asyncidSeed⟩, hrequest, hrpc, ?_, ?_⟩
  · exact Function.update_self r _ _
  · simp [requestBuf, contextOf, RpcProto.messageToBinary, not_le.mpr hname]

/-- A call that gets to `Send` is only wrong when it sends what was in the buffer before. -/
theorem ownFrame_called_iff {request : MessageRef} {callback : Nat} {rpc : EasyRpc} {net : NetPtr}
    (hgo : ¬ RpcRefused w r a) (hcid : 0 ≤ w.app.scheduler.cidSeed)
    (hrequest : a.request = some request) (hrpc : w.app.rpcs r = some rpc)
    (hnet : rpc.binding = some net)
    (hcall : w.rpcCall proto user r a =
      some (0, w.called proto rpc net (w.contextOf r request callback a))) :
    OwnFrame proto user w r a ↔ ¬ SendsStale w r a := by
  obtain ⟨b, out, hwrote, hother, hout⟩ :=
    w.heap.send_wrote net (w.requestBuf proto (w.contextOf r request callback a))
  constructor
  · rintro ⟨ret, w', b', out', hcall', hwrote', hother', hown⟩
      ⟨-, -, hbuf, request', rpc', net', hrequest', hname, hrpc', hnet', htakes⟩
    cases hrequest.symm.trans hrequest'
    cases hrpc.symm.trans hrpc'
    cases hnet.symm.trans hnet'
    obtain ⟨rfl, rfl⟩ := Prod.mk.inj (Option.some.inj (hcall.symm.trans hcall'))
    have hstale : w.requestBuf proto (w.contextOf r request callback a) = w.app.buf :=
      requestBuf_refused hname
    rw [hstale] at hout
    obtain ⟨-, -, hb, hframe⟩ | ⟨hnot, -⟩ := hout
    · rw [hwrote.out_eq hwrote' hb] at hframe
      have hfull := Heap.not_noFrame_encodeMsg hbuf
      obtain hbb | hbb := eq_or_ne b b'
      · subst hbb
        rcases hown with hnone | ⟨frame, ⟨request', _, cp, hrequest', _, _, hframe'⟩, _⟩
        · exact hfull (hframe ▸ hnone)
        · cases hrequest.symm.trans hrequest'
          simp [RpcProto.messageToBinary, hname] at hframe'
      · exact hfull (hframe ▸ hother' b hbb ▸ Heap.noFrame_nil)
    · exact hnot ⟨hbuf, htakes⟩
  · intro hstale
    by_cases hname : request.typeName.length < maxMessageName
    · refine ⟨0, _, b, out, hcall, hwrote, hother, ?_⟩
      obtain ⟨-, -, -, hframe⟩ | ⟨-, hnone⟩ := hout
      · exact .inr ⟨_, ownRequest_called hrequest hrpc hname, hframe⟩
      · exact .inl hnone
    · have hlong := not_lt.mp hname
      refine ⟨0, _, b, out, hcall, hwrote, hother, .inl ?_⟩
      rw [requestBuf_refused hlong] at hout
      obtain ⟨hbuf, htakes, -⟩ | ⟨-, hnone⟩ := hout
      · exact absurd ⟨hgo, hcid, hbuf, request, rpc, net, hrequest, hlong, hrpc, hnet, htakes⟩ hstale
      · exact hnone

variable (proto user w r a) in
/-- In any state, a call writes its own frame or none exactly when it does not send what was in the
buffer before. -/
theorem ownFrame_iff : OwnFrame proto user w r a ↔ ¬ SendsStale w r a := by
  obtain ⟨hrefused, n, -, hcall⟩ |
      ⟨hgo, request, callback, rpc, net, hrequest, -, hrpc, hnet, ⟨hcid, hcall⟩ | ⟨hcid, hcall⟩⟩ :=
    w.rpcCall_cases proto user r a
  · exact iff_of_true (ownFrame_of_heap hcall rfl) fun hstale => hstale.1 hrefused
  · exact iff_of_true (ownFrame_of_heap hcall rfl) fun hstale => absurd hstale.2.1 (not_le.mpr hcid)
  · exact ownFrame_called_iff hgo hcid hrequest hrpc hnet hcall

end Calls

end World

/-! ## Any number of calls -/

/-- What is asked of an event that is a call. -/
def RpcEvent.OnCall (P : RpcPtr → World.RpcArgs → Prop) : RpcEvent γ → Prop
  | .call r a => P r a
  | _ => True

/-- Every call of a run writes its own frame or none exactly when none of them sends what an
earlier one left in the buffer. -/
theorem calls_ownFrame_iff (proto : RpcProto Msg) (user : RpcUser υ Msg γ) (w : RpcWorld υ Msg γ)
    (es : List (RpcEvent γ)) :
    Run.Along (rpcStep proto user) (fun w e => e.OnCall (World.OwnFrame proto user w)) w es ↔
      Run.Along (rpcStep proto user) (fun w e => e.OnCall fun r a => ¬ World.SendsStale w r a)
        w es := by
  apply Run.along_iff_of_inv (I := fun _ => True) (fun _ _ _ _ _ => trivial) _ trivial es
  intro w e _
  cases e with
  | call r a => exact World.ownFrame_iff proto user w r a
  | _ => exact Iff.rfl

/-- The connection of the one `EasyRpc` is established. -/
def RpcEvent.established : RpcEvent Unit :=
  .connections (((Heap.empty fun _ => true).newEasyNet).2.attach 0 7 0 .netEstablished)
    RpcWorld.connecting.frontendHandlerMgr RpcWorld.connecting.backendHandlerMgr

/-- `CreateRpc`, then a call on the established connection. -/
def RpcEvent.firstCall : List (RpcEvent Unit) :=
  [.createRpc 0 (some 7) true, .established, .call 0 .plain]

/-- The state after it. -/
def RpcWorld.calledOnce : RpcWorld Unit (List UInt8) Unit :=
  (Run.run (rpcStep .plain .idle) .idle RpcEvent.firstCall).getD .idle

/-- A call with a request whose type name has 1024 bytes. -/
def World.RpcArgs.longName : World.RpcArgs :=
  { World.RpcArgs.plain with request := some ⟨0, List.replicate 1024 77⟩ }

theorem run_firstCall :
    Run.run (rpcStep .plain .idle) .idle RpcEvent.firstCall = some .calledOnce := by
  have hruns : (Run.run (rpcStep .plain .idle) .idle RpcEvent.firstCall).isSome := by
    decide +kernel
  obtain ⟨w, hw⟩ := Option.isSome_iff_exists.mp hruns
  rw [RpcWorld.calledOnce, hw, Option.getD_some]

theorem calledOnce_sendsStale : World.SendsStale .calledOnce 0 .longName := by
  have hrpc : RpcWorld.calledOnce.app.rpcs 0 = some ⟨some 0, [⟨0, 0⟩]⟩ := by decide +kernel
  refine ⟨?_, by decide +kernel, by decide +kernel, ⟨0, List.replicate 1024 77⟩, _, 0, rfl, ?_,
    hrpc, rfl, ?_⟩
  · rintro (h | h | h | h | h | h)
    · cases h
    · cases h
    · rw [hrpc] at h
      cases h
    · cases h
    · revert h
      decide +kernel
    · cases h
  · rw [List.length_replicate]
    decide
  · apply (Heap.send_ok_iff RpcWorld.calledOnce.heap 0 (List.cons_ne_nil 0 [])).mp
    decide +kernel

/-- The second call sends the frame of the first one again. -/
theorem calls_stale :
    (Run.run (rpcStep .plain .idle) .idle (RpcEvent.firstCall ++ [.call 0 .longName])).map
      (fun w => w.heap.output 0) = some (encodeMsg [0] ++ encodeMsg [0]) ∧
    ¬ Run.Along (rpcStep .plain .idle) (fun w e => e.OnCall (World.OwnFrame .plain .idle w)) .idle
      (RpcEvent.firstCall ++ [.call 0 .longName]) := by
  refine ⟨by decide +kernel, fun hall => ?_⟩
  have hsecond := ((Run.along_append.mp hall).2 _ run_firstCall).1
  exact (World.ownFrame_iff .plain .idle .calledOnce 0 .longName).mp hsecond calledOnce_sendsStale

end Rapidapp
