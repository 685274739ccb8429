import Rapidapp.Framework.RpcPair

/-!
# The side that calls

What the process of the caller has to do with the calls on the connection: what it has written are
their frames, the calls of the `EasyRpc` that wait are those that have had no answer yet, and each
callback that was called shows the answer to its own call (`Calling`).
-/

namespace Rapidapp

open Framing RemoteCalls

variable {υ ν Msg γ : Type}

/-- The calls between the two processes. -/
abbrev LineCalls (Msg : Type) := Calls Nat (RpcContent Msg) (Option (RpcContent Msg))

namespace RpcCallMade

/-- The call on the wire. -/
def ask (x : RpcCallMade Msg) : RpcAsk Msg := (x.asyncid, x.request)

/-- The call as the tables have it. -/
def ticket (r : RpcPtr) (x : RpcCallMade Msg) : RpcTicket := ⟨r, x.asyncid, x.ctx⟩

end RpcCallMade

/-- What a callback has to be called with for an answer: an error for `Cancel`, and for `Done` the
content of its response, when the caller has asked for a message of this type. -/
def RpcReturn.Shows (x : RpcReturn Msg) : Option (RpcContent Msg) → Prop
  | none => x.status = -1
  | some (name, message) => ∀ response ∈ x.ctx.response, response.typeName = name →
      x.status = 0 ∧ x.response = some message

namespace RpcSetup

/-- What holds of the caller. -/
structure Calling (S : RpcSetup υ ν Msg γ) (w : RpcWorld υ Msg γ) (called : List (RpcCallMade Msg))
    (returned : List (RpcReturn Msg)) (c : LineCalls Msg) : Prop where
  inv : RpcInv S.server.proto w.app
  responses : Responses w.app
  up : S.line.Up w
  output : w.heap.output S.line.bev = Decoder.stream S.server.proto.askFrame c.ask.all
  ask : c.ask.all = called.map RpcCallMade.ask
  issued : (Exchange.issues w.app.log).filter (·.owner = S.line.rpc) =
    called.map (RpcCallMade.ticket S.line.rpc)
  waiting : (Exchange.after w.app.log).waiting.filter (·.owner = S.line.rpc) =
    (called.filter fun x => x.asyncid ∉ c.tell.past.map Prod.fst).map
      (RpcCallMade.ticket S.line.rpc)
  returned : List.Forall₂ (fun ret y => ret.Shows y.2 ∧
    ∃ x ∈ called, x.ctx = ret.ctx ∧ x.asyncid = y.1) returned c.tell.past

/-- Everything on the wire can be read back. -/
structure Readable (S : RpcSetup υ ν Msg γ) (c : LineCalls Msg) : Prop where
  ask : ∀ x ∈ c.ask.all, x.1 < 2 ^ 31 ∧ S.initialized x.2.1 x.2.2 = true ∧
    (S.server.proto.serializeRpc (S.server.proto.askMessage x)).length + 4 < 2 ^ 31
  tell : ∀ y ∈ c.tell.all, (∀ content ∈ y.2, S.initialized content.1 content.2 = true) ∧
    (S.server.proto.serializeRpc (S.server.proto.tellMessage y)).length + 4 < 2 ^ 31

variable {S : RpcSetup υ ν Msg γ} {w w' : RpcWorld υ Msg γ} {called : List (RpcCallMade Msg)}
  {returned : List (RpcReturn Msg)} {c : LineCalls Msg}

namespace Calling

/-! ## Calls -/

/-- The next asyncid has not been used. -/
theorem unused (h : S.Calling w called returned c) :
    w.app.asyncidSeed ∉ c.ask.all.map Prod.fst := by
  intro hmem
  rw [h.ask, List.map_map] at hmem
  obtain ⟨x, hx, hid⟩ := List.mem_map.mp hmem
  have hticket := List.mem_map_of_mem (f := RpcCallMade.ticket S.line.rpc) hx
  rw [← h.issued] at hticket
  have hlt := (h.inv.issued _ (List.mem_of_mem_filter hticket)).1
  rw [← h.inv.seed, ← hid] at hlt
  exact lt_irrefl _ hlt

/-- The connection of the `EasyRpc` takes a request when both writes succeed. -/
theorem takes (h : S.Calling w called returned c) (hfirst : w.heap.fate w.heap.writes = true)
    (hsecond : w.heap.fate (w.heap.writes + 1) = true) : w.heap.Takes S.line.net := by
  obtain ⟨n, hn, heq⟩ := Option.map_eq_some_iff.mp h.up.net
  obtain ⟨_, hrest⟩ := Prod.mk.inj heq
  obtain ⟨hev, hstate⟩ := Prod.mk.inj hrest
  exact ⟨n, S.line.bev, hn, hev, hstate, h.up.bev, hfirst, hsecond⟩

/-- What is sent on the connection is appended to its output as one frame. -/
theorem send (h : S.Calling w called returned c) (hfirst : w.heap.fate w.heap.writes = true)
    (hsecond : w.heap.fate (w.heap.writes + 1) = true) {msg : List UInt8} (hmsg : msg ≠ []) :
    (w.heap.send S.line.net msg).2.output S.line.bev =
      w.heap.output S.line.bev ++ encodeMsg msg := by
  obtain ⟨m, b, hm, hout, _⟩ := Heap.send_taken hmsg (h.takes hfirst hsecond)
  obtain ⟨n, hn, heq⟩ := Option.map_eq_some_iff.mp h.up.net
  obtain rfl := Option.some.inj (hm.net.symm.trans hn)
  obtain ⟨_, hrest⟩ := Prod.mk.inj heq
  obtain rfl := Option.some.inj (hm.hevent.symm.trans (Prod.mk.inj hrest).1)
  exact hout

/-- The bytes that a call with a short type name sends. -/
theorem requestBuf_eq (w : RpcWorld υ Msg γ) {ctx : RpcContext}
    (hname : ctx.request.typeName.length < maxMessageName) :
    w.requestBuf S.server.proto ctx = S.server.proto.serializeRpc (S.server.proto.askMessage
      (w.app.asyncidSeed, ctx.request.typeName, w.app.messages ctx.request.addr)) := by
  rw [World.requestBuf, RpcProto.messageToBinary, if_neg (not_le.mpr hname)]
  rfl

/-- A call is entered into the tables and written. -/
theorem enter (h : S.Calling w called returned c) {x : RpcCallMade Msg}
    (hinv : RpcInv S.server.proto w'.app) (hup : S.line.Up w') (hresponse : x.ctx.response ≠ none)
    (hlog : w'.app.log = w.app.log ++ [.issue (x.ticket S.line.rpc)])
    (houtput : w'.heap.output S.line.bev =
      w.heap.output S.line.bev ++ S.server.proto.askFrame x.ask)
    (hnew : x.asyncid ∉ c.tell.past.map Prod.fst) :
    S.Calling w' (called ++ [x]) returned { c with ask := c.ask.put [x.ask] } where
  inv := hinv
  responses q hq := by
    rw [hlog, Exchange.issues_append] at hq
    obtain hq | hq := List.mem_append.mp hq
    · exact h.responses q hq
    · rw [List.mem_singleton.mp hq]
      exact hresponse
  up := hup
  output := by
    rw [houtput, h.output, Lane.all_put, Decoder.stream_append, Decoder.stream_singleton]
  ask := by
    rw [Lane.all_put, h.ask, List.map_append]
    rfl
  issued := by
    rw [hlog, Exchange.issues_append, List.filter_append, h.issued, List.map_append]
    simp [Exchange.issues, RpcCallMade.ticket]
  waiting := by
    have hone : [x].filter (fun x => x.asyncid ∉ c.tell.past.map Prod.fst) = [x] :=
      List.filter_cons_of_pos (decide_eq_true hnew)
    rw [hlog, Exchange.after_concat, Exchange.Desk.step, List.filter_append, h.waiting,
      List.filter_append, List.map_append, hone]
    simp [RpcCallMade.ticket]
  returned := h.returned.imp fun _ _ ⟨hshows, y, hy, hrest⟩ =>
    ⟨hshows, y, List.mem_append_left _ hy, hrest⟩

/-- `RpcCall` is refused, or the frame of the call is written and its coroutine waits. -/
theorem call (h : S.Calling w called returned c)
    {may : RpcContent Msg → Option (RpcContent Msg) → Prop} (hok : c.Ok may) {a : World.RpcArgs}
    (hfits : S.Fits w a) (hup : S.line.Up w') {ret : Int}
    (hcall : w.rpcCall S.server.proto S.user S.line.rpc a = some (ret, w')) :
    (ret ≠ 0 ∧ S.Calling w' called returned c) ∨
      (ret = 0 ∧ ∃ x, S.line.made w a = [x] ∧ x.asyncid ∉ c.ask.all.map Prod.fst ∧
        x.asyncid < 2 ^ 31 ∧ S.initialized x.request.1 x.request.2 = true ∧
        (S.server.proto.serializeRpc (S.server.proto.askMessage x.ask)).length + 4 < 2 ^ 31 ∧
        S.Calling w' (called ++ [x]) returned { c with ask := c.ask.put [x.ask] }) := by
  obtain ⟨hresponse, hfirst, hsecond, hrequest⟩ := hfits
  obtain ⟨ret', w'', heq, hinv, _⟩ := rpcInv_call S.user h.inv h.up.few S.line.rpc a
  obtain ⟨rfl, rfl⟩ := Prod.mk.inj (Option.some.inj (heq.symm.trans hcall))
  obtain ⟨_, n, _, hcases⟩ | ⟨_, request, callback, rpc, net, hreq, hcb, hrpc, hnet,
      ⟨hcid, _⟩ | ⟨_, hcases⟩⟩ :=
    w.rpcCall_cases S.server.proto S.user S.line.rpc a
  · obtain ⟨rfl, rfl⟩ := Prod.mk.inj (Option.some.inj (hcall.symm.trans hcases))
    exact .inl ⟨by decide, hinv, h.responses, hup, h.output, h.ask, h.issued, h.waiting, h.returned⟩
  · rw [CoroutineScheduler.cidSeed_eq h.up.few] at hcid
    omega
  · obtain ⟨rfl, rfl⟩ := Prod.mk.inj (Option.some.inj (hcall.symm.trans hcases))
    obtain ⟨hname, hinitialized, hlen⟩ := hrequest request hreq
    have hbind := h.up.binding
    rw [hrpc, Option.bind_some, hnet] at hbind
    obtain rfl := Option.some.inj hbind
    have hbuf : w.requestBuf S.server.proto (w.contextOf S.line.rpc request callback a) =
        S.server.proto.serializeRpc (S.server.proto.askMessage
          (w.app.asyncidSeed, request.typeName, w.app.messages request.addr)) :=
      requestBuf_eq w hname
    have hseed : w.app.asyncidSeed < 2 ^ 31 := by
      rw [h.inv.seed]
      exact h.up.few
    have hunused := h.unused
    have hpast : w.app.asyncidSeed ∉ c.tell.past.map Prod.fst := by
      intro hmem
      obtain ⟨x, hx, hid⟩ := List.mem_map.mp
        (hok.answered_fst ((c.tell.past_prefix.sublist.map Prod.fst).subset hmem))
      exact hunused (hid ▸ List.mem_map_of_mem (hok.mem_all hx))
    have hsend := h.send hfirst hsecond (hbuf ▸ S.server.proto.serializeRpc_ne_nil _)
    refine .inr ⟨rfl, ⟨w.contextOf S.line.rpc request callback a, w.app.asyncidSeed,
      (request.typeName, w.app.messages request.addr)⟩, by rw [RpcLine.made, hreq, hcb], hunused,
      hseed, hinitialized, hlen, h.enter hinv hup hresponse rfl ?_ hpast⟩
    refine hsend.trans ?_
    rw [hbuf]
    rfl

/-! ## Everything else -/

/-- What happens elsewhere is not about the `EasyRpc`. -/
theorem log_elsewhere (h : S.Calling w called returned c) {e : RpcEvent γ}
    (hs : rpcStep S.server.proto S.user w e = some w') (he : S.line.Elsewhere w e) :
    w'.app.log = w.app.log ∨
      ∃ e', w'.app.log = w.app.log ++ [e'] ∧ e'.owner ≠ S.line.rpc := by
  cases e with
  | createRpc type connect newOk =>
    cases hs
    exact .inl (w.createRpc_keeps type connect newOk).log
  | call r a =>
    obtain ⟨ret, w'', heq, _, hlog⟩ := rpcInv_call S.user h.inv h.up.few r a
    rw [rpcStep, heq] at hs
    cases hs
    obtain ⟨_, hlog⟩ | ⟨_, request, callback, _, _, hlog⟩ := hlog
    · exact .inl hlog
    · exact .inr ⟨_, hlog, he.1⟩
  | frame p data size =>
    have hp : (w.heap.nets p).bind (·.rpcBinded) ≠ some S.line.rpc := he
    simp only [rpcStep, World.serveBackEnd] at hs
    split at hs
    · next r hr =>
      have hne : r ≠ S.line.rpc := fun heq => hp (hr.trans (congrArg some heq))
      split_ifs at hs with hactive
      · cases hrpc : w.app.rpcs r with
        | none =>
          rw [World.rpcIsActive, hrpc] at hactive
          cases hactive
        | some rpc =>
          obtain ⟨ret, msg, _, ⟨_, heq⟩ | ⟨_, _, heq⟩ | ⟨q, _, _, ⟨_, heq⟩ | ⟨w₁, heq, hk⟩⟩⟩ :=
            World.resume_cases S.user h.inv hrpc data size <;> rw [heq] at hs <;> cases hs
          · exact .inl rfl
          · exact .inr ⟨_, rfl, hne⟩
          · exact .inr ⟨_, hk.log, hne⟩
      · cases hs
        exact .inl (S.user.onRecvBackEnd_keeps _ _ _ _ _).log
    · cases hs
      exact .inl (S.user.onRecvBackEnd_keeps _ _ _ _ _).log
  | user k =>
    cases hs
    exact .inl (S.user.act_keeps k w).log
  | connections heap frontend backend =>
    cases hs
    exact .inl rfl

theorem elsewhere (h : S.Calling w called returned c) {e : RpcEvent γ}
    (hs : rpcStep S.server.proto S.user w e = some w') (he : S.line.Elsewhere w e)
    (hk : S.line.Keeps w w') : S.Calling w' called returned c := by
  have hcall : ∀ r a, e = .call r a → a.response ≠ none := by
    rintro r a rfl
    exact he.2
  obtain ⟨w'', hs', hinv, hresponses⟩ := rpcInv_step S.user h.inv h.responses h.up.few hcall
  obtain rfl := Option.some.inj (hs'.symm.trans hs)
  refine ⟨hinv, hresponses, hk.1, hk.2.trans h.output, h.ask, ?_, ?_, h.returned⟩
  · obtain hlog | ⟨e', hlog, howner⟩ := h.log_elsewhere hs he
    · rw [hlog, h.issued]
    · rw [hlog, Exchange.issues_owner _ howner, h.issued]
  · obtain hlog | ⟨e', hlog, howner⟩ := h.log_elsewhere hs he
    · rw [hlog, h.waiting]
    · rw [hlog, Exchange.after_concat, Exchange.Desk.step_owner _ howner, h.waiting]

/-! ## Answers -/

/-- A call without an answer waits. -/
theorem mem_waiting (h : S.Calling w called returned c) {x : RpcCallMade Msg} (hx : x ∈ called)
    (hnone : x.asyncid ∉ c.tell.past.map Prod.fst) :
    x.ticket S.line.rpc ∈ (Exchange.after w.app.log).waiting := by
  have hmem : x.ticket S.line.rpc ∈
      (Exchange.after w.app.log).waiting.filter (·.owner = S.line.rpc) := by
    rw [h.waiting]
    exact List.mem_map_of_mem (List.mem_filter.mpr ⟨hx, decide_eq_true hnone⟩)
  exact List.mem_of_mem_filter hmem

/-- The message for a call that waits finds it. -/
theorem find_waiting (h : S.Calling w called returned c) {x : RpcCallMade Msg} (hx : x ∈ called)
    (hnone : x.asyncid ∉ c.tell.past.map Prod.fst) :
    (Exchange.after w.app.log).waiting.find? (·.takes S.line.rpc x.asyncid) =
      some (x.ticket S.line.rpc) := by
  have hwaits := h.mem_waiting hx hnone
  have hself := (x.ticket S.line.rpc).takes_self
  obtain ⟨q, hq⟩ := Option.isSome_iff_exists.mp
    (List.find?_isSome.mpr ⟨_, hwaits, hself⟩ :
      ((Exchange.after w.app.log).waiting.find? (·.takes S.line.rpc x.asyncid)).isSome)
  obtain ⟨_, hid⟩ := Exchange.Request.takes_iff.mp (Exchange.Request.takes_of_find? hq)
  obtain rfl := h.inv.eq_of_id (List.mem_of_find?_eq_some hq) hwaits hid
  exact hq

/-- The answer to a call is taken from those that wait. -/
theorem waiting_answered (h : S.Calling w called returned c) {x : RpcCallMade Msg} (hx : x ∈ called)
    (hnone : x.asyncid ∉ c.tell.past.map Prod.fst) {y : RpcTell Msg} {tell : Lane (RpcTell Msg)}
    (ht : c.tell.Takes y tell) (hid : y.1 = x.asyncid) (msg : RpcMessage) :
    ((Exchange.after w.app.log).step (.hear S.line.rpc x.asyncid msg)).waiting.filter
        (·.owner = S.line.rpc) =
      (called.filter fun x => x.asyncid ∉ tell.past.map Prod.fst).map
        (RpcCallMade.ticket S.line.rpc) := by
  have hother : ∀ q : RpcTicket, (decide (q.owner = S.line.rpc) && !q.takes S.line.rpc x.asyncid) =
      (decide (q.id ≠ x.asyncid) && decide (q.owner = S.line.rpc)) := by
    intro q
    by_cases howner : q.owner = S.line.rpc <;> simp [howner, Exchange.Request.takes]
  rw [Exchange.Desk.step_hear_of_some msg (h.find_waiting hx hnone)]
  dsimp only
  rw [List.filter_filter, List.filter_congr fun q _ => hother q, ← List.filter_filter, h.waiting,
    List.filter_map, List.filter_filter]
  congr 1
  refine List.filter_congr fun z _ => ?_
  have hpast : z.asyncid ∈ tell.past.map Prod.fst ↔
      z.asyncid = x.asyncid ∨ z.asyncid ∈ c.tell.past.map Prod.fst := by
    rw [ht.past, List.map_append, List.mem_append, List.map_singleton, List.mem_singleton, hid,
      or_comm]
  rw [Bool.eq_iff_iff]
  simp only [Function.comp_apply, RpcCallMade.ticket, Bool.and_eq_true, decide_eq_true_eq, hpast,
    not_or, ne_eq]
  exact and_congr_left' decide_eq_true_iff

/-- `Resume` with the answer to a call that waits comes to the callback of this call. -/
theorem resumeStart_eq (h : S.Calling w called returned c) {x : RpcCallMade Msg} (hx : x ∈ called)
    (hnone : x.asyncid ∉ c.tell.past.map Prod.fst) {data : List UInt8} {size : Nat}
    {msg : RpcMessage} (hunpack : S.server.proto.unpackToRpcMsg data size w.app.rpcMsg = (0, msg))
    (hid : msg.asyncid = x.asyncid) {rpc : EasyRpc} (hrpc : w.app.rpcs S.line.rpc = some rpc)
    {response : MessageRef} (hresponse : x.ctx.response = some response) :
    ∃ callback w', World.resumeStart S.server.proto S.line.rpc data size w =
      some (some callback, w') ∧ callback.task = x.ctx := by
  have hcrid := h.inv.getCoroutineIdx hrpc msg.asyncid
  rw [hid, h.find_waiting hx hnone, Option.elim_some] at hcrid
  have hfind := h.inv.find_waiting (h.mem_waiting hx hnone)
  unfold World.resumeStart
  rw [hrpc, hunpack]
  dsimp only
  rw [if_neg (not_not.mpr rfl), hid, hcrid]
  unfold World.wakeStart
  rw [RpcState.heard, hfind]
  dsimp only [RpcTicket.coroutine, RpcCallMade.ticket]
  unfold World.rpcFunctionReply
  rw [hresponse]
  exact ⟨_, _, rfl, rfl⟩

end Calling

/-- What the callback is called with shows the answer. -/
theorem shows_tell (S : RpcSetup υ ν Msg γ)
    (hlossless : S.server.proto.Lossless S.initialized) {y : RpcTell Msg}
    (hinitialized : ∀ content ∈ y.2, S.initialized content.1 content.2 = true)
    {ret : RpcReturn Msg} {response : MessageRef} (hresponse : ret.ctx.response = some response)
    (hstatus : ret.status = replyStatus S.server.proto response (S.server.proto.tellMessage y))
    (hcontent : (S.server.proto.tellMessage y).msgType ≠ rpcTypeError → ret.response =
      some (S.server.proto.parseFromString response.typeName
        (S.server.proto.tellMessage y).msgBin).2) : ret.Shows y.2 := by
  obtain ⟨asyncid, _ | ⟨name, message⟩⟩ := y
  · show ret.status = -1
    rw [hstatus]
    rfl
  · intro response' hmem hname
    obtain rfl : response = response' := Option.some.inj (hresponse.symm.trans hmem)
    have hok : (S.server.proto.tellMessage (asyncid, some (name, message))).msgType ≠
        rpcTypeError := by
      show rpcTypeResponse ≠ rpcTypeError
      decide
    have hparse := hlossless.object name message (hinitialized _ rfl)
    have hbin : (S.server.proto.tellMessage (asyncid, some (name, message))).msgBin =
        S.server.proto.serializeToString message := rfl
    rw [hcontent hok, hstatus, replyStatus, if_neg hok, hname, hbin, hparse]
    exact ⟨rfl, rfl⟩

namespace Calling

/-- The connection serves its `EasyRpc`, which has a call that waits. -/
theorem serveBackEnd_eq (h : S.Calling w called returned c) {x : RpcCallMade Msg} (hx : x ∈ called)
    (hnone : x.asyncid ∉ c.tell.past.map Prod.fst) (data : List UInt8) (size : Nat) :
    w.serveBackEnd S.server.proto S.user S.line.net data size =
      (World.resume S.server.proto S.user S.line.rpc data size w).map (·.2) := by
  obtain ⟨rpc, hrpc, _⟩ := Option.bind_eq_some_iff.mp h.up.binding
  obtain ⟨n, hn, heq⟩ := Option.map_eq_some_iff.mp h.up.net
  have hbinded : (w.heap.nets S.line.net).bind (·.rpcBinded) = some S.line.rpc := by
    rw [hn, Option.bind_some]
    exact (Prod.mk.inj heq).1
  have hactive : World.rpcIsActive S.line.rpc w = true := by
    have hmem : x.ticket S.line.rpc ∈
        (Exchange.after w.app.log).waiting.filter (·.owner = S.line.rpc) :=
      List.mem_filter.mpr ⟨h.mem_waiting hx hnone, decide_eq_true rfl⟩
    unfold World.rpcIsActive
    rw [hrpc]
    dsimp only
    rw [h.inv.lists hrpc]
    cases hlist : (Exchange.after w.app.log).waiting.filter (·.owner = S.line.rpc) with
    | nil =>
      rw [hlist] at hmem
      exact absurd hmem List.not_mem_nil
    | cons q qs => rfl
  unfold World.serveBackEnd
  dsimp only
  rw [hbinded]
  dsimp only
  rw [if_pos hactive]

/-- `Resume` with the answer to a call that waits goes through. -/
theorem resume_app (h : S.Calling w called returned c) {x : RpcCallMade Msg} (hx : x ∈ called)
    (hnone : x.asyncid ∉ c.tell.past.map Prod.fst) {data : List UInt8} {size : Nat}
    {msg : RpcMessage} (hunpack : S.server.proto.unpackToRpcMsg data size w.app.rpcMsg = (0, msg))
    (hid : msg.asyncid = x.asyncid)
    (hserve : w.serveBackEnd S.server.proto S.user S.line.net data size = some w') :
    RpcInv S.server.proto w'.app ∧
      w'.app.log = w.app.log ++ [.hear S.line.rpc x.asyncid msg] := by
  obtain ⟨rpc, hrpc, _⟩ := Option.bind_eq_some_iff.mp h.up.binding
  have hfind := h.find_waiting hx hnone
  rw [h.serveBackEnd_eq hx hnone] at hserve
  obtain ⟨⟨ret, w₂⟩, hresume, rfl⟩ := Option.map_eq_some_iff.mp hserve
  obtain ⟨ret', msg', hunpack', hcases⟩ := World.resume_cases S.user h.inv hrpc data size
  obtain ⟨rfl, rfl⟩ := Prod.mk.inj (hunpack'.symm.trans hunpack)
  rw [hid, hfind] at hcases
  obtain ⟨hne, _⟩ | ⟨_, hfind', _⟩ | ⟨q, _, hq, ⟨_, heq⟩ | ⟨w₃, heq, hkeeps⟩⟩ := hcases
  · exact absurd rfl hne
  · cases hfind'
  · rw [heq] at hresume
    cases hresume
  · obtain rfl := Option.some.inj hq
    obtain ⟨_, rfl⟩ := Prod.mk.inj (Option.some.inj (heq.symm.trans hresume))
    refine ⟨(h.inv.answer hrpc (hid ▸ hfind)).keeps hkeeps, ?_⟩
    rw [hkeeps.log, RpcState.answer_log, hid]

/-- The caller is served the next answer: the callback of its call is called. -/
theorem hear (h : S.Calling w called returned c) (hlossless : S.server.proto.Lossless S.initialized)
    {may : RpcContent Msg → Option (RpcContent Msg) → Prop} (hok : c.Ok may) {y : RpcTell Msg}
    {tell : Lane (RpcTell Msg)} (ht : c.tell.Takes y tell)
    (hinitialized : ∀ content ∈ y.2, S.initialized content.1 content.2 = true)
    {data : List UInt8} {size : Nat}
    (hunpack : S.server.proto.unpackToRpcMsg data size w.app.rpcMsg =
      (0, S.server.proto.tellMessage y))
    (hserve : w.serveBackEnd S.server.proto S.user S.line.net data size = some w')
    (hk : S.line.Keeps w w') : ∃ ret, S.line.returns S.server.proto data size w = [ret] ∧
      S.Calling w' called (returned ++ [ret]) { c with tell := tell } := by
  obtain ⟨⟨q, hq, _⟩, hnone⟩ := hok.next ht
  rw [h.ask] at hq
  obtain ⟨x, hx, heq⟩ := List.mem_map.mp hq
  obtain ⟨hid, _⟩ := Prod.mk.inj heq
  rw [← hid] at hnone
  have hasyncid : (S.server.proto.tellMessage y).asyncid = x.asyncid := by
    rw [hid]
    obtain ⟨asyncid, _ | ⟨name, message⟩⟩ := y <;> rfl
  obtain ⟨rpc, hrpc, _⟩ := Option.bind_eq_some_iff.mp h.up.binding
  have hfind := h.find_waiting hx hnone
  have hissue : x.ticket S.line.rpc ∈ Exchange.issues w.app.log :=
    (Exchange.waiting_sublist w.app.log).subset (List.mem_of_find?_eq_some hfind)
  obtain ⟨response, hresponse⟩ := Option.ne_none_iff_exists'.mp (h.responses _ hissue)
  obtain ⟨callback, w₁, hstart, htask⟩ :=
    h.resumeStart_eq hx hnone hunpack hasyncid hrpc hresponse
  have hresponse' : callback.task.response = some response := by rw [htask]; exact hresponse
  obtain ⟨msg, hunpack', hstatus, hmessages⟩ := World.resumeStart_callback hstart hresponse'
  obtain rfl := (Prod.mk.inj (hunpack.symm.trans hunpack')).2
  obtain ⟨hinv, hlog⟩ := h.resume_app hx hnone hunpack hasyncid hserve
  refine ⟨⟨callback.task, callback.status, callback.task.response.map fun r =>
    w₁.app.messages r.addr⟩, by rw [RpcLine.returns, hstart], hinv, ?_, hk.1, hk.2.trans h.output,
    h.ask, ?_, ?_, ?_⟩
  · rw [Responses, hlog, Exchange.issues_append, Exchange.issues, Exchange.issues, List.append_nil]
    exact h.responses
  · rw [hlog, Exchange.issues_append, Exchange.issues, Exchange.issues, List.append_nil]
    exact h.issued
  · rw [hlog, Exchange.after_concat]
    exact h.waiting_answered hx hnone ht hid.symm _
  · rw [ht.past]
    refine List.rel_append h.returned (.cons ⟨?_, x, hx, htask.symm, hid⟩ .nil)
    refine S.shows_tell hlossless hinitialized hresponse' hstatus fun hne => ?_
    rw [hmessages, if_neg hne, hresponse', Option.map_some, Function.update_self]

end Calling

end RpcSetup

end Rapidapp
