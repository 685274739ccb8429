import Rapidapp.Framework.RpcCalls

/-!
# EasyRpc: every call is answered by its own reply

Whatever the frames and however the calls of all `EasyRpc` objects interleave, the tables and the
requests that wait for an answer stay in step (`rpcInv_step`), so the callbacks called are the
answers `Exchange` gives: the callback of a call is called for the first message with its asyncid
that is passed to `Resume` of its `EasyRpc`, with what the call was made with, and for no other
message (`calls_answered`). The two records this compares are written by `Resume`: it puts down
each message it reads (`RpcInv.resume_calls`) and calls the callback that waits for it
(`RpcInv.resume_onReply`).
-/

namespace Rapidapp

variable {υ Msg γ : Type}

section Step

variable {proto : RpcProto Msg} {user : RpcUser υ Msg γ} {w w' : RpcWorld υ Msg γ}

/-- A context that was made and not used. -/
theorem RpcInv.leak {s : RpcState υ Msg} (h : RpcInv proto s) {n : Nat} (hn : s.nextCtx ≤ n) :
    RpcInv proto { s with nextCtx := n } :=
  { h with
    issued := fun q hq => by
      obtain ⟨h₁, h₂, h₃⟩ := h.issued q hq
      exact ⟨h₁, lt_of_lt_of_le h₂ hn, h₃⟩ }

theorem created_le_step {e : RpcEvent γ} (hs : rpcStep proto user w e = some w') :
    w.app.scheduler.created ≤ w'.app.scheduler.created := by
  by_cases he : ∀ r a, e ≠ .call r a
  · exact le_of_eq (rpcStep_within he hs).1.created.symm
  · push Not at he
    obtain ⟨r, a, rfl⟩ := he
    rw [rpcStep] at hs
    obtain ⟨_, n, _, heq⟩ | ⟨_, request, callback, rpc, net, _, _, _, _, ⟨_, heq⟩ | ⟨hcid, heq⟩⟩ :=
      w.rpcCall_cases proto user r a
    · rw [heq] at hs
      cases hs
      exact le_rfl
    · rw [heq] at hs
      cases hs
      exact Nat.le_succ _
    · rw [heq] at hs
      cases hs
      have hcreated := w.app.scheduler.created_started (w.contextOf r request callback a) hcid
      exact (Nat.le_succ _).trans (le_of_eq hcreated.symm)

/-- What the calls of a run were made with. -/
def Responses (s : RpcState υ Msg) : Prop :=
  ∀ q ∈ Exchange.issues s.log, q.val.response ≠ none

variable (user) in
/-- A call, as long as the ids do not run over. -/
theorem rpcInv_call (h : RpcInv proto w.app) (hcount : w.app.scheduler.created < 2 ^ 31)
    (r : RpcPtr) (a : World.RpcArgs) :
    ∃ ret w', w.rpcCall proto user r a = some (ret, w') ∧ RpcInv proto w'.app ∧
      ((ret ≠ 0 ∧ w'.app.log = w.app.log) ∨
        ret = 0 ∧ ∃ request callback, a.request = some request ∧ a.callback = some callback ∧
          w'.app.log = w.app.log ++
            [.issue ⟨r, w.app.asyncidSeed, w.contextOf r request callback a⟩]) := by
  obtain ⟨_, n, hn, heq⟩ |
      ⟨_, request, callback, rpc, net, hrequest, hcallback, hrpc, _, ⟨hcid, _⟩ | ⟨_, heq⟩⟩ :=
    w.rpcCall_cases proto user r a
  · exact ⟨-1, _, heq, h.leak hn, .inl ⟨by decide, rfl⟩⟩
  · rw [CoroutineScheduler.cidSeed_eq hcount] at hcid
    omega
  · exact ⟨0, _, heq, h.register (w.requestBuf proto _) hrpc rfl hcount,
      .inr ⟨rfl, request, callback, hrequest, hcallback, rfl⟩⟩

variable (user) in
/-- A message passed to `Resume` does what it does at the desk of `Exchange`, unless the call it
is for has no response to parse it into. -/
theorem rpcInv_resume (h : RpcInv proto w.app) {r : RpcPtr} {rpc : EasyRpc}
    (hrpc : w.app.rpcs r = some rpc) (data : List UInt8) (size : Nat) :
    (World.resume proto user r data size w = none ∧
        ∃ q ∈ Exchange.issues w.app.log, q.val.response = none) ∨
      ∃ ret w', World.resume proto user r data size w = some (ret, w') ∧ RpcInv proto w'.app ∧
        Exchange.issues w'.app.log = Exchange.issues w.app.log := by
  have hissues : ∀ msg : RpcMessage, Exchange.issues (w.app.log ++ [.hear r msg.asyncid msg]) =
      Exchange.issues w.app.log := fun msg => by
    rw [Exchange.issues_append]; exact List.append_nil _
  obtain ⟨ret, msg, _, ⟨_, heq⟩ | ⟨_, hnone, heq⟩ |
    ⟨q, _, hq, ⟨hnull, heq⟩ | ⟨w', heq, hk⟩⟩⟩ :=
    World.resume_cases user h hrpc data size
  · exact .inr ⟨-1, _, heq, ⟨h.seed, h.table, h.lists, h.bounded, h.issued, h.ordered, h.replies⟩,
      rfl⟩
  · exact .inr ⟨0, _, heq, h.heard hnone, hissues msg⟩
  · have hmem := (Exchange.waiting_sublist w.app.log).subset (List.mem_of_find?_eq_some hq)
    exact .inl ⟨heq, q, hmem, hnull⟩
  · refine .inr ⟨0, w', heq, (h.answer hrpc hq).keeps hk, ?_⟩
    rw [hk.log]
    exact hissues msg

variable (user) in
/-- One event: it takes place, and the tables stay in step. -/
theorem rpcInv_step (h : RpcInv proto w.app) (hresponses : Responses w.app)
    (hcount : w.app.scheduler.created < 2 ^ 31) {e : RpcEvent γ}
    (he : ∀ r a, e = .call r a → a.response ≠ none) :
    ∃ w', rpcStep proto user w e = some w' ∧ RpcInv proto w'.app ∧ Responses w'.app := by
  have hkept : ∀ {s : RpcState υ Msg}, w.app.Keeps s → RpcInv proto s ∧ Responses s := by
    intro s hk
    refine ⟨h.keeps hk, ?_⟩
    rw [Responses, hk.log]
    exact hresponses
  cases e with
  | createRpc type connect newOk => exact ⟨_, rfl, hkept (w.createRpc_keeps type connect newOk)⟩
  | call r a =>
    obtain ⟨ret, w', heq, hinv, hlog⟩ := rpcInv_call user h hcount r a
    refine ⟨w', by rw [rpcStep, heq]; rfl, hinv, ?_⟩
    rcases hlog with ⟨_, hlog⟩ | ⟨_, request, callback, _, _, hlog⟩
    · rw [Responses, hlog]
      exact hresponses
    · rw [Responses, hlog, Exchange.issues_append]
      intro q hq
      rcases List.mem_append.mp hq with hq | hq
      · exact hresponses q hq
      · rw [List.mem_singleton.mp hq]
        exact he r a rfl
  | frame p data size =>
    simp only [rpcStep, World.serveBackEnd]
    split
    · next r _ =>
      split_ifs with hactive
      · cases hrpc : w.app.rpcs r with
        | none =>
          rw [World.rpcIsActive, hrpc] at hactive
          cases hactive
        | some rpc =>
          obtain ⟨_, q, hq, hnull⟩ | ⟨ret, w', heq, hinv, hissues⟩ :=
            rpcInv_resume user h hrpc data size
          · exact absurd hnull (hresponses q hq)
          · refine ⟨w', by rw [heq]; rfl, hinv, ?_⟩
            rw [Responses, hissues]
            exact hresponses
      · exact ⟨_, rfl, hkept (user.onRecvBackEnd_keeps _ _ _ _ _)⟩
    · exact ⟨_, rfl, hkept (user.onRecvBackEnd_keeps _ _ _ _ _)⟩
  | user k => exact ⟨_, rfl, hkept (user.act_keeps k w)⟩
  | connections heap frontend backend => exact ⟨_, rfl, h, hresponses⟩

end Step

/-! ## Over a run -/

/-- All calls of the events have a response to parse their reply into. -/
def WithResponses (es : List (RpcEvent γ)) : Prop :=
  ∀ r a, RpcEvent.call r a ∈ es → a.response ≠ none

theorem rpcInv_run {proto : RpcProto Msg} {user : RpcUser υ Msg γ} {w₀ w : RpcWorld υ Msg γ}
    {es : List (RpcEvent γ)} (h₀ : RpcInv proto w₀.app) (hresponses₀ : Responses w₀.app)
    (hes : WithResponses es) (hrun : Run.run (rpcStep proto user) w₀ es = some w)
    (hcount : w.app.scheduler.created < 2 ^ 31) : RpcInv proto w.app ∧ Responses w.app := by
  have hinv := Run.run_inv
    (I := fun w => w.app.scheduler.created < 2 ^ 31 → RpcInv proto w.app ∧ Responses w.app)
    (P := fun _ e => ∀ r a, e = RpcEvent.call r a → a.response ≠ none) ?_
    (fun _ => ⟨h₀, hresponses₀⟩) (Run.along_of_forall ?_ w₀) hrun
  · exact hinv hcount
  · intro s e s' ih he hs hcount'
    have hle := created_le_step hs
    obtain ⟨h, hresponses⟩ := ih (by omega)
    obtain ⟨w', hw', hinv⟩ := rpcInv_step user h hresponses (by omega) he
    obtain rfl := Option.some.inj (hw'.symm.trans hs)
    exact hinv
  · rintro e he s r a rfl
    exact hes r a he

/-! ## What the callbacks are called for -/

section Statements

variable (proto : RpcProto Msg) (user : RpcUser υ Msg γ) (w : RpcWorld υ Msg γ)

/-- A call that returns 0 is in the log with the `EasyRpc` it was made on, the asyncid its request
is sent with, and what it was made with. -/
def CallsLogged : Prop :=
  ∀ r a w', w.rpcCall proto user r a = some (0, w') → ∃ request callback,
    a.request = some request ∧ a.callback = some callback ∧
    w'.app.log = w.app.log ++ [.issue ⟨r, w.app.asyncidSeed, w.contextOf r request callback a⟩]

/-- The callback of a call has been called for the first message with its asyncid that was passed
to `Resume` of its `EasyRpc` after it was made, with its own context, and for no other. -/
def AnsweredByFirst : Prop :=
  ∀ l q l', w.app.log = l ++ .issue q :: l' →
    w.app.replies.filter (·.ctx.addr = q.val.addr) =
      ((l'.findSome? q.hears).map (RpcTicket.reply proto q)).toList

/-- The status is 0 exactly when the message is no error and parses into the response. -/
def StatusOfMessage : Prop :=
  ∀ l q l' response (msg : RpcMessage), w.app.log = l ++ .issue q :: l' →
    q.val.response = some response →
      ((RpcTicket.reply proto q msg).status = 0 ↔ msg.msgType ≠ rpcTypeError ∧
        (proto.parseFromString response.typeName msg.msgBin).1 = true)

/-- A buffer passed to `Resume` that does not read as a message, or as one whose asyncid is not
that of a call on this `EasyRpc` that is still unanswered, calls no callback and changes no
table. -/
def OthersIgnored : Prop :=
  ∀ r rpc data size ret msg, w.app.rpcs r = some rpc →
    proto.unpackToRpcMsg data size w.app.rpcMsg = (ret, msg) →
    (ret = 0 → ∀ l q l', w.app.log = l ++ .issue q :: l' → q.takes r msg.asyncid →
      (l'.findSome? q.hears).isSome) →
    ∃ ret' w', World.resume proto user r data size w = some (ret', w') ∧
      w'.app.replies = w.app.replies ∧ w'.app.rpcs = w.app.rpcs ∧
      w'.app.scheduler = w.app.scheduler

/-- The program goes on, whatever comes next. -/
def GoesOn : Prop :=
  ∀ e : RpcEvent γ, (∀ r a, e = .call r a → a.response ≠ none) → (rpcStep proto user w e).isSome

end Statements

section Proofs

variable {proto : RpcProto Msg} {user : RpcUser υ Msg γ} {w : RpcWorld υ Msg γ}

theorem RpcInv.callsLogged (h : RpcInv proto w.app)
    (hcount : w.app.scheduler.created < 2 ^ 31) : CallsLogged proto user w := by
  intro r a w' hcall
  obtain ⟨ret, w'', heq, _, ⟨hret, _⟩ | ⟨_, hlog⟩⟩ := rpcInv_call user h hcount r a
  · obtain ⟨rfl, _⟩ := Prod.mk.inj (Option.some.inj (heq.symm.trans hcall))
    exact absurd rfl hret
  · obtain ⟨_, rfl⟩ := Prod.mk.inj (Option.some.inj (heq.symm.trans hcall))
    exact hlog

/-- Calls differ in their contexts as they do in their asyncids. -/
theorem RpcInv.addr_iff {s : RpcState υ Msg} (h : RpcInv proto s) {q q' : RpcTicket}
    (hq : q ∈ Exchange.issues s.log) (hq' : q' ∈ Exchange.issues s.log) :
    q.val.addr = q'.val.addr ↔ q.takes q'.owner q'.id = true := by
  have hids : ((Exchange.issues s.log).map (·.id)).Nodup :=
    List.pairwise_map.mpr (h.ordered.imp fun hlt => Nat.ne_of_lt hlt.1)
  have haddrs : ((Exchange.issues s.log).map (·.val.addr)).Nodup :=
    List.pairwise_map.mpr (h.ordered.imp fun hlt => Nat.ne_of_lt hlt.2)
  constructor
  · intro haddr
    rw [List.inj_on_of_nodup_map haddrs hq hq' haddr]
    exact q'.takes_self
  · intro htakes
    rw [List.inj_on_of_nodup_map hids hq hq' (Exchange.Request.takes_iff.mp htakes).2]

theorem RpcInv.answeredByFirst (h : RpcInv proto w.app) : AnsweredByFirst proto w := by
  intro l q l' hlog
  have hq : q ∈ Exchange.issues w.app.log := by
    rw [hlog, Exchange.issues_append]
    exact List.mem_append_right _ List.mem_cons_self
  have hanswers : (Exchange.after w.app.log).answersTo q.owner q.id =
      ((l'.findSome? q.hears).map (q, ·)).toList := by
    have hdistinct := h.distinct
    rw [hlog] at hdistinct ⊢
    exact (Exchange.after_issue hdistinct).2
  have hfilter : (Exchange.after w.app.log).answered.filter
      (fun a => decide (a.1.val.addr = q.val.addr)) =
        (Exchange.after w.app.log).answersTo q.owner q.id := by
    refine List.filter_congr fun a ha => ?_
    rw [Bool.eq_iff_iff, decide_eq_true_eq]
    exact h.addr_iff (Exchange.mem_issues_of_answered ha) hq
  rw [h.replies, List.filter_map]
  refine (congrArg (List.map _) (hfilter.trans hanswers)).trans ?_
  cases l'.findSome? q.hears <;> rfl

theorem statusOfMessage (proto : RpcProto Msg) (w : RpcWorld υ Msg γ) :
    StatusOfMessage proto w := by
  intro l q l' response msg _ hresponse
  simp only [RpcTicket.reply, hresponse, Option.elim_some, replyStatus]
  split_ifs with herror hparse
  · simp [herror]
  · simp [herror, hparse]
  · simp [hparse]

/-- A call that waits has not been answered. -/
theorem RpcInv.unanswered (h : RpcInv proto w.app) {q : RpcTicket}
    (hq : q ∈ (Exchange.after w.app.log).waiting) :
    ∃ l l', w.app.log = l ++ .issue q :: l' ∧ l'.findSome? q.hears = none := by
  obtain ⟨l, l', hlog⟩ :=
    Exchange.exists_of_mem_issues ((Exchange.waiting_sublist w.app.log).subset hq)
  refine ⟨l, l', hlog, Option.not_isSome_iff_eq_none.mp fun hsome => ?_⟩
  have hdistinct := h.distinct
  rw [hlog] at hdistinct hq
  have hnil := (Exchange.after_issue hdistinct).1.mpr hsome
  exact List.filter_eq_nil_iff.mp hnil q hq q.takes_self

variable (user) in
/-- Where a call waits for the message, `Resume` calls its callback, with its context and the status
of the message; the message is in the log by then. -/
theorem RpcInv.resume_onReply (h : RpcInv proto w.app) {r : RpcPtr} {rpc : EasyRpc}
    (hrpc : w.app.rpcs r = some rpc) {data : List UInt8} {size : Nat} {msg : RpcMessage}
    (hread : proto.unpackToRpcMsg data size w.app.rpcMsg = (0, msg)) {q : RpcTicket}
    (hq : (Exchange.after w.app.log).waiting.find? (·.takes r msg.asyncid) = some q)
    {response : MessageRef} (hresponse : q.val.response = some response) :
    ∃ before : RpcWorld υ Msg γ,
      before.app.log = w.app.log ++ [.hear r msg.asyncid msg] ∧
      before.app.replies = w.app.replies ++ [⟨q.val, replyStatus proto response msg⟩] ∧
      World.resume proto user r data size w =
        some (0, ((user.onReply q.val (replyStatus proto response msg) before).setScheduler
          (w.app.scheduler.finished q.id q.coroutine)).forget r q.id) := by
  have hcrid := h.getCoroutineIdx hrpc msg.asyncid
  rw [hq, Option.elim_some] at hcrid
  have hfind := h.find_waiting (List.mem_of_find?_eq_some hq)
  have halive : w.app.scheduler.coroutineBeenAlive q.id = true := by
    rw [CoroutineScheduler.coroutineBeenAlive, hfind]
    rfl
  obtain ⟨before, hbefore, hlog, hreplies, hsched⟩ :
      ∃ before : RpcWorld υ Msg γ,
        World.rpcFunctionReply proto user q.val
            ((World.setScheduler { w with app := w.app.heard r msg }
              (w.app.scheduler.enter q.id q.coroutine))) =
          some (user.onReply q.val (replyStatus proto response msg) before) ∧
        before.app.log = w.app.log ++ [.hear r msg.asyncid msg] ∧
        before.app.replies = w.app.replies ++ [⟨q.val, replyStatus proto response msg⟩] ∧
        before.app.scheduler = w.app.scheduler.enter q.id q.coroutine := by
    simp only [World.rpcFunctionReply, hresponse]
    exact ⟨_, rfl, rfl, rfl, rfl⟩
  have hkept := (user.onReply_keeps q.val (replyStatus proto response msg) before).scheduler
  rw [hsched] at hkept
  refine ⟨before, hlog, hreplies, ?_⟩
  rw [World.resume_of_read hrpc hread hcrid, halive, if_pos rfl]
  have hstate : (q.coroutine).state = .suspend := rfl
  have htask : (q.coroutine).task = q.val := rfl
  have hidx : (q.coroutine).idx = q.id := rfl
  have hheard : (w.app.heard r msg).scheduler = w.app.scheduler := rfl
  simp only [World.resumeCoroutine, hheard, hfind, hstate, htask, hidx, hbefore, hkept,
    Option.map_some]
  rfl

variable (user) in
/-- `Resume` puts each message it reads into the log, and where a call waits for the message, it
calls the callback of that call, with its context and the status of the message, before it
returns. -/
theorem RpcInv.resume_calls (h : RpcInv proto w.app) (hresponses : Responses w.app) {r : RpcPtr}
    {rpc : EasyRpc} (hrpc : w.app.rpcs r = some rpc) {data : List UInt8} {size : Nat}
    {msg : RpcMessage} (hread : proto.unpackToRpcMsg data size w.app.rpcMsg = (0, msg)) :
    ∃ w', World.resume proto user r data size w = some (0, w') ∧
      w'.app.log = w.app.log ++ [.hear r msg.asyncid msg] ∧
      w'.app.replies = w.app.replies ++
        (((Exchange.after w.app.log).waiting.find? (·.takes r msg.asyncid)).map
          (RpcTicket.reply proto · msg)).toList := by
  obtain ⟨ret, msg', hread',
      ⟨hret, _⟩ | ⟨_, hnone, heq⟩ | ⟨q, _, hq, ⟨hnull, _⟩ | ⟨w', heq, hk⟩⟩⟩ :=
    World.resume_cases user h hrpc data size
  · obtain ⟨rfl, _⟩ := Prod.mk.inj (hread.symm.trans hread')
    exact absurd rfl hret
  · obtain ⟨_, rfl⟩ := Prod.mk.inj (hread.symm.trans hread')
    refine ⟨_, heq, rfl, ?_⟩
    rw [hnone]
    exact (List.append_nil _).symm
  · have hmem := (Exchange.waiting_sublist w.app.log).subset (List.mem_of_find?_eq_some hq)
    exact absurd hnull (hresponses q hmem)
  · obtain ⟨_, rfl⟩ := Prod.mk.inj (hread.symm.trans hread')
    refine ⟨w', heq, hk.log, ?_⟩
    rw [hk.replies, hq]
    rfl

theorem RpcInv.othersIgnored (h : RpcInv proto w.app) : OthersIgnored proto user w := by
  intro r rpc data size ret msg hrpc hread hother
  obtain ⟨ret', msg', hread', ⟨_, heq⟩ | ⟨_, _, heq⟩ | ⟨q, hret, hq, _⟩⟩ :=
    World.resume_cases user h hrpc data size
  · exact ⟨-1, _, heq, rfl, rfl, rfl⟩
  · exact ⟨0, _, heq, rfl, rfl, rfl⟩
  · obtain ⟨rfl, rfl⟩ := Prod.mk.inj (hread.symm.trans hread')
    obtain ⟨l, l', hlog, hnone⟩ := h.unanswered (List.mem_of_find?_eq_some hq)
    have hsome := hother hret l q l' hlog (Exchange.Request.takes_of_find? hq)
    rw [hnone] at hsome
    cases hsome

theorem RpcInv.goesOn (h : RpcInv proto w.app) (hresponses : Responses w.app)
    (hcount : w.app.scheduler.created < 2 ^ 31) : GoesOn proto user w := by
  intro e he
  obtain ⟨w', hs, _⟩ := rpcInv_step user h hresponses hcount he
  rw [hs]
  rfl

end Proofs

/-- Two calls on one connection; the reply to the second comes first, and then once more. -/
def RpcEvent.twoCalls : List (RpcEvent Unit) :=
  [.createRpc 0 (some 7) true, .call 0 .plain, .call 0 .plain, .frame 0 [1, 42] 2,
    .frame 0 [1, 43] 2]

end Rapidapp
