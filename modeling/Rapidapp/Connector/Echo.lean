import Rapidapp.Connector.ConversationRuns
import Rapidapp.Connector.ServerDemo
import Rapidapp.Connector.WireCode

/-!
# What a client sends comes back

The client, the connector and the demo server, each with its own code. The demo server is one of
the servers of a `Conversation`: it accepts a client when it is told of it, and only then it is sent
payloads, which it sends back. So what the application of the client pops is what it has pushed.

That the server does what a server may is proved here (`serve_run`). What a step asks of the
connections, of the application of the client and of its send queue is what `Conversation.step` asks
of them. Of the server there is left: protobuf parses what was written to it (`ParsesAll`), its
writes succeed (`Linked`), and what it writes for one message has less than 2^31 bytes.
-/

namespace Rapidapp.Connector

open World ConnectorSession Framing Decoder ServerDemoApp

/-- A conversation, and the process of its server. -/
structure Echo where
  talk : Conversation
  server : ServerDemoWorld

/-- The server reads back every message that was written to it. -/
def ParsesAll (code : GeneratedCode) : Prop :=
  ∀ m, (code.protobuf.serializeSSMsg m).length < 2 ^ 31 →
    code.parsesSSMsg (code.protobuf.serializeSSMsg m) (code.protobuf.serializeSSMsg m).length = true

namespace Echo

variable (code : GeneratedCode) (debug : Bool) (r : Route) (net : NetPtr)

/-- The demo server is handed the next frame of the connector. -/
def serve (e : Echo) : Option Echo :=
  let out := e.talk.world.output r.server
  match msgDecoder.next (out.drop e.talk.heard) with
  | none => none
  | some n =>
    let msg := payloadBytes out e.talk.heard n
    let m := code.protobuf.parseSSMsg msg (payloadSize n)
    let w := (onRecvFrontEnd code net msg (payloadSize n) e.server).2
    if (w.output net).length < (e.server.output net).length + 2 ^ 31 then
      some
        { talk :=
            { e.talk with
              heard := e.talk.heard + n
              told := e.talk.told ++ [m]
              answers := w.output net
              answered := e.talk.answered ++ answersTo m }
          server := w }
    else none

/-- The actions are those of a conversation, but the server does what its code does. -/
def step (e : Echo) : Action → Option Echo
  | .hear => e.serve code r net
  | .answer _ => none
  | a => (Conversation.step ⟨code.protobuf, debug⟩ r e.talk a).map fun c => { e with talk := c }

end Echo

/-! ## What the demo server writes is what a server may write -/

section Answers

variable {r : Route} {m q : SSMsg}

/-- It goes to the client that the message was about. -/
theorem isFor_of_answersTo (hq : q ∈ answersTo m) : r.isFor q ↔ r.isFor m := by
  unfold answersTo at hq
  split_ifs at hq with hsyn hdata
  · rw [List.mem_singleton.mp hq]
    rfl
  · rw [List.mem_singleton.mp hq]
    rfl
  · cases hq

theorem replyPayload_ackToConn (r : Route) (session : Tuple) :
    replyPayload r (ackToConn session) = none := by
  unfold replyPayload replyOf
  by_cases hfor : r.isFor (ackToConn session)
  · rw [if_pos hfor]
    rfl
  · rw [if_neg hfor]
    rfl

theorem replyPayload_dataToConn (r : Route) (session : Tuple) (data : List UInt8) :
    replyPayload r (dataToConn session data) =
      if r.isFor (dataToConn session data) then some data else none := by
  unfold replyPayload replyOf
  by_cases hfor : r.isFor (dataToConn session data)
  · rw [if_pos hfor, if_pos hfor]
    rfl
  · rw [if_neg hfor, if_neg hfor]
    rfl

/-- And it has the payload of the message. -/
theorem payload_answersTo (r : Route) (m : SSMsg) :
    (answersTo m).filterMap (replyPayload r) = (askPayload r m).toList := by
  unfold askPayload askOf answersTo
  by_cases hsyn : m.head.bodyid = SSBodyCmdId.syn.value
  · rw [if_pos hsyn, if_pos hsyn, List.filterMap_cons_none (replyPayload_ackToConn r _)]
    split_ifs <;> rfl
  by_cases hdata : m.head.bodyid = SSBodyCmdId.data.value
  · rw [if_neg hsyn, if_pos hdata, if_neg hsyn, if_pos hdata, List.filterMap_cons,
      replyPayload_dataToConn]
    have hsame : r.isFor (dataToConn m.head.session (m.body.data.getD [])) ↔ r.isFor m := .rfl
    simp only [hsame]
    split_ifs <;> rfl
  · rw [if_neg hsyn, if_neg hdata, if_neg hsyn, if_neg hdata]
    split_ifs <;> rfl

theorem answersTo_cases (m : SSMsg) : answersTo m = [] ∨ ∃ q, answersTo m = [q] := by
  unfold answersTo
  split_ifs
  · exact .inr ⟨_, rfl⟩
  · exact .inr ⟨_, rfl⟩
  · exact .inl rfl

end Answers

section Serving

variable {code : GeneratedCode} {debug : Bool} {r : Route} {net : NetPtr} {c c' : Conversation}
  {l : Lanes} {s : ConnectorSession}

/-- The server has accepted nobody before it hears of the client, and what it hears from the client
after that carries the session id it gave. -/
theorem mayAnswer (h : Holds code.protobuf r c l s) {m q : SSMsg} {ask : Lane SSMsg}
    (htakes : l.ask.Takes m ask) (htold : m ∈ c'.told) (hanswered : c'.answered = c.answered)
    (hq : q ∈ answersTo m) (hshort : (ssFrame code.protobuf q).length < 2 ^ 31) :
    Conversation.MayAnswer ⟨code.protobuf, debug⟩ r c' q := by
  refine ⟨hshort, fun hfor => ?_⟩
  have hforM := (isFor_of_answersTo hq).mp hfor
  unfold answersTo at hq
  split_ifs at hq with hsyn hdata
  · rw [List.mem_singleton.mp hq]
    have hask : askOf r m = some .start := by
      rw [askOf, if_pos hforM, if_pos hsyn]
    have hnone := h.talk.unanswered (htakes.filterMap_some hask)
    refine .inl ⟨rfl, ⟨m, htold, hforM, hsyn⟩, fun q' hq' hfor' => ?_⟩
    rw [Lanes.talk, Lane.all_filterMap, ← h.answered, ← hanswered] at hnone
    have hsome := List.filterMap_eq_nil_iff.mp hnone q' hq'
    rw [replyOf, if_pos hfor'] at hsome
    cases hsome
  · rw [List.mem_singleton.mp hq]
    have hmem : m ∈ l.ask.all := by
      rw [Lane.all, htakes.ahead]
      simp
    obtain ⟨hne, hlt, q', hq', hrest⟩ := h.asked m hmem hforM hdata
    exact .inr ⟨rfl, hne, hlt, q', by rw [hanswered, h.answered]; exact hq', hrest⟩
  · cases hq

/-- The demo server hears a message and answers it, as a server of a conversation may. -/
theorem serve_run (debug : Bool) {e e' : Echo} (h : Holds code.protobuf r e.talk l s)
    (hpb : Lawful code.protobuf) (hparses : ParsesAll code)
    (hlinked : Linked code e.server net e.talk.answers)
    (hserve : e.serve code r net = some e') :
    ∃ m, e'.talk.told = e.talk.told ++ [m] ∧ e'.talk.answered = e.talk.answered ++ answersTo m ∧
      Run.run (Conversation.step ⟨code.protobuf, debug⟩ r) e.talk
        (.hear :: (answersTo m).map .answer) = some e'.talk ∧
      Linked code e'.server net e'.talk.answers := by
  have hout := h.serves.server.output_eq
  rw [Echo.serve] at hserve
  cases hnext : msgDecoder.next ((e.talk.world.output r.server).drop e.talk.heard) with
  | none =>
    rw [hnext] at hserve
    cases hserve
  | some n =>
    rw [hnext] at hserve
    dsimp only at hserve
    split_ifs at hserve with hgrow
    obtain rfl := Option.some.inj hserve
    have hnext' := hnext
    rw [hout] at hnext'
    obtain ⟨m, ask, htakes, rfl, htake, _⟩ := h.ask.take hnext'
    have hshort := h.shortAsk m (by rw [Lane.all, htakes.ahead]; simp)
    obtain ⟨hbytes, hsize⟩ := hpb.payload_ss hshort htake
    have hfits := (hpb.sendableSS hshort).fits
    have hpos := List.length_pos_iff.mpr (hpb.ne_nilSS m)
    rw [hout, hbytes, hsize]
    have hparse := hpb.parseSS m (by omega)
    have hserved := hlinked.onRecvFrontEnd hpb.ne_nilSS (by omega) (hparses m (by omega)) hparse
    have hanswers := hserved.wired.output_eq
    rw [hout, hbytes, hsize, hanswers, hlinked.wired.output_eq, List.length_append] at hgrow
    rw [hanswers, hparse]
    refine ⟨m, rfl, rfl, ?_, hserved⟩
    set c₁ : Conversation :=
      { e.talk with
        heard := e.talk.heard + (ssFrame code.protobuf m).length
        told := e.talk.told ++ [m] } with hc₁
    have hhear : Conversation.step ⟨code.protobuf, debug⟩ r e.talk .hear = some c₁ := by
      rw [Conversation.step, hnext, hc₁]
      dsimp only
      rw [hout, hbytes, hsize, hparse]
    refine Run.run_cons_some.mpr ⟨c₁, hhear, ?_⟩
    obtain hnil | ⟨q, hq⟩ := answersTo_cases m
    · rw [hnil, stream_nil, List.append_nil, List.append_nil]
      rfl
    · rw [hq, stream_singleton] at hgrow ⊢
      have htold : m ∈ c₁.told := List.mem_append_right _ (List.mem_singleton_self m)
      have hmay : Conversation.MayAnswer ⟨code.protobuf, debug⟩ r c₁ q :=
        mayAnswer h htakes htold rfl (hq ▸ List.mem_singleton_self q) (by omega)
      rw [List.map_singleton, Run.run_singleton]
      exact if_pos hmay

/-- Only the server hears, and only the server writes to the connector. -/
theorem step_keeps {app : ConnectorApp} {a : Action} (h : Conversation.step app r c a = some c')
    (hhear : a ≠ .hear) (hanswer : ∀ m, a ≠ .answer m) :
    c'.told = c.told ∧ c'.answered = c.answered ∧ c'.answers = c.answers := by
  cases a with
  | client e =>
    cases e with
    | update net | pushMessage data send | peekMessage | popMessage =>
      rw [Conversation.step] at h
      split_ifs at h
      rw [← Option.some.inj h]
      exact ⟨rfl, rfl, rfl⟩
  | hand =>
    rw [Conversation.step] at h
    split at h
    · cases h
    · dsimp only at h
      split_ifs at h
      rw [← Option.some.inj h]
      exact ⟨rfl, rfl, rfl⟩
  | elsewhere e =>
    rw [Conversation.step] at h
    split at h
    · cases h
    · split_ifs at h
      rw [← Option.some.inj h]
      exact ⟨rfl, rfl, rfl⟩
  | hear => exact absurd rfl hhear
  | answer m => exact absurd rfl (hanswer m)
  | relay =>
    rw [Conversation.step] at h
    split at h
    · cases h
    · dsimp only at h
      split_ifs at h
      rw [← Option.some.inj h]
      exact ⟨rfl, rfl, rfl⟩

end Serving

namespace Echo

/-- The connector has accepted the client, and the demo server is connected to the connector. -/
structure Start (code : GeneratedCode) (debug : Bool) (r : Route) (net : NetPtr)
    (asks replies : Lane SSMsg) (e : Echo) : Prop where
  talk : Connector.Start ⟨code.protobuf, debug⟩ r asks replies e.talk
  server : Linked code e.server net e.talk.answers

/-- What is the case after a run: it is a run of a conversation, and the payloads the server has
had are those it has written. -/
structure Echoes (code : GeneratedCode) (debug : Bool) (r : Route) (net : NetPtr)
    (c : Conversation) (e : Echo) : Prop where
  talk : ∃ es, Run.run (Conversation.step ⟨code.protobuf, debug⟩ r) c es = some e.talk
  server : Linked code e.server net e.talk.answers
  payloads : e.talk.answered.filterMap (replyPayload r) = e.talk.told.filterMap (askPayload r)

variable {code : GeneratedCode} {debug : Bool} {r : Route} {net : NetPtr} {asks replies : Lane SSMsg}
  {e e' : Echo} {c : Conversation}

theorem Start.echoes (h : Start code debug r net asks replies e) :
    Echoes code debug r net e.talk e where
  talk := ⟨[], rfl⟩
  server := h.server
  payloads := by
    have hnone : ∀ m, ¬ r.isFor m → askPayload r m = none ∧ replyPayload r m = none := by
      intro m hm
      rw [askPayload, askOf, if_neg hm, replyPayload, replyOf, if_neg hm]
      exact ⟨rfl, rfl⟩
    rw [h.talk.answered, h.talk.told]
    rw [List.filterMap_eq_nil_iff.mpr fun m hm =>
      (hnone m (h.talk.others m (List.mem_append_right _ hm))).2]
    rw [List.filterMap_eq_nil_iff.mpr fun m hm =>
      (hnone m (h.talk.others m (List.mem_append_left _ (asks.past_prefix.subset hm)))).1]

theorem Echoes.step (hstart : Connector.Start ⟨code.protobuf, debug⟩ r asks replies c)
    (hpb : Lawful code.protobuf) (hparses : ParsesAll code) (h : Echoes code debug r net c e)
    {a : Action} (hstep : e.step code debug r net a = some e') :
    Echoes code debug r net c e' := by
  obtain ⟨es, hrun⟩ := h.talk
  have hlifted : ∀ {a : Action}, a ≠ .hear → (∀ m, a ≠ .answer m) →
      (Conversation.step ⟨code.protobuf, debug⟩ r e.talk a).map (fun c => { e with talk := c }) =
        some e' → Echoes code debug r net c e' := by
    intro a hhear hanswer hmap
    obtain ⟨c', hc', rfl⟩ := Option.map_eq_some_iff.mp hmap
    obtain ⟨htold, hanswered, hanswers⟩ := step_keeps hc' hhear hanswer
    refine ⟨⟨es ++ [a], Run.run_concat_some.mpr ⟨_, hrun, hc'⟩⟩, ?_, ?_⟩
    · dsimp only
      rw [hanswers]
      exact h.server
    · dsimp only
      rw [hanswered, htold]
      exact h.payloads
  cases a with
  | client event => exact hlifted (a := .client event) nofun nofun hstep
  | hand => exact hlifted (a := .hand) nofun nofun hstep
  | elsewhere event => exact hlifted (a := .elsewhere event) nofun nofun hstep
  | relay => exact hlifted (a := .relay) nofun nofun hstep
  | answer m => cases hstep
  | hear =>
    obtain ⟨l, s, _, hholds⟩ := Conversation.holds_run hpb hstart hrun
    obtain ⟨m, htold, hanswered, hserved, hlinked⟩ := serve_run debug hholds hpb hparses
      h.server hstep
    refine ⟨⟨es ++ .hear :: (answersTo m).map .answer, Run.run_append_some.mpr ⟨_, hrun, hserved⟩⟩,
      hlinked, ?_⟩
    rw [hanswered, htold, List.filterMap_append, List.filterMap_append, h.payloads,
      payload_answersTo, List.filterMap_cons, List.filterMap_nil]
    cases askPayload r m <;> rfl

theorem parsesAll_wire : ParsesAll Wire.code := by
  intro m hm
  rw [Wire.protobuf_code] at hm ⊢
  have hparse := Wire.lawful_protobuf.parseSS m hm
  simp only [Wire.protobuf] at hparse
  simp only [Wire.code, Wire.protobuf, hparse, decide_true]

/-- The demo server, once the connector has connected to it. -/
def linkedServer : ServerDemoWorld :=
  (World.start {} (fun _ => true) .small .small .normal 0).openAt .frontEnd 5 0 .netEstablished

def calling : Echo where
  talk := hello
  server := linkedServer

theorem start_calling : Start Wire.code false greetingRoute 0 .empty .empty calling where
  talk := by
    rw [Wire.protobuf_code]
    exact start_hello
  server := ⟨fun _ => rfl, ⟨_, 0, _, live_openAt _ .frontEnd 5 0 .netEstablished, rfl, rfl⟩,
    ConnectorServerApi.clean_new _⟩

/-- The handshake, and one payload there and back. -/
def roundTrip : List Action :=
  [.client (.update { check := 0, send := .sent 100 }), .hand,
    .client (.update
      { recv := .received (Client.frame Wire.protobuf keyMakingMsg)
        send := .sent 100 }),
    .hand, .hear, .relay,
    .client (.update { recv := .received (Client.frame Wire.protobuf authMsg) }),
    .client (.update { recv := .received (Client.frame Wire.protobuf startAckedMsg) }),
    .client (.update {}), .client (.pushMessage [104, 105] (.sent 100)), .hand, .hear, .relay,
    .client (.update
      { recv := .received (Client.frame Wire.protobuf (downSideMsg 0 [104, 105])) }),
    .client .peekMessage, .client .popMessage]

theorem run_roundTrip :
    ∃ e, Run.run (step Wire.code false greetingRoute 0) calling roundTrip = some e ∧
      e.talk.AllHeard greetingRoute ∧ e.talk.AllTaken greetingRoute ∧
      e.talk.pushed = [[104, 105]] := by
  have hrun : ((Run.run (step Wire.code false greetingRoute 0) calling roundTrip).any fun e =>
      decide ((e.talk.client.tcpSock.sendBuf.content = [] ∧
        e.talk.handed = e.talk.client.sent.length ∧
        e.talk.heard = (e.talk.world.output greetingRoute.server).length) ∧
        (e.talk.relayed = e.talk.answers.length ∧
          e.talk.received = (e.talk.world.output greetingRoute.client).length ∧
          e.talk.client.content = []) ∧
        e.talk.pushed = [[104, 105]])) = true := by
    decide +kernel
  obtain ⟨e, he, hdone⟩ := (Option.any_eq_true _ _).mp hrun
  obtain ⟨⟨h1, h2, h3⟩, ⟨h4, h5, h6⟩, hpushed⟩ := of_decide_eq_true hdone
  exact ⟨e, he, ⟨h1, h2, h3⟩, ⟨h4, h5, h6⟩, hpushed⟩

end Echo

end Rapidapp.Connector
