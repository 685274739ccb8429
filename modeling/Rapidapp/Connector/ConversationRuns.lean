import Rapidapp.Connector.ConversationStart
import Rapidapp.Connector.Handshake

/-!
# Runs of a conversation

Whatever the three programs do one after another, and however their bytes arrive, they do it as
`Talk` has it. From that come the agreement on the handshake and the order of the payloads, both
ways, through the connector.
-/

namespace Rapidapp.Connector

open TSocketUtil World ConnectorSession Framing Decoder

/-- The payload of a message to the server about the client. -/
def askPayload (r : Route) (m : SSMsg) : Option (List UInt8) := (askOf r m).bind Ask.payload

/-- The payload of a message of the server about the client. -/
def replyPayload (r : Route) (m : SSMsg) : Option (List UInt8) := (replyOf r m).bind Reply.payload

/-- The four lanes, as the bytes of the three programs and their counters tell them. -/
structure Reads (pb : Protobuf) (r : Route) (c : Conversation) (l : Lanes) : Prop where
  queued : c.client.queued = l.up.all
  up : c.client.stream = stream (Client.frame pb) l.up.all
  handed : c.handed = (stream (Client.frame pb) l.up.past).length
  ask : c.world.output r.server = stream (ssFrame pb) l.ask.all
  heard : c.heard = (stream (ssFrame pb) l.ask.past).length
  told : c.told = l.ask.past
  reply : c.answers = stream (ssFrame pb) l.reply.all
  relayed : c.relayed = (stream (ssFrame pb) l.reply.past).length
  answered : c.answered = l.reply.all
  down : c.world.output r.client = stream (Client.frame pb) l.down.all
  taken : c.received = (stream (Client.frame pb) l.down.past).length + c.client.content.length

namespace Conversation

/-- Every byte for the server has been sent and handled. -/
structure AllHeard (r : Route) (c : Conversation) : Prop where
  queue : c.client.tcpSock.sendBuf.content = []
  handed : c.handed = c.client.sent.length
  heard : c.heard = (c.world.output r.server).length

/-- Every byte for the client has been received, and every payload was taken. -/
structure AllTaken (r : Route) (c : Conversation) : Prop where
  relayed : c.relayed = c.answers.length
  received : c.received = (c.world.output r.client).length
  content : c.client.content = []

end Conversation

namespace Holds

variable {pb : Protobuf} {r : Route} {c : Conversation} {l : Lanes} {s : ConnectorSession}

theorem reads (h : Holds pb r c l s) : Reads pb r c l where
  queued := h.queued.symm
  up := by rw [h.queued]; exact h.inStep.sound.stream
  handed := h.up.pos_eq
  ask := h.serves.server.output_eq
  heard := h.ask.pos_eq
  told := h.told
  reply := h.answers
  relayed := h.reply.pos_eq
  answered := h.answered
  down := h.serves.client.output_eq
  taken := by
    have hle := h.down.pos_le
    have hlen : (l.had pb c.received).length = c.received := by
      rw [Lanes.had, List.length_take, min_eq_left h.received]
    rw [h.content, List.length_drop, hlen]
    rw [hlen] at hle
    omega

/-- What the server has had of the payloads. -/
theorem told_payloads (h : Holds pb r c l s) :
    c.told.filterMap (askPayload r) = (l.talk r).ask.past.filterMap Ask.payload := by
  rw [h.told, Lanes.talk, Lane.past_filterMap, List.filterMap_filterMap]
  rfl

theorem answered_payloads (h : Holds pb r c l s) :
    c.answered.filterMap (replyPayload r) = (l.talk r).reply.all.filterMap Reply.payload := by
  rw [h.answered, Lanes.talk, Lane.all_filterMap, List.filterMap_filterMap]
  rfl

/-- The server has the payloads of the client, in their order, up to what is still on its way. -/
theorem told_prefix (h : Holds pb r c l s) : c.told.filterMap (askPayload r) <+: c.pushed := by
  have hpushed := h.talk.pushed_eq
  rw [h.pushed, List.append_assoc] at hpushed
  rw [h.told_payloads, hpushed]
  exact List.prefix_append _ _

theorem popped_prefix (h : Holds pb r c l s) :
    c.popped <+: c.answered.filterMap (replyPayload r) := by
  have hanswered := h.talk.answered_eq
  rw [h.popped, List.append_assoc] at hanswered
  rw [h.answered_payloads, hanswered]
  exact List.prefix_append _ _

/-- All that the client has queued has come to the server. -/
theorem told_eq (h : Holds pb r c l s) (hall : c.AllHeard r) :
    c.told.filterMap (askPayload r) = c.pushed := by
  have hsent : c.client.sent = stream (Client.frame pb) l.up.all := by
    have hstream := h.reads.up
    rwa [Client.stream, hall.queue, List.append_nil] at hstream
  have hup : l.up.ahead = [] := by
    have hcarries := h.up
    rw [hsent] at hcarries
    exact hcarries.ahead_eq_nil (hsent ▸ hall.handed)
  have hask : l.ask.ahead = [] := h.ask.ahead_eq_nil (by rw [← h.reads.ask]; exact hall.heard)
  have hpushed := h.talk.pushed_eq
  rw [h.pushed] at hpushed
  rw [h.told_payloads, hpushed, Lanes.talk, Lane.ahead_filterMap, Lane.ahead_filterMap, hup, hask]
  simp

/-- All that the server has written has come to the application of the client. -/
theorem popped_eq (h : Holds pb r c l s) (hall : c.AllTaken r) :
    c.popped = c.answered.filterMap (replyPayload r) := by
  have hreads := h.reads
  have hreply : l.reply.ahead = [] := by
    refine h.reply.ahead_eq_nil ?_
    rw [← h.answers]
    exact hall.relayed
  have hdown : l.down.ahead = [] := by
    have hlen := hreads.taken
    rw [hall.content, List.length_nil, hall.received, hreads.down] at hlen
    have hhad : l.had pb c.received = stream (Client.frame pb) l.down.all := by
      rw [Lanes.had, hall.received, hreads.down, List.take_length]
    have hcarries := h.down
    rw [hhad] at hcarries
    exact hcarries.ahead_eq_nil hlen.symm
  have hanswered := h.talk.answered_eq
  rw [h.popped] at hanswered
  rw [h.answered_payloads, hanswered, Lanes.talk, Lane.ahead_filterMap, Lane.ahead_filterMap,
    hreply, hdown]
  simp

/-! ## The handshake -/

/-- A session in `STATE_OK`: the server was told of the client and has accepted it. -/
theorem accepted_of_ok (h : Holds pb r c l s) (hok : s.state = .stateOk) :
    (∃ m ∈ c.told, r.isFor m ∧ m.head.bodyid = SSBodyCmdId.syn.value) ∧
      ∃ m ∈ c.answered, r.isFor m ∧ m.head.bodyid = SSBodyCmdId.ack.value ∧
        m.head.session.sid = s.sid := by
  have hpast : (l.talk r).reply.past ≠ [] := by
    intro hnil
    have hstate := h.session.state
    rw [hok, hnil, List.length_nil] at hstate
    unfold stateFor at hstate
    split at hstate
    · cases hstate
    · cases hstate
    · rw [if_pos rfl] at hstate
      cases hstate
  have hne : (l.talk r).reply.all ≠ [] := List.append_ne_nil_of_left_ne_nil hpast _
  refine ⟨?_, ?_⟩
  · obtain ⟨m, hm, hask⟩ := List.mem_filterMap.mp (h.talk.started hne)
    refine ⟨m, h.told ▸ hm, ?_⟩
    unfold askOf at hask
    split_ifs at hask with hfor hid hid' <;> cases hask
    exact ⟨hfor, hid⟩
  · rw [h.answered]
    exact h.exists_ack hpast

/-- A client that is done has taken the three messages of the handshake. -/
theorem taken_of_done (h : Holds pb r c l s)
    (hdone : c.client.sessionState = .sessionStateDone) : 3 ≤ (l.talk r).down.past.length := by
  rw [length_talk_down]
  obtain ⟨_, hconnecting, _⟩ | ⟨_, hstate⟩ := h.client.stage
  · rw [hconnecting.state] at hdone
    cases hdone
  · rw [hstate] at hdone
    match hlen : l.down.past.length, hdone with
    | _ + 3, _ => omega

theorem done_of_succeeded (h : Holds pb r c l s) (hdone : c.Succeeded) :
    c.client.sessionState = .sessionStateDone :=
  (h.client.done (h.client.flag (h.client.told hdone))).2

theorem ok_of_done (h : Holds pb r c l s)
    (hdone : c.client.sessionState = .sessionStateDone) : s.state = .stateOk := by
  have hpast := h.talk.accepted (h.taken_of_done hdone)
  have htwo := h.talk.authed (List.append_ne_nil_of_left_ne_nil hpast _)
  obtain ⟨k, hk⟩ := Nat.exists_eq_add_of_le htwo
  have hstate := h.session.state
  rw [length_talk_up] at hk
  rw [hk, Nat.add_comm, stateFor, if_neg (List.length_eq_zero_iff.not.mpr hpast)] at hstate
  exact hstate

end Holds

/-! ## What the connector writes -/

/-- The kind of message that means this. -/
def Down.bodyid : Down (List UInt8) → Int32
  | .synack => CSBodyCmdId.synack.value
  | .passport => CSBodyCmdId.passport.value
  | .start => CSBodyCmdId.startApp.value
  | .data _ => CSBodyCmdId.dataTransparent.value
  | .other => 0

theorem bodyid_of_downOf {m : CSMsg} (h : downOf m ≠ .other) :
    m.head.bodyid = (downOf m).bodyid := by
  unfold downOf at h ⊢
  split_ifs at h ⊢ <;> first | assumption | exact absurd rfl h

theorem bodyids_of_downOf {ms : List CSMsg} {ds : List (Down (List UInt8))}
    (h : ms.map downOf = ds) (hds : .other ∉ ds) :
    ms.map (·.head.bodyid) = ds.map Down.bodyid := by
  subst h
  rw [List.map_map]
  refine List.map_congr_left fun m hm => bodyid_of_downOf fun hother => hds ?_
  exact hother ▸ List.mem_map_of_mem hm

/-! ## A client that says hello -/

/-- A connector that has come to be connected to its server. -/
def greetingWorld : ConnectorWorld :=
  (ConnectorApp.onInitBackEnd (some 3)
    (ConnectorWorld.start (fun _ => true) .small .small 0)).onBackEndSocketEvent 0
      { connected := true }

/-- The next client has the descriptor 7. -/
def greetingRoute : Route := ⟨1, 0, 7, 2, by decide, by decide⟩

theorem ready_greeting : Ready greetingRoute greetingWorld [] where
  inv := by
    have hinv : Inv (ConnectorApp.onInitBackEnd (some 3)
        (ConnectorWorld.start (fun _ => true) .small .small 0)) := by
      refine (onInitBackEnd_spec (Inv.start _ .small .small 0) ?_).1
      rintro fd ⟨⟩
      exact FdUnused.freshFd (Inv.start _ .small .small 0).ok (by decide +kernel)
    exact (step_session (c := .greeting) hinv (e := .backEndSocket 0 { connected := true }) rfl).1
  fate _ := rfl
  backEnds := rfl
  server := ⟨_, 0, _, ⟨rfl, rfl, rfl⟩, rfl, rfl⟩
  client := rfl
  nid := rfl

/-- The client of it. -/
def hello : Conversation where
  client := .start ⟨[97], [98], [99]⟩ 7
  world := opened greetingRoute greetingWorld

theorem start_hello : Start .greeting greetingRoute .empty .empty hello where
  client := ⟨_, 7, by decide, rfl⟩
  world := ⟨_, ready_greeting, by decide +kernel, rfl⟩
  few := by decide +kernel
  ask := .empty
  told := rfl
  reply := .empty
  answers := rfl
  answered := rfl
  others := nofun
  short := nofun
  handed := rfl
  received := rfl
  pushed := rfl
  popped := rfl

/-- The server accepts the client. -/
def acceptMsg : SSMsg where
  head := { bodyid := SSBodyCmdId.ack.value, session := greetingRoute.tuple 5 }

/-- And answers it. -/
def answerMsg : SSMsg where
  head := { bodyid := SSBodyCmdId.data.value, session := greetingRoute.tuple 5 }
  body := { data := some [72, 105] }

/-- The handshake, then one payload each way. -/
def greetings : List Action :=
  [.client (.update { check := 0, send := .sent 100 }), .hand,
    .client (.update
      { recv := .received (Client.frame Wire.protobuf keyMakingMsg)
        send := .sent 100 }),
    .hand, .hear, .answer acceptMsg, .relay,
    .client (.update { recv := .received (Client.frame Wire.protobuf authMsg) }),
    .client (.update { recv := .received (Client.frame Wire.protobuf startAckedMsg) }),
    .client (.update {}), .client (.pushMessage [104, 105] (.sent 100)), .hand, .hear,
    .answer answerMsg, .relay,
    .client (.update
      { recv := .received (Client.frame Wire.protobuf (downSideMsg 0 [72, 105])) }),
    .client .peekMessage, .client .popMessage]

theorem run_greetings :
    ∃ c, Run.run (Conversation.step .greeting greetingRoute) hello greetings = some c ∧
      c.Succeeded ∧ c.AllHeard greetingRoute ∧ c.AllTaken greetingRoute ∧
      c.pushed = [[104, 105]] ∧ c.popped = [[72, 105]] := by
  have hrun : ((Run.run (Conversation.step .greeting greetingRoute) hello greetings).any fun c =>
      decide (c.Succeeded ∧ (c.client.tcpSock.sendBuf.content = [] ∧
        c.handed = c.client.sent.length ∧
        c.heard = (c.world.output greetingRoute.server).length) ∧
        (c.relayed = c.answers.length ∧
          c.received = (c.world.output greetingRoute.client).length ∧ c.client.content = []) ∧
        c.pushed = [[104, 105]] ∧ c.popped = [[72, 105]])) = true := by
    decide +kernel
  obtain ⟨c, hc, hdone⟩ := (Option.any_eq_true _ _).mp hrun
  obtain ⟨hsucceeded, ⟨h1, h2, h3⟩, ⟨h4, h5, h6⟩, hpushed, hpopped⟩ := of_decide_eq_true hdone
  exact ⟨c, hc, hsucceeded, ⟨h1, h2, h3⟩, ⟨h4, h5, h6⟩, hpushed, hpopped⟩

/-! ## What every run comes to -/

namespace Conversation

variable {app : ConnectorApp} {r : Route} {asks replies : Lane SSMsg} {c c' : Conversation}
  {es : List Action}

/-- Every run is a run of `Talk`. -/
theorem holds_run (hpb : Lawful app.pb) (hstart : Start app r asks replies c)
    (hrun : Run.run (step app r) c es = some c') :
    ∃ l s, Talk.Steps .start (l.talk r) ∧ Holds app.pb r c' l s := by
  refine Run.run_preserves (I := fun c => ∃ l s, Talk.Steps .start (Lanes.talk r l) ∧
    Holds app.pb r c l s) ?_ ⟨_, _, hstart.talk_start ▸ .refl, hstart.holds⟩ hrun
  rintro c e c' ⟨l, s, hsteps, h⟩ hstep
  obtain ⟨l', s', hadvances, h'⟩ := h.step hpb hstep
  refine ⟨l', s', ?_, h'⟩
  obtain heq | hone := (Relation.reflGen_iff _ _ _).mp hadvances
  · rwa [heq]
  · exact hsteps.tail hone

end Conversation

end Rapidapp.Connector
