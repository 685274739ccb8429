import Rapidapp.Connector.Conversation
import Rapidapp.Connector.ClientSent

/-!
# What holds of a conversation

The messages between the three programs are four lanes, and what the three are in is told by how
far the lanes have got. Every action of the conversation is a step of `Talk`, or none at all; so
what `Talk.Ok` says of the lanes is what the client, the session and the server can rely on.
-/

namespace Rapidapp.Connector

open TSocketUtil World ConnectorSession Framing Decoder

namespace ConnectorSession

/-- A session that accepts some messages accepts each behind those before it. -/
theorem Accepts.next {s : ConnectorSession} {ms rest : List CSMsg} {m : CSMsg}
    (h : s.Accepts (ms ++ m :: rest)) : ((s.afterMessages ms).checkUpSideMessage m).1 = 0 := by
  induction ms generalizing s with
  | nil => exact h.1
  | cons a ms ih => exact ih h.2

/-- Only the number of the last message counts. -/
theorem checkUpSideMessage_congr {s s' : ConnectorSession} (h : s.lastSeq = s'.lastSeq)
    (m : CSMsg) : (s.checkUpSideMessage m).1 = (s'.checkUpSideMessage m).1 := by
  unfold checkUpSideMessage
  rw [h]
  split_ifs <;> rfl

end ConnectorSession

/-- The messages in the four directions. -/
structure Lanes where
  up : Lane CSMsg
  ask : Lane SSMsg
  reply : Lane SSMsg
  down : Lane CSMsg

/-- What they mean for the client. -/
def Lanes.talk (r : Route) (l : Lanes) : Talk (List UInt8) where
  up := l.up.filterMap fun m => some (upOf m)
  ask := l.ask.filterMap (askOf r)
  reply := l.reply.filterMap (replyOf r)
  down := l.down.filterMap fun m => some (downOf m)

section Talk

variable (r : Route) (l : Lanes)

theorem talk_put_up (ms : List CSMsg) :
    Lanes.talk r { l with up := l.up.put ms } =
      { l.talk r with up := (l.talk r).up.put (ms.map upOf) } := by
  simp [Lanes.talk, Lane.filterMap_put]

theorem talk_take_down (down : Lane CSMsg) :
    Lanes.talk r { l with down := down } =
      { l.talk r with down := down.filterMap fun m => some (downOf m) } := rfl

theorem length_talk_down : (l.talk r).down.past.length = l.down.past.length := by
  simp [Lanes.talk]

variable {r l}

theorem takes_talk_down {m : CSMsg} {down : Lane CSMsg} (h : l.down.Takes m down) :
    (l.talk r).down.Takes (downOf m) (down.filterMap fun m => some (downOf m)) :=
  h.filterMap_some rfl

end Talk

/-- The state of the session after so many messages of the client, and of the server. -/
def stateFor (handed relayed : Nat) : SessionState :=
  match handed with
  | 0 => .stateInit
  | 1 => .stateAuth
  | _ + 2 => if relayed = 0 then .stateSynack else .stateOk

/-- The session of the client. -/
structure InSession (r : Route) (l : Lanes) (s : ConnectorSession) : Prop where
  frameStub : s.frameStub = true
  lastSeq : s.lastSeq = (ConnectorSession.new.afterMessages l.up.past).lastSeq
  state : s.state = stateFor l.up.past.length (l.talk r).reply.past.length
  sid : ∃ sid, (∀ m ∈ l.reply.all, r.isFor m → m.head.session.sid = sid) ∧
    ((l.talk r).reply.past ≠ [] → s.sid = sid)

/-- The bytes for the client that it has had. -/
def Lanes.had (pb : Protobuf) (l : Lanes) (received : Nat) : List UInt8 :=
  (stream (Client.frame pb) l.down.all).take received

/-- What a payload of the server is like. -/
def Carriable (r : Route) (m : SSMsg) : Prop :=
  r.isFor m → m.head.bodyid = SSBodyCmdId.data.value →
    m.body.data.getD [] ≠ [] ∧ (m.body.data.getD []).length < 2 ^ 30

/-- A payload of the client for the server, which has accepted the client under this session id. -/
def Answerable (r : Route) (answered : List SSMsg) (m : SSMsg) : Prop :=
  r.isFor m → m.head.bodyid = SSBodyCmdId.data.value →
    m.body.data.getD [] ≠ [] ∧ (m.body.data.getD []).length < 2 ^ 30 ∧
      ∃ q ∈ answered, r.isFor q ∧ q.head.bodyid = SSBodyCmdId.ack.value ∧
        q.head.session.sid = m.head.session.sid

theorem Answerable.mono {r : Route} {answered answered' : List SSMsg} {m : SSMsg}
    (h : Answerable r answered m) (hle : answered ⊆ answered') : Answerable r answered' m := by
  intro hfor hid
  obtain ⟨hne, hlt, q, hq, hrest⟩ := h hfor hid
  exact ⟨hne, hlt, q, hle hq, hrest⟩

/-- What holds of a conversation, its lanes and the session. -/
structure Holds (pb : Protobuf) (r : Route) (c : Conversation) (l : Lanes) (s : ConnectorSession) :
    Prop where
  talk : (l.talk r).Ok
  inStep : Client.InStep pb c.client
  queued : l.up.all = c.client.queued
  short : ∀ m ∈ c.client.queued, (Client.frame pb m).length ≤ kMaxPkgSize * 2
  up : Carries msgDecoder (Client.frame pb) c.client.sent c.handed l.up
  few : (c.world.heap.nextNet : Int) < 2 ^ 31
  serves : Serves r c.world s (stream (Client.frame pb) l.down.all) (stream (ssFrame pb) l.ask.all)
  session : InSession r l s
  ask : Carries msgDecoder (ssFrame pb) (stream (ssFrame pb) l.ask.all) c.heard l.ask
  told : c.told = l.ask.past
  answers : c.answers = stream (ssFrame pb) l.reply.all
  reply : Carries msgDecoder (ssFrame pb) (stream (ssFrame pb) l.reply.all) c.relayed l.reply
  answered : c.answered = l.reply.all
  carriable : ∀ m ∈ l.reply.all, Carriable r m
  asked : ∀ m ∈ l.ask.all, Answerable r l.reply.all m
  shortAsk : ∀ m ∈ l.ask.all, (ssFrame pb m).length < 2 ^ 31
  shortReply : ∀ m ∈ l.reply.all, (ssFrame pb m).length < 2 ^ 31
  shortDown : ∀ m ∈ l.down.all, (Client.frame pb m).length < 2 ^ 31
  down : Carries pkgDecoder (Client.frame pb) (l.had pb c.received)
    (stream (Client.frame pb) l.down.past).length l.down
  received : c.received ≤ (stream (Client.frame pb) l.down.all).length
  content : c.client.content =
    (l.had pb c.received).drop (stream (Client.frame pb) l.down.past).length
  client : c.client.At l.down.past.length
  pushed : (l.talk r).up.all.filterMap Up.payload = c.pushed
  solid : ∀ d ∈ c.pushed, d ≠ []
  popped : (l.talk r).down.past.filterMap Down.payload = c.popped

/-- What happens means nothing to the client, or it is a step of `Talk`. -/
def Advances (r : Route) (l l' : Lanes) : Prop :=
  Relation.ReflGen Talk.Step (l.talk r) (l'.talk r)

theorem Advances.ok {r : Route} {l l' : Lanes} (h : Advances r l l') (hok : (l.talk r).Ok) :
    (l'.talk r).Ok := by
  obtain heq | hstep := (Relation.reflGen_iff _ _ _).mp h
  · rwa [heq]
  · exact hok.step hstep

theorem Advances.of_eq {r : Route} {l l' : Lanes} (h : l'.talk r = l.talk r) :
    Advances r l l' := by
  rw [Advances, h]

namespace Holds

variable {pb : Protobuf} {r : Route} {c : Conversation} {l : Lanes} {s : ConnectorSession}

/-! ## The application of the client -/

/-- What a call of the client does to the stream of its messages. -/
theorem upSide (h : Holds pb r c l s) (hpb : Lawful pb) {e : ClientEvent} {k' : Client}
    (hstep : clientStep pb c.client e = some k') (hfit : Client.Fits pb c.client e) :
    (l.up.put (c.client.makes pb e).toList).all = k'.queued ∧
      (∀ m ∈ k'.queued, (Client.frame pb m).length ≤ kMaxPkgSize * 2) ∧
      Carries msgDecoder (Client.frame pb) k'.sent c.handed
        (l.up.put (c.client.makes pb e).toList) := by
  have hspec := Client.clientStep_spec h.inStep.ok hfit hstep
  have hinStep := h.inStep.step hfit hstep
  have hroom := h.inStep.ok.avaiable_eq
  have hsize := h.client.receives.buffers.send.size_le
  have hmade : ∀ m ∈ (c.client.makes pb e).toList,
      (Client.frame pb m).length ≤ kMaxPkgSize * 2 := by
    intro m hm
    have hle := hfit m (Option.mem_toList.mp hm)
    omega
  have hall : (l.up.put (c.client.makes pb e).toList).all = k'.queued := by
    rw [Lane.all_put, h.queued]
    obtain ⟨hnone, hquiet⟩ | ⟨m, hsome, hqueued⟩ := hspec
    · rw [hnone, hquiet.queued]
      exact List.append_nil _
    · rw [hsome, hqueued.queued]
      rfl
  refine ⟨hall, ?_, h.up.grow
    (fun m hm => hpb.isFrame_up (lt_of_le_of_lt (hmade m hm) bufSize_lt))
    (Client.sends_clientStep hstep) ?_⟩
  · intro m hm
    rw [← hall, Lane.all_put, List.mem_append] at hm
    obtain hm | hm := hm
    · exact h.short m (h.queued ▸ hm)
    · exact hmade m hm
  · rw [← Lane.all_put, hall, stream, ← hinStep.sound.stream]
    exact List.prefix_append _ _

/-- A call of the client. The connector and the server know nothing of it yet. -/
theorem clientCall (h : Holds pb r c l s) (hpb : Lawful pb) {e : ClientEvent} {k' : Client}
    (hstep : clientStep pb c.client e = some k') (hfit : Client.Fits pb c.client e)
    {down : Lane CSMsg} (hall : down.all = l.down.all) {received : Nat}
    (hdown : Carries pkgDecoder (Client.frame pb) (l.had pb received)
      (stream (Client.frame pb) down.past).length down)
    (hreceived : received ≤ (stream (Client.frame pb) l.down.all).length)
    (hcontent : k'.content =
      (l.had pb received).drop (stream (Client.frame pb) down.past).length)
    (hat : k'.At down.past.length) {l' : Lanes}
    (hl' : l' = { l with up := l.up.put (c.client.makes pb e).toList, down := down })
    (hadvances : Advances r l l') {pushed popped : List (List UInt8)}
    (hpushed : (l'.talk r).up.all.filterMap Up.payload = pushed)
    (hsolid : ∀ d ∈ pushed, d ≠ [])
    (hpopped : (l'.talk r).down.past.filterMap Down.payload = popped) :
    Holds pb r
      { c with client := k', received := received, pushed := pushed, popped := popped } l' s := by
  obtain ⟨hqueued, hshort, hup⟩ := h.upSide hpb hstep hfit
  have hhad : l'.had pb received = l.had pb received := by
    rw [Lanes.had, hl', Lanes.had, hall]
  subst hl'
  exact {
    talk := hadvances.ok h.talk
    inStep := h.inStep.step hfit hstep
    queued := hqueued
    short := hshort
    up := hup
    few := h.few
    serves := by rw [hall]; exact h.serves
    session := ⟨h.session.frameStub, h.session.lastSeq, h.session.state, h.session.sid⟩
    ask := h.ask
    told := h.told
    answers := h.answers
    reply := h.reply
    answered := h.answered
    carriable := h.carriable
    asked := h.asked
    shortAsk := h.shortAsk
    shortReply := h.shortReply
    shortDown := by rw [hall]; exact h.shortDown
    down := by rw [hhad]; exact hdown
    received := by rw [hall]; exact hreceived
    content := by rw [hhad]; exact hcontent
    client := hat
    pushed := hpushed
    solid := hsolid
    popped := hpopped }

/-- What has arrived is the next part of what was written. -/
theorem had_arrive {chunk : List UInt8} {received : Nat}
    (hchunk : chunk <+: (stream (Client.frame pb) l.down.all).drop received)
    (hle : received ≤ (stream (Client.frame pb) l.down.all).length) :
    l.had pb (received + chunk.length) = l.had pb received ++ chunk ∧
      received + chunk.length ≤ (stream (Client.frame pb) l.down.all).length := by
  have hlen := hchunk.length_le
  rw [List.length_drop] at hlen
  refine ⟨?_, by omega⟩
  rw [Lanes.had, Lanes.had, List.take_add, ← List.prefix_iff_eq_take.mp hchunk]

/-- The bytes of the client that are not taken yet, with more behind them. -/
theorem arrived (h : Holds pb r c l s) {chunk : List UInt8}
    (hchunk : chunk <+: (stream (Client.frame pb) l.down.all).drop c.received) :
    Carries pkgDecoder (Client.frame pb) (l.had pb (c.received + chunk.length))
        (stream (Client.frame pb) l.down.past).length l.down ∧
      c.client.content ++ chunk = (l.had pb (c.received + chunk.length)).drop
        (stream (Client.frame pb) l.down.past).length := by
  obtain ⟨hhad, _⟩ := had_arrive hchunk h.received
  refine ⟨h.down.arrive ?_ (List.take_prefix _ _), ?_⟩
  · rw [hhad]
    exact List.prefix_append _ _
  · rw [hhad, h.content, List.drop_append_of_le_length h.down.pos_le]

/-- The client takes the next message: the one of the handshake that it waits for, or a payload. -/
theorem next_down (h : Holds pb r c l s) (hpb : Lawful pb) {chunk : List UInt8}
    (hchunk : chunk <+: (stream (Client.frame pb) l.down.all).drop c.received) {n : Nat}
    (hnext : pkgDecoder.next (c.client.content ++ chunk) = some n) :
    ∃ m down, l.down.Takes m down ∧ n = (Client.frame pb m).length ∧
      Client.parsePkg pb ((c.client.content ++ chunk).take n) = m ∧
      Carries pkgDecoder (Client.frame pb) (l.had pb (c.received + chunk.length))
        (stream (Client.frame pb) down.past).length down ∧
      (c.client.content ++ chunk).drop n = (l.had pb (c.received + chunk.length)).drop
        (stream (Client.frame pb) down.past).length := by
  obtain ⟨hcarries, hcontent⟩ := h.arrived hchunk
  rw [hcontent] at hnext ⊢
  obtain ⟨m, down, htakes, hn, htake, hcarries'⟩ := hcarries.take hnext
  have hshort := h.shortDown m (by rw [Lane.all, htakes.ahead]; simp)
  refine ⟨m, down, htakes, hn, ?_, hcarries'.pos_eq ▸ hcarries', ?_⟩
  · rw [htake]
    exact hpb.parsePkg_frame hshort
  · rw [List.drop_drop, hcarries'.pos_eq]

/-- What the message for the client is, by what it means. -/
theorem awaits_of_next (h : Holds pb r c l s) {m : CSMsg} {down : Lane CSMsg}
    (htakes : l.down.Takes m down) {id : CSBodyCmdId}
    (hid : Client.awaits l.down.past.length = some id) : m.head.bodyid = id.value := by
  have hnext := h.talk.next_down (takes_talk_down htakes)
  rw [length_talk_down] at hnext
  obtain ⟨hpast, hm⟩ | ⟨hpast, hm⟩ | ⟨hpast, hm⟩ | ⟨hpast, d, hm⟩ := hnext
  · rw [hpast] at hid
    cases hid
    unfold downOf at hm
    split_ifs at hm with h₁
    exact h₁
  · rw [hpast] at hid
    cases hid
    unfold downOf at hm
    split_ifs at hm with _ h₂
    exact h₂
  · rw [hpast] at hid
    cases hid
    unfold downOf at hm
    split_ifs at hm with _ _ h₃
    exact h₃
  · match hlt : l.down.past.length, hpast with
    | _ + 3, _ =>
      rw [hlt] at hid
      cases hid

/-- A payload for the client. -/
theorem data_of_next (h : Holds pb r c l s) {m : CSMsg} {down : Lane CSMsg}
    (htakes : l.down.Takes m down) (hle : 3 ≤ l.down.past.length) :
    m.head.bodyid = CSBodyCmdId.dataTransparent.value ∧ downOf m = .data (m.body.data.getD []) := by
  have hnext := h.talk.next_down (takes_talk_down htakes)
  rw [length_talk_down] at hnext
  obtain ⟨hpast, _⟩ | ⟨hpast, _⟩ | ⟨hpast, _⟩ | ⟨_, d, hm⟩ := hnext
  · omega
  · omega
  · omega
  · unfold downOf at hm ⊢
    split_ifs at hm ⊢ with _ _ _ h₄
    exact ⟨h₄, rfl⟩

/-- `Update`: the client begins, or takes a message of the handshake, or only receives. -/
theorem update (h : Holds pb r c l s) (hpb : Lawful pb) {net : NetOutcome} (hw : Works net)
    (hdata : net.recv.bytes.length ≤ offered c.client.tcpSock)
    (hfit : c.client.Fits pb (.update net))
    (hchunk : c.client.arriving net <+: (stream (Client.frame pb) l.down.all).drop c.received) :
    ∃ l', Advances r l l' ∧ Holds pb r
      { c with
        client := (c.client.update pb net).2
        received := c.received + (c.client.arriving net).length } l' s := by
  have hstep : clientStep pb c.client (.update net) = some (c.client.update pb net).2 :=
    if_pos hw.check
  obtain ⟨_, hreceived⟩ := had_arrive hchunk h.received
  obtain ⟨hcarries, harrived⟩ := h.arrived hchunk
  obtain ⟨hat, hcontent, hmakes⟩ | ⟨hlt, hat, ⟨n, hnext, hcontent⟩, hmakes⟩ :=
    h.client.update hw hdata hfit fun n id hnext hid => by
      obtain ⟨m, down, htakes, _, hparse, _⟩ := h.next_down hpb hchunk hnext
      rw [hparse]
      exact h.awaits_of_next htakes hid
  · rw [harrived] at hcontent
    obtain hnone | ⟨hsyn, hempty⟩ := hmakes
    · refine ⟨l, .refl, ?_⟩
      refine h.clientCall hpb hstep hfit rfl hcarries hreceived hcontent hat ?_ .refl h.pushed
        h.solid h.popped
      rw [hnone]
      simp
    · have hall : l.up.all = [] := h.queued.trans hempty
      have hnothing : (l.talk r).up.all = [] := by
        rw [Lanes.talk, Lane.all_filterMap, hall]
        rfl
      have hlanes := talk_put_up r l [c.client.synMsg]
      have hadvances : Advances r l { l with up := l.up.put [c.client.synMsg] } :=
        .single (hlanes ▸ Talk.Step.syn hnothing)
      refine ⟨_, hadvances, h.clientCall hpb hstep hfit rfl hcarries hreceived hcontent hat ?_
        hadvances ?_ h.solid h.popped⟩
      · rw [hsyn]
        rfl
      · rw [hlanes, Lane.all_put, List.filterMap_append, h.pushed]
        exact List.append_nil _
  · obtain ⟨m, down, htakes, rfl, _, hcarries', hdrop⟩ := h.next_down hpb hchunk hnext
    rw [hdrop] at hcontent
    have hlen : down.past.length = l.down.past.length + 1 := by
      rw [htakes.past, List.length_append]
      rfl
    rw [← hlen] at hat
    have hkind := h.talk.next_down (takes_talk_down htakes)
    rw [length_talk_down] at hkind
    have htalk := takes_talk_down (r := r) htakes
    have hpopped : (downOf m).payload = none →
        (down.filterMap fun m => some (downOf m)).past.filterMap Down.payload = c.popped := by
      intro hnone
      rw [htalk.past, List.filterMap_append, h.popped, List.filterMap_cons_none hnone]
      exact List.append_nil _
    by_cases hzero : l.down.past.length = 0
    · rw [if_pos hzero] at hmakes
      have hsynack : downOf m = .synack := by
        obtain ⟨_, hm⟩ | ⟨hone, _⟩ | ⟨htwo, _⟩ | ⟨hthree, _⟩ := hkind
        · exact hm
        · omega
        · omega
        · omega
      have hlanes := talk_put_up r { l with down := down } [c.client.authMsg]
      rw [talk_take_down] at hlanes
      have hfirst : (l.talk r).down.past = [] :=
        List.length_eq_zero_iff.mp (length_talk_down r l ▸ hzero)
      have hadvances : Advances r l { l with up := l.up.put [c.client.authMsg], down := down } :=
        .single (hlanes ▸ Talk.Step.synack (hsynack ▸ htalk) hfirst)
      refine ⟨_, hadvances, h.clientCall hpb hstep hfit htakes.all hcarries' hreceived hcontent hat
        ?_ hadvances ?_ h.solid (hpopped (by rw [hsynack]; rfl))⟩
      · rw [hmakes]
        rfl
      · rw [hlanes, Lane.all_put, List.filterMap_append, h.pushed]
        exact List.append_nil _
    · rw [if_neg hzero] at hmakes
      have hnone : (downOf m).payload = none := by
        obtain ⟨_, hm⟩ | ⟨_, hm⟩ | ⟨_, hm⟩ | ⟨hthree, _⟩ := hkind
        · rw [hm]
          rfl
        · rw [hm]
          rfl
        · rw [hm]
          rfl
        · omega
      have hfirst : (l.talk r).down.past ≠ [] := fun hnil => hzero (by
        rw [← length_talk_down r l, hnil]
        rfl)
      have hadvances : Advances r l { l with down := down } :=
        .single (talk_take_down r l down ▸ Talk.Step.take htalk hfirst)
      refine ⟨_, hadvances, h.clientCall hpb hstep hfit htakes.all hcarries' hreceived hcontent hat
        ?_ hadvances h.pushed h.solid (hpopped hnone)⟩
      rw [hmakes, Option.toList_none, Lane.put_nil]

/-- The application was told, so the client has had the whole handshake. -/
theorem three_le (h : Holds pb r c l s) (hsucceeded : c.Succeeded) : 3 ≤ l.down.past.length :=
  h.client.flag (h.client.told hsucceeded)

/-- `PushMessage`: the payload is queued and reported as sent, or it is empty and is neither. -/
theorem pushMessage (h : Holds pb r c l s) (hpb : Lawful pb) (hsucceeded : c.Succeeded)
    {data : List UInt8} {send : SendOutcome} (hsend : send ≠ .failed)
    (hfit : c.client.Fits pb (.pushMessage data send)) :
    ∃ l', Advances r l l' ∧ Holds pb r
      { c with
        client := (c.client.pushMessage pb data send).2
        pushed := if (c.client.pushMessage pb data send).1 = 0 then c.pushed ++ [data]
          else c.pushed } l' s := by
  have hthree := h.three_le hsucceeded
  obtain ⟨hat, hcontent, hzero⟩ := h.client.pushMessage hthree hfit hsend
  have hstep : clientStep pb c.client (.pushMessage data send) =
      some (c.client.pushMessage pb data send).2 := rfl
  have hmakes : c.client.makes pb (.pushMessage data send) =
      if data.length = 0 then none else some (c.client.dataMsg data) := rfl
  rw [h.content] at hcontent
  by_cases hdata : data = []
  · rw [if_neg (hzero.not.mpr (not_not.mpr hdata))]
    refine ⟨l, .refl, h.clientCall hpb hstep hfit rfl h.down h.received hcontent hat ?_ .refl
      h.pushed h.solid h.popped⟩
    rw [hmakes, hdata]
    simp
  · rw [if_pos (hzero.mpr hdata)]
    have hlen : data.length ≠ 0 := fun hnil => hdata (List.length_eq_zero_iff.mp hnil)
    have hlanes := talk_put_up r l [c.client.dataMsg data]
    have hadvances : Advances r l { l with up := l.up.put [c.client.dataMsg data] } :=
      .single (hlanes ▸ Talk.Step.push data (length_talk_down r l ▸ hthree))
    refine ⟨_, hadvances, h.clientCall hpb hstep hfit rfl h.down h.received hcontent hat ?_
      hadvances ?_ ?_ h.popped⟩
    · rw [hmakes, if_neg hlen]
      rfl
    · rw [hlanes, Lane.all_put, List.filterMap_append, h.pushed]
      rfl
    · intro d hd
      obtain hd | hd := List.mem_append.mp hd
      · exact h.solid d hd
      · exact List.mem_singleton.mp hd ▸ hdata

theorem peekMessage (h : Holds pb r c l s) (hpb : Lawful pb) (hsucceeded : c.Succeeded) :
    Holds pb r { c with client := (c.client.peekMessage pb).2.2 } l s := by
  have hthree := h.three_le hsucceeded
  obtain ⟨hat, hcontent⟩ := @Client.At.peekMessage pb _ _ h.client hthree
  rw [h.content] at hcontent
  refine h.clientCall hpb (e := .peekMessage) rfl nofun rfl h.down h.received hcontent hat ?_ .refl
    h.pushed h.solid h.popped
  simp [Client.makes]

/-- `PopMessage`: the payload at the head of the queue is the next one for the client. -/
theorem popMessage (h : Holds pb r c l s) (hpb : Lawful pb) (hsucceeded : c.Succeeded) :
    ∃ l', Advances r l l' ∧ Holds pb r
      { c with
        client := c.client.popMessage.2
        popped := c.popped ++ (c.client.peeked pb).toList } l' s := by
  have hthree := h.three_le hsucceeded
  have hpeeked := @Client.peeked_eq pb _ (h.client.done hthree).1
  have hput : l.up = l.up.put (c.client.makes pb .popMessage).toList := (Lane.put_nil _).symm
  obtain ⟨hnext, hat, hcontent⟩ | ⟨n, hnext, hat, hcontent⟩ := h.client.popMessage hthree
  · rw [hpeeked, hnext]
    rw [h.content] at hcontent
    refine ⟨l, .refl, h.clientCall hpb (e := .popMessage) rfl nofun rfl h.down h.received hcontent
      hat ?_ .refl h.pushed h.solid ?_⟩
    · rw [← hput]
    · rw [h.popped]
      exact (List.append_nil _).symm
  · have hchunk : ([] : List UInt8) <+: (stream (Client.frame pb) l.down.all).drop c.received :=
      List.nil_prefix
    have hnext' := hnext
    rw [← List.append_nil c.client.content] at hnext'
    obtain ⟨m, down, htakes, rfl, hparse, hcarries, hdrop⟩ := h.next_down hpb hchunk hnext'
    rw [List.append_nil] at hparse hdrop
    rw [hdrop] at hcontent
    obtain ⟨hid, hkind⟩ := h.data_of_next htakes hthree
    have hlen : down.past.length = l.down.past.length + 1 := by
      rw [htakes.past, List.length_append]
      rfl
    rw [← hlen] at hat
    have htalk := takes_talk_down (r := r) htakes
    have hfirst : (l.talk r).down.past ≠ [] := by
      intro hnil
      rw [← length_talk_down r l, hnil] at hthree
      simp at hthree
    have hadvances : Advances r l { l with down := down } :=
      .single (talk_take_down r l down ▸ Talk.Step.take htalk hfirst)
    refine ⟨_, hadvances, h.clientCall hpb (e := .popMessage) rfl nofun htakes.all hcarries
      h.received hcontent hat ?_ hadvances h.pushed h.solid ?_⟩
    · rw [← hput]
    · rw [talk_take_down, htalk.past, List.filterMap_append, h.popped, hpeeked, hnext,
        Option.bind_some, hparse, if_pos hid, hkind]
      rfl

/-! ## The server -/

/-- The server is handed the next message. -/
theorem hear (h : Holds pb r c l s) (hpb : Lawful pb) {n : Nat}
    (hnext : msgDecoder.next ((c.world.output r.server).drop c.heard) = some n) :
    ∃ l', Advances r l l' ∧ Holds pb r
      { c with
        heard := c.heard + n
        told := c.told ++ [pb.parseSSMsg (payloadBytes (c.world.output r.server) c.heard n)
          (payloadSize n)] } l' s := by
  rw [h.serves.server.output_eq] at hnext ⊢
  obtain ⟨m, ask, htakes, rfl, htake, hcarries⟩ := h.ask.take hnext
  have hshort := h.shortAsk m (by rw [Lane.all, htakes.ahead]; simp)
  rw [hpb.parse_ss hshort htake]
  have hall := htakes.all
  have hadvances : Advances r l { l with ask := ask } := by
    cases hask : askOf r m with
    | none =>
      refine .of_eq ?_
      rw [Lanes.talk, Lanes.talk, htakes.filterMap_none hask]
    | some a => exact .single (Talk.Step.hear (htakes.filterMap_some hask))
  refine ⟨_, hadvances, ?_⟩
  exact {
    talk := hadvances.ok h.talk
    inStep := h.inStep
    queued := h.queued
    short := h.short
    up := h.up
    few := h.few
    serves := by rw [hall]; exact h.serves
    session := ⟨h.session.frameStub, h.session.lastSeq, h.session.state, h.session.sid⟩
    ask := by rw [hall]; exact hcarries
    told := by rw [h.told, htakes.past]
    answers := h.answers
    reply := h.reply
    answered := h.answered
    carriable := h.carriable
    asked := by rw [hall]; exact h.asked
    shortAsk := by rw [hall]; exact h.shortAsk
    shortReply := h.shortReply
    shortDown := h.shortDown
    down := h.down
    received := h.received
    content := h.content
    client := h.client
    pushed := h.pushed
    solid := h.solid
    popped := h.popped }

/-- What the server may write is a step of its own, or none. -/
theorem advances_answer (h : Holds pb r c l s) {m : SSMsg}
    (hmay : r.isFor m → Conversation.Accepts r c m ∨ Conversation.Sends r c m) :
    Advances r l { l with reply := l.reply.put [m] } := by
  have hlanes : Lanes.talk r { l with reply := l.reply.put [m] } =
      { l.talk r with reply := (l.talk r).reply.put ([m].filterMap (replyOf r)) } := by
    rw [Lanes.talk, Lanes.talk, Lane.filterMap_put]
  by_cases hfor : r.isFor m
  · obtain ⟨hid, ⟨q, hq, hqfor, hqid⟩, hnone⟩ | ⟨hid, _, _, q, hq, hqfor, hqid, _⟩ := hmay hfor
    · have hm : [m].filterMap (replyOf r) = [.ack] := by
        simp [replyOf, hfor, hid]
      have hstart : .start ∈ (l.talk r).ask.past := by
        refine List.mem_filterMap.mpr ⟨q, h.told ▸ hq, ?_⟩
        rw [askOf, if_pos hqfor, if_pos hqid]
      have honce : (l.talk r).reply.all = [] := by
        rw [Lanes.talk, Lane.all_filterMap, ← h.answered]
        refine List.filterMap_eq_nil_iff.mpr fun q hq => ?_
        rw [replyOf, if_neg (hnone q hq)]
      rw [hm] at hlanes
      exact .single (hlanes ▸ Talk.Step.ack hstart honce)
    · have hne : SSBodyCmdId.data.value ≠ SSBodyCmdId.ack.value := by decide
      have hm : [m].filterMap (replyOf r) = [.data (m.body.data.getD [])] := by
        simp [replyOf, hfor, hid, hne]
      have hack : .ack ∈ (l.talk r).reply.all := by
        rw [Lanes.talk, Lane.all_filterMap, ← h.answered]
        refine List.mem_filterMap.mpr ⟨q, hq, ?_⟩
        rw [replyOf, if_pos hqfor, if_pos hqid]
      rw [hm] at hlanes
      exact .single (hlanes ▸ Talk.Step.reply _ hack)
  · have hm : [m].filterMap (replyOf r) = [] := by
      simp [replyOf, hfor]
    refine .of_eq ?_
    rw [hlanes, hm, Lane.put_nil]

/-- The client keeps the session id under which it was accepted. -/
theorem session_answer (h : Holds pb r c l s) {m : SSMsg}
    (hmay : r.isFor m → Conversation.Accepts r c m ∨ Conversation.Sends r c m) :
    InSession r { l with reply := l.reply.put [m] } s := by
  have hall : (l.reply.put [m]).all = l.reply.all ++ [m] := Lane.all_put _ _
  have hpast : (Lanes.talk r { l with reply := l.reply.put [m] }).reply.past =
      (l.talk r).reply.past := rfl
  refine ⟨h.session.frameStub, h.session.lastSeq, h.session.state, ?_⟩
  obtain ⟨sid, hold, hsid⟩ := h.session.sid
  rw [hpast]
  dsimp only
  rw [hall]
  by_cases hnone : ∀ q ∈ c.answered, ¬ r.isFor q
  · -- this message is the first one, if it is for the client
    refine ⟨m.head.session.sid, fun q hq hfor => ?_, fun hne => ?_⟩
    · obtain hq | hq := List.mem_append.mp hq
      · exact absurd hfor (hnone q (h.answered ▸ hq))
      · rw [List.mem_singleton.mp hq]
    · refine absurd ?_ hne
      rw [Lanes.talk, Lane.past_filterMap]
      refine List.filterMap_eq_nil_iff.mpr fun q hq => ?_
      rw [replyOf, if_neg (hnone q (h.answered ▸ l.reply.past_prefix.subset hq))]
  · refine ⟨sid, fun q hq hfor => ?_, hsid⟩
    obtain hq | hq := List.mem_append.mp hq
    · exact hold q hq hfor
    · obtain rfl := List.mem_singleton.mp hq
      obtain ⟨_, _, hfirst⟩ | ⟨_, _, _, q', hq', hfor', _, hsame⟩ := hmay hfor
      · exact absurd hfirst hnone
      · rw [← hsame]
        exact hold q' (h.answered ▸ hq') hfor'

/-- The server writes a message. -/
theorem answer (h : Holds pb r c l s) (hpb : Lawful pb) {m : SSMsg}
    (hshort : (ssFrame pb m).length < 2 ^ 31)
    (hmay : r.isFor m → Conversation.Accepts r c m ∨ Conversation.Sends r c m) :
    ∃ l', Advances r l l' ∧ Holds pb r
      { c with answers := c.answers ++ ssFrame pb m, answered := c.answered ++ [m] } l' s := by
  have hadvances := h.advances_answer hmay
  refine ⟨_, hadvances, ?_⟩
  have hall : (l.reply.put [m]).all = l.reply.all ++ [m] := Lane.all_put _ _
  have hmem : ∀ {P : SSMsg → Prop}, (∀ q ∈ l.reply.all, P q) → P m →
      ∀ q ∈ (l.reply.put [m]).all, P q := by
    intro P hold hnew q hq
    rw [hall, List.mem_append, List.mem_singleton] at hq
    obtain hq | rfl := hq
    · exact hold q hq
    · exact hnew
  exact {
    talk := hadvances.ok h.talk
    inStep := h.inStep
    queued := h.queued
    short := h.short
    up := h.up
    few := h.few
    serves := h.serves
    session := h.session_answer hmay
    ask := h.ask
    told := h.told
    answers := by rw [h.answers, hall, stream_append, stream_singleton]
    reply := h.reply.write fun q hq => by
      rw [List.mem_singleton.mp hq]
      exact hpb.isFrame_ss hshort
    answered := by rw [h.answered, hall]
    carriable := by
      refine hmem h.carriable fun hfor hid => ?_
      obtain ⟨hack, _⟩ | ⟨_, hne, hlt, _⟩ := hmay hfor
      · rw [hack] at hid
        exact absurd hid (by decide)
      · exact ⟨hne, hlt⟩
    asked := fun q hq => (h.asked q hq).mono (by rw [hall]; exact List.subset_append_left _ _)
    shortAsk := h.shortAsk
    shortReply := hmem h.shortReply hshort
    shortDown := h.shortDown
    down := h.down
    received := h.received
    content := h.content
    client := h.client
    pushed := h.pushed
    solid := h.solid
    popped := h.popped }

/-! ## The connector -/

/-- Something happens in the connector, and it writes these messages. -/
theorem worldStep (h : Holds pb r c l s) (hpb : Lawful pb) {w' : ConnectorWorld}
    {s' : ConnectorSession} {up : Lane CSMsg} {reply : Lane SSMsg} {asks : List SSMsg}
    {answers : List CSMsg} {handed relayed : Nat} {l' : Lanes}
    (hl' : l' = ⟨up, l.ask.put asks, reply, l.down.put answers⟩)
    (hserves : Serves r w' s'
      (stream (Client.frame pb) l.down.all ++ stream (Client.frame pb) answers)
      (stream (ssFrame pb) l.ask.all ++ stream (ssFrame pb) asks))
    (hfew : w'.heap.nextNet < 2 ^ 31)
    (hshortAsks : ∀ m ∈ asks, (ssFrame pb m).length < 2 ^ 31)
    (hasked : ∀ m ∈ asks, Answerable r l.reply.all m)
    (hshortAnswers : ∀ m ∈ answers, (Client.frame pb m).length < 2 ^ 31)
    (hupAll : up.all = l.up.all)
    (hup : Carries msgDecoder (Client.frame pb) c.client.sent handed up)
    (hreplyAll : reply.all = l.reply.all)
    (hreply : Carries msgDecoder (ssFrame pb) (stream (ssFrame pb) l.reply.all) relayed reply)
    (hsession : InSession r l' s') (hadvances : Advances r l l') :
    Holds pb r { c with world := w', handed := handed, relayed := relayed } l' s' := by
  have hpushed : (l'.talk r).up.all = (l.talk r).up.all := by
    rw [hl', Lanes.talk, Lanes.talk, Lane.all_filterMap, Lane.all_filterMap, hupAll]
  have hpopped : (l'.talk r).down.past = (l.talk r).down.past := by
    rw [hl']
    rfl
  have hdownAll : l'.down.all = l.down.all ++ answers := by
    rw [hl', Lane.all_put]
  have hhad : l'.had pb c.received = l.had pb c.received := by
    rw [Lanes.had, hdownAll, stream_append, List.take_append_of_le_length h.received, Lanes.had]
  have htalk := hadvances.ok h.talk
  subst hl'
  exact {
    talk := htalk
    inStep := h.inStep
    queued := by rw [hupAll, h.queued]
    short := h.short
    up := hup
    few := by exact_mod_cast hfew
    serves := by rwa [Lane.all_put, Lane.all_put, stream_append, stream_append]
    session := hsession
    ask := h.ask.write fun m hm => hpb.isFrame_ss (hshortAsks m hm)
    told := h.told
    answers := by rw [hreplyAll]; exact h.answers
    reply := by rw [hreplyAll]; exact hreply
    answered := by rw [hreplyAll]; exact h.answered
    carriable := by rw [hreplyAll]; exact h.carriable
    asked := by
      rw [hreplyAll]
      intro m hm
      rw [Lane.all_put, List.mem_append] at hm
      exact hm.elim (h.asked m) (hasked m)
    shortAsk := by
      intro m hm
      rw [Lane.all_put, List.mem_append] at hm
      exact hm.elim (h.shortAsk m) (hshortAsks m)
    shortReply := by rw [hreplyAll]; exact h.shortReply
    shortDown := by
      intro m hm
      rw [Lane.all_put, List.mem_append] at hm
      exact hm.elim (h.shortDown m) (hshortAnswers m)
    down := by
      rw [hhad]
      exact h.down.put fun m hm => hpb.isFrame_down (hshortAnswers m hm)
    received := by
      rw [hdownAll, stream_append, List.length_append]
      exact Nat.le_add_right_of_le h.received
    content := by rw [hhad]; exact h.content
    client := h.client
    pushed := by rw [hpushed]; exact h.pushed
    solid := h.solid
    popped := by rw [hpopped]; exact h.popped }

/-- The session accepts the next message of the client. -/
theorem accepts_next (h : Holds pb r c l s) {m : CSMsg} {up : Lane CSMsg}
    (htakes : l.up.Takes m up) : (s.checkUpSideMessage m).1 = 0 ∧
      m.head.sequence.toUInt64 = (ConnectorSession.new.afterMessages up.past).lastSeq := by
  have haccepts := h.inStep.sound.accepted
  rw [← h.queued, Lane.all, htakes.ahead] at haccepts
  have hcheck := haccepts.next
  refine ⟨?_, ?_⟩
  · rw [ConnectorSession.checkUpSideMessage_congr h.session.lastSeq, hcheck]
  · rw [htakes.past, afterMessages_concat, (checkUpSideMessage_ok hcheck).1]

/-- The connector is handed a message of the client, does with it what it is meant to do, and
writes these messages. -/
theorem handed (h : Holds pb r c l s) (hpb : Lawful pb) {m : CSMsg} {up : Lane CSMsg}
    (htakes : l.up.Takes m up) {handed : Nat}
    (hup : Carries msgDecoder (Client.frame pb) c.client.sent handed up) {w' : ConnectorWorld}
    (asks : List SSMsg) (answers : List CSMsg)
    (hserves : Serves r w'
      { s.accept m with state := stateFor up.past.length (l.talk r).reply.past.length }
      (stream (Client.frame pb) l.down.all ++ stream (Client.frame pb) answers)
      (stream (ssFrame pb) l.ask.all ++ stream (ssFrame pb) asks))
    (hfew : w'.heap.nextNet < 2 ^ 31)
    (hshortAsks : ∀ m ∈ asks, (ssFrame pb m).length < 2 ^ 31)
    (hasked : ∀ m ∈ asks, Answerable r l.reply.all m)
    (hshortAnswers : ∀ m ∈ answers, (Client.frame pb m).length < 2 ^ 31)
    (hasks : asks.filterMap (askOf r) = (upOf m).asks)
    (hanswers : answers.map downOf = (upOf m).answers) :
    ∃ l' s', Advances r l l' ∧ Holds pb r { c with world := w', handed := handed } l' s' := by
  have hlanes : Lanes.talk r ⟨up, l.ask.put asks, l.reply, l.down.put answers⟩ =
      { l.talk r with
        up := up.filterMap fun m => some (upOf m)
        ask := (l.talk r).ask.put (upOf m).asks
        down := (l.talk r).down.put (upOf m).answers } := by
    simp [Lanes.talk, Lane.filterMap_put, hasks, hanswers]
  have hadvances : Advances r l ⟨up, l.ask.put asks, l.reply, l.down.put answers⟩ :=
    .single (hlanes ▸ Talk.Step.hand (htakes.filterMap_some rfl))
  refine ⟨_, _, hadvances, h.worldStep hpb rfl hserves hfew hshortAsks hasked hshortAnswers
    htakes.all hup rfl h.reply ?_ hadvances⟩
  have hseq := (h.accepts_next htakes).2
  exact ⟨h.session.frameStub, hseq, rfl, h.session.sid⟩

theorem length_talk_up (r : Route) (l : Lanes) :
    (l.talk r).up.past.length = l.up.past.length := by
  simp [Lanes.talk]

/-- What a message of the server for the client is. -/
theorem replyOf_cases {r : Route} {m : SSMsg} {a : Reply (List UInt8)} (h : replyOf r m = some a) :
    r.isFor m ∧ (a = .ack → m.head.bodyid = SSBodyCmdId.ack.value) ∧
      ∀ d, a = .data d →
        m.head.bodyid = SSBodyCmdId.data.value ∧ d = m.body.data.getD [] := by
  unfold replyOf at h
  split_ifs at h with hfor hack hdata
  · cases h
    exact ⟨hfor, fun _ => hack, nofun⟩
  · cases h
    refine ⟨hfor, nofun, ?_⟩
    rintro d ⟨⟩
    exact ⟨hdata, rfl⟩
  · cases h
    exact ⟨hfor, nofun, nofun⟩

/-- A server that was relayed has accepted the client, under the session id of the session. -/
theorem exists_ack (h : Holds pb r c l s) (hpast : (l.talk r).reply.past ≠ []) :
    ∃ m ∈ l.reply.all, r.isFor m ∧ m.head.bodyid = SSBodyCmdId.ack.value ∧
      m.head.session.sid = s.sid := by
  obtain hnil | ⟨ds, hall⟩ := h.talk.reply
  · exact absurd hnil (List.append_ne_nil_of_left_ne_nil hpast _)
  have hack : Reply.ack ∈ l.reply.all.filterMap (replyOf r) := by
    rw [← Lane.all_filterMap]
    exact hall ▸ List.mem_cons_self
  obtain ⟨m, hm, hreply⟩ := List.mem_filterMap.mp hack
  obtain ⟨sid, hsid, heq⟩ := h.session.sid
  obtain ⟨hfor, hid, _⟩ := replyOf_cases hreply
  exact ⟨m, hm, hfor, hid rfl, (hsid m hm hfor).trans (heq hpast).symm⟩

variable {app : ConnectorApp}

/-- `OnRecvFrontEnd` with the next message of the client. -/
theorem hand (h : Holds app.pb r c l s) (hpb : Lawful app.pb) {n : Nat}
    (hnext : msgDecoder.next (c.client.sent.drop c.handed) = some n) {w' : ConnectorWorld}
    (hw' : w' = (app.onRecvFrontEnd r.client (payloadBytes c.client.sent c.handed n)
      (payloadSize n) c.world).2) (hfew : w'.heap.nextNet < 2 ^ 31) :
    ∃ l' s', Advances r l l' ∧
      Holds app.pb r { c with world := w', handed := c.handed + n } l' s' := by
  obtain ⟨m, up, htakes, rfl, htake, hup⟩ := h.up.take hnext
  have hmem : m ∈ c.client.queued := by
    rw [← h.queued, Lane.all, htakes.ahead]
    simp
  have hshort := h.short m hmem
  have hparse := hpb.parse_up (lt_of_le_of_lt hshort bufSize_lt) htake
  obtain ⟨hcheck, _⟩ := h.accepts_next htakes
  have hlen : up.past.length = l.up.past.length + 1 := by
    rw [htakes.past, List.length_append]
    rfl
  have htalk : (l.talk r).up.Takes (upOf m) (up.filterMap fun m => some (upOf m)) :=
    htakes.filterMap_some rfl
  have hstate := h.session.state
  have hkind := h.talk.next_up htalk
  rw [length_talk_up] at hkind
  subst hw'
  obtain ⟨hpast, hm⟩ | ⟨hpast, hm⟩ | ⟨hpast, ⟨d, hm⟩, hthree⟩ := hkind
  · -- the first message
    rw [hpast] at hstate hlen
    have hkey := hpb.short_handshake (m := keyMakingMsg) (by simp)
    have hserves := h.serves.onRecvFrontEnd_init app (hparse.symm ▸ hcheck) hstate (hpb.ne_nilCS _)
    rw [hparse, ← frame_eq (length_frame app.pb keyMakingMsg ▸ hkey)] at hserves
    refine h.handed hpb htakes hup [] [keyMakingMsg] ?_ hfew (by simp) (by simp) ?_ ?_ ?_
    · rw [hlen, stream_singleton, stream_nil, List.append_nil]
      exact hserves
    · simpa using hkey
    · rw [hm]
      rfl
    · rw [hm]
      rfl
  · -- the second one, and no answer of the server yet
    rw [hpast] at hstate hlen
    have hnone : (l.talk r).reply.past = [] := by
      by_contra hne
      have htwo := h.talk.authed (List.append_ne_nil_of_left_ne_nil hne _)
      rw [length_talk_up] at htwo
      omega
    have hauth := hpb.short_handshake (m := authMsg) (by simp)
    have hstart : (ssFrame app.pb (startMsgOf (r.tuple s.sid))).length < 2 ^ 31 := by
      have hle := hpb.startSS (r.tuple s.sid)
      rw [kOverhead] at hle
      rw [ssFrame, length_encodeMsg]
      omega
    have hserves := h.serves.onRecvFrontEnd_auth app h.session.frameStub (hparse.symm ▸ hcheck)
      hstate (hpb.ne_nilCS _) (hpb.ne_nilSS _)
    rw [hparse, ← frame_eq (length_frame app.pb authMsg ▸ hauth)] at hserves
    refine h.handed hpb htakes hup [startMsgOf (r.tuple s.sid)] [authMsg] ?_ hfew ?_ ?_ ?_ ?_ ?_
    · rw [hlen, hnone, stream_singleton, stream_singleton]
      exact hserves
    · simpa using hstart
    · intro m hm _ hid
      rw [List.mem_singleton.mp hm] at hid
      exact absurd hid (show SSBodyCmdId.syn.value ≠ SSBodyCmdId.data.value by decide)
    · simpa using hauth
    · rw [hm, List.filterMap_cons_some (askOf_startMsg r s.sid)]
      rfl
    · rw [hm]
      rfl
  · -- a payload
    have haccepted : (l.talk r).reply.past ≠ [] := h.talk.accepted hthree
    have hstates : ∀ k, 2 ≤ k → stateFor k (l.talk r).reply.past.length = .stateOk := by
      intro k hk
      obtain ⟨k, rfl⟩ := Nat.exists_eq_add_of_le hk
      rw [Nat.add_comm, stateFor, if_neg (List.length_eq_zero_iff.not.mpr haccepted)]
    rw [hstates _ hpast] at hstate
    have hid : m.head.bodyid = CSBodyCmdId.dataTransparent.value ∧ d = m.body.data.getD [] := by
      unfold upOf at hm
      split_ifs at hm with _ _ hdata
      exact ⟨hdata, (Up.data.inj hm).symm⟩
    have hserves := h.serves.onRecvFrontEnd_data app hparse hcheck hstate hid.1 (hpb.ne_nilSS _)
    refine h.handed hpb htakes hup
      [upSideMsgOf (r.tuple s.sid) m.head.sequence.toUInt64 (m.body.data.getD [])] [] ?_ hfew ?_
      ?_ (by simp) ?_ ?_
    · rw [stream_singleton, stream_nil, List.append_nil, hstates _ (by omega), ← hstate]
      exact hserves
    · simpa using hpb.short_upSideMsg hshort (r.tuple s.sid) m.head.sequence.toUInt64
    · intro q hq _ _
      rw [List.mem_singleton.mp hq]
      refine ⟨hid.2 ▸ h.solid d ?_, ?_, h.exists_ack haccepted⟩
      · rw [← h.pushed]
        refine List.mem_filterMap.mpr ⟨upOf m, ?_, by rw [hm]; rfl⟩
        rw [Lane.all, htalk.ahead]
        simp
      · have hle := hpb.payload_le m
        have hbuf : kMaxPkgSize * 2 < 2 ^ 30 := by decide
        rw [length_frame] at hshort
        change (m.body.data.getD []).length < 2 ^ 30
        omega
    · rw [hm, hid.2, List.filterMap_cons_some (askOf_upSideMsg r s.sid _ _)]
      rfl
    · rw [hm]
      rfl

/-- The connector did something for others. -/
theorem beside (h : Holds app.pb r c l s) (hpb : Lawful app.pb) {w' : ConnectorWorld}
    (hbeside : Beside app.pb r s (stream (Client.frame app.pb) l.down.all)
      (stream (ssFrame app.pb) l.ask.all) w') (hkeeps : r.Keeps c.world w') {reply : Lane SSMsg}
    {relayed : Nat} (hreplyAll : reply.all = l.reply.all)
    (hreply : Carries msgDecoder (ssFrame app.pb) (stream (ssFrame app.pb) l.reply.all) relayed
      reply)
    (hsame : reply.filterMap (replyOf r) = l.reply.filterMap (replyOf r)) :
    ∃ l', Advances r l l' ∧ Holds app.pb r { c with world := w', relayed := relayed } l' s := by
  obtain ⟨_, ms, hms, hserves⟩ := hbeside
  have hshort : ∀ m ∈ ms, (ssFrame app.pb m).length < 2 ^ 31 := by
    intro m hm
    have hgrow := hkeeps.short
    rw [hserves.server.output_eq, h.serves.server.output_eq, List.length_append] at hgrow
    have hle := length_le_stream (ssFrame app.pb) hm
    omega
  have hlanes : Lanes.talk r ⟨l.up, l.ask.put ms, reply, l.down.put []⟩ = l.talk r := by
    have hnone : ∀ m ∈ ms, askOf r m = none := fun m hm => if_neg (hms m hm)
    rw [Lanes.talk, Lanes.talk, Lane.filterMap_put_none hnone, hsame, Lane.put_nil]
  refine ⟨_, .of_eq hlanes, h.worldStep hpb rfl ?_ hkeeps.few hshort
    (fun m hm hfor => absurd hfor (hms m hm)) (by simp) rfl h.up hreplyAll hreply ?_ (.of_eq hlanes)⟩
  · rw [stream_nil, List.append_nil]
    exact hserves
  · refine ⟨h.session.frameStub, h.session.lastSeq, ?_, ?_⟩
    · rw [hlanes]
      exact h.session.state
    · rw [hlanes]
      dsimp only
      rw [hreplyAll]
      exact h.session.sid

/-- Whatever happens to others and in the framework. -/
theorem elsewhere (h : Holds app.pb r c l s) (hpb : Lawful app.pb) {e : Event}
    {w' : ConnectorWorld} (hstep : app.step c.world e = some w') (he : e.Elsewhere r c.world)
    (hkeeps : r.Keeps c.world w') :
    ∃ l', Advances r l l' ∧ Holds app.pb r { c with world := w' } l' s :=
  h.beside hpb (h.serves.elsewhere hstep he (by exact_mod_cast hkeeps.few) hkeeps.client
    hkeeps.server) hkeeps rfl h.reply rfl

/-- The connector relays a message of the server to the client, and writes this one. -/
theorem relayed (h : Holds app.pb r c l s) (hpb : Lawful app.pb) {m : SSMsg} {reply : Lane SSMsg}
    (htakes : l.reply.Takes m reply) {relayed : Nat}
    (hreply : Carries msgDecoder (ssFrame app.pb) (stream (ssFrame app.pb) l.reply.all) relayed
      reply) {w' : ConnectorWorld} {s' : ConnectorSession} {answer : CSMsg}
    (hserves : Serves r w' s'
      (stream (Client.frame app.pb) l.down.all ++ Client.frame app.pb answer)
      (stream (ssFrame app.pb) l.ask.all))
    (hfew : w'.heap.nextNet < 2 ^ 31) (hshort : (Client.frame app.pb answer).length < 2 ^ 31)
    {a : Reply (List UInt8)} (ha : replyOf r m = some a) (htells : a.tells = [downOf answer])
    (hframe : s'.frameStub = s.frameStub) (hseq : s'.lastSeq = s.lastSeq)
    (hauthed : 2 ≤ l.up.past.length) (hstate : s'.state = .stateOk)
    (hsid : s'.sid = m.head.session.sid) :
    ∃ l' s', Advances r l l' ∧
      Holds app.pb r { c with world := w', relayed := relayed } l' s' := by
  have hlanes : Lanes.talk r ⟨l.up, l.ask.put [], reply, l.down.put [answer]⟩ =
      { l.talk r with
        reply := reply.filterMap (replyOf r)
        down := (l.talk r).down.put a.tells } := by
    simp [Lanes.talk, Lane.filterMap_put, htells]
  have htalk := htakes.filterMap_some ha
  have hadvances : Advances r l ⟨l.up, l.ask.put [], reply, l.down.put [answer]⟩ :=
    .single (hlanes ▸ Talk.Step.relay htalk)
  refine ⟨_, s', hadvances, h.worldStep hpb rfl ?_ hfew (by simp) (by simp) ?_ rfl h.up htakes.all
    hreply ?_ hadvances⟩
  · rw [stream_singleton, stream_nil, List.append_nil]
    exact hserves
  · simpa using hshort
  · obtain ⟨sid, hold, _⟩ := h.session.sid
    have hmem : m ∈ l.reply.all := by
      rw [Lane.all, htakes.ahead]
      simp
    have hfor : r.isFor m := by
      by_contra hnot
      rw [replyOf, if_neg hnot] at ha
      cases ha
    refine ⟨hframe.trans h.session.frameStub, hseq.trans h.session.lastSeq, ?_, sid, ?_, ?_⟩
    · obtain ⟨k, hk⟩ := Nat.exists_eq_add_of_le hauthed
      have hlen : (reply.filterMap (replyOf r)).past.length ≠ 0 := by
        rw [htalk.past, List.length_append]
        simp
      rw [hstate, hlanes]
      dsimp only
      rw [hk, Nat.add_comm, stateFor, if_neg hlen]
    · dsimp only
      rw [htakes.all]
      exact hold
    · intro _
      rw [hsid, hold m hmem hfor]

/-- `OnRecvBackEnd` with the next message of the server. -/
theorem relay (h : Holds app.pb r c l s) (hpb : Lawful app.pb) {n : Nat}
    (hnext : msgDecoder.next (c.answers.drop c.relayed) = some n) {w' : ConnectorWorld}
    (hw' : w' = (app.onRecvBackEnd (payloadBytes c.answers c.relayed n) (payloadSize n)
      c.world).2) (hkeeps : r.Keeps c.world w') :
    ∃ l' s', Advances r l l' ∧
      Holds app.pb r { c with world := w', relayed := c.relayed + n } l' s' := by
  rw [h.answers] at hnext hw'
  obtain ⟨m, reply, htakes, rfl, htake, hreply⟩ := h.reply.take hnext
  have hmem : m ∈ l.reply.all := by
    rw [Lane.all, htakes.ahead]
    simp
  have hparse := hpb.parse_ss (h.shortReply m hmem) htake
  cases ha : replyOf r m with
  | none =>
    have hfor : ¬ r.isFor m := fun hfor => by
      rw [replyOf, if_pos hfor] at ha
      cases ha
    have hbeside := (h.serves.beside h.few).onRecvBackEnd (hparse.symm ▸ hfor)
    rw [← hw'] at hbeside
    obtain ⟨l', hadvances, hholds⟩ :=
      h.beside hpb hbeside hkeeps htakes.all hreply (htakes.filterMap_none ha)
    exact ⟨l', s, hadvances, hholds⟩
  | some a =>
    obtain ⟨hfor, hack, hdata⟩ := replyOf_cases ha
    have htalk : (l.talk r).reply.Takes a (reply.filterMap (replyOf r)) := htakes.filterMap_some ha
    have hauthed := h.talk.authed (List.append_ne_nil_of_right_ne_nil _ (by rw [htalk.ahead]; simp))
    rw [length_talk_up] at hauthed
    have hstate := h.session.state
    obtain ⟨k, hk⟩ := Nat.exists_eq_add_of_le hauthed
    rw [hk, Nat.add_comm, stateFor] at hstate
    rw [h.serves.onRecvBackEnd app hparse hfor] at hw'
    obtain ⟨hnil, rfl⟩ | ⟨hne, d, rfl⟩ := h.talk.next_reply htalk
    · -- the server accepts the client
      have hid : m.head.bodyid ≠ SSBodyCmdId.data.value := by
        rw [hack rfl]
        decide
      rw [hnil, List.length_nil, if_pos rfl] at hstate
      have hshort := hpb.short_handshake (m := startAckedMsg) (by simp)
      have hserves := h.serves.relayToFrontEnd_ack app hid hstate (hpb.ne_nilCS _)
      rw [← hw', ← frame_eq (length_frame app.pb startAckedMsg ▸ hshort)] at hserves
      exact h.relayed hpb htakes hreply hserves hkeeps.few hshort ha rfl rfl rfl hauthed rfl rfl
    · -- a payload
      obtain ⟨hid, rfl⟩ := hdata d rfl
      obtain ⟨hdata, hlt⟩ := h.carriable m hmem hfor hid
      obtain ⟨sid, hall, hsid⟩ := h.session.sid
      have hsame : s.sid = m.head.session.sid := by rw [hsid hne, hall m hmem hfor]
      rw [if_neg (List.length_eq_zero_iff.not.mpr hne)] at hstate
      have hshort := hpb.short_downSideMsg hlt m.head.sequence.toUInt64
      have hserves := h.serves.relayToFrontEnd_data app hid hstate hsame rfl hdata (hpb.ne_nilCS _)
      rw [← hw', ← frame_eq (length_frame app.pb (downSideMsg _ _) ▸ hshort)] at hserves
      exact h.relayed hpb htakes hreply hserves hkeeps.few hshort ha
        (by rw [downOf_downSideMsg]; rfl) rfl rfl hauthed hstate hsame

/-! ## A step, and a run -/

/-- Every action of the three programs keeps what holds, and is a step of `Talk` or none. -/
theorem step (h : Holds app.pb r c l s) (hpb : Lawful app.pb) {e : Action} {c' : Conversation}
    (hstep : Conversation.step app r c e = some c') :
    ∃ l' s', Advances r l l' ∧ Holds app.pb r c' l' s' := by
  cases e with
  | client e =>
    cases e with
    | update net =>
      rw [Conversation.step] at hstep
      split_ifs at hstep with hguard
      obtain ⟨hw, hdata, hfit, hchunk⟩ := hguard
      rw [h.serves.client.output_eq] at hchunk
      obtain ⟨l', hadvances, hholds⟩ := h.update hpb hw hdata hfit hchunk
      exact ⟨l', s, hadvances, Option.some.inj hstep ▸ hholds⟩
    | pushMessage data send =>
      rw [Conversation.step] at hstep
      split_ifs at hstep with hguard
      obtain ⟨hsucceeded, hsend, hfit⟩ := hguard
      obtain ⟨l', hadvances, hholds⟩ := h.pushMessage hpb hsucceeded hsend hfit
      exact ⟨l', s, hadvances, Option.some.inj hstep ▸ hholds⟩
    | peekMessage =>
      rw [Conversation.step] at hstep
      split_ifs at hstep with hsucceeded
      exact ⟨l, s, .refl, Option.some.inj hstep ▸ h.peekMessage hpb hsucceeded⟩
    | popMessage =>
      rw [Conversation.step] at hstep
      split_ifs at hstep with hsucceeded
      obtain ⟨l', hadvances, hholds⟩ := h.popMessage hpb hsucceeded
      exact ⟨l', s, hadvances, Option.some.inj hstep ▸ hholds⟩
  | hand =>
    rw [Conversation.step] at hstep
    cases hnext : msgDecoder.next (c.client.sent.drop c.handed) with
    | none =>
      rw [hnext] at hstep
      cases hstep
    | some n =>
      rw [hnext] at hstep
      dsimp only at hstep
      split_ifs at hstep with hkeeps
      rw [← Option.some.inj hstep]
      exact h.hand hpb hnext rfl hkeeps.few
  | elsewhere e =>
    rw [Conversation.step] at hstep
    cases hnext : app.step c.world e with
    | none =>
      rw [hnext] at hstep
      cases hstep
    | some w' =>
      rw [hnext] at hstep
      dsimp only at hstep
      split_ifs at hstep with hguard
      rw [← Option.some.inj hstep]
      obtain ⟨l', hadvances, hholds⟩ := h.elsewhere hpb hnext hguard.1 hguard.2
      exact ⟨l', s, hadvances, hholds⟩
  | hear =>
    rw [Conversation.step] at hstep
    cases hnext : msgDecoder.next ((c.world.output r.server).drop c.heard) with
    | none =>
      rw [hnext] at hstep
      cases hstep
    | some n =>
      rw [hnext] at hstep
      rw [← Option.some.inj hstep]
      obtain ⟨l', hadvances, hholds⟩ := h.hear hpb hnext
      exact ⟨l', s, hadvances, hholds⟩
  | answer m =>
    rw [Conversation.step] at hstep
    split_ifs at hstep with hmay
    rw [← Option.some.inj hstep]
    obtain ⟨l', hadvances, hholds⟩ := h.answer hpb hmay.1 hmay.2
    exact ⟨l', s, hadvances, hholds⟩
  | relay =>
    rw [Conversation.step] at hstep
    cases hnext : msgDecoder.next (c.answers.drop c.relayed) with
    | none =>
      rw [hnext] at hstep
      cases hstep
    | some n =>
      rw [hnext] at hstep
      dsimp only at hstep
      split_ifs at hstep with hkeeps
      rw [← Option.some.inj hstep]
      exact h.relay hpb hnext rfl hkeeps

end Holds

end Rapidapp.Connector
