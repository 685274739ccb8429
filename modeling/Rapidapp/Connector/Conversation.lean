import Rapidapp.Connector.ClientStages
import Rapidapp.Connector.GeneratedLaws
import Rapidapp.Connector.Talk

/-!
# A client, the connector and a server

A `Conversation` is what the three programs have come to and how much of what each has written the
next has had; bytes stay in order, and how many arrive at a time is open. What a step asks for is of
three kinds.

Of the connections: no call of the sockets fails and nobody closes (`Works`, and the `send` of a
push), the connector keeps both connections, has had fewer than 2^31 of them and writes less than
2^31 bytes to the server at once (`Route.Keeps`). It goes on with everything else it does, but not
with these two (`Event.Elsewhere`).

Of the application of the client and of the server: the application neither pushes, peeks nor pops
before it is told that the handshake is done (`Conversation.Succeeded`). The connector takes a
payload that comes earlier for a message of the handshake, and an earlier pop takes one. The server
accepts a client that it was told of, once, and then sends it payloads under the session id it
accepted it with; they are not empty and have less than 2^30 bytes (`Conversation.MayAnswer`). About
other clients it writes what it likes, in frames of less than 2^31 bytes.

Of the send queue: every message that the client makes fits in (`Client.Fits`). This leaves a defect
out: a message that is refused has used up a sequence number (`Rapidapp.Connector.ClientSequence`),
and the connector drops all that come after it.
-/

namespace Rapidapp

/-- What was written to a connection. -/
def World.output {σ γ : Type} (w : World σ γ) (c : NetPtr) : List UInt8 :=
  match (w.heap.nets c).bind (·.hevent) with
  | none => []
  | some b =>
    match w.heap.bevs b with
    | none => []
    | some e => e.output

theorem World.Wired.output_eq {σ γ : Type} {w : World σ γ} {c : NetPtr} {out : List UInt8}
    (h : w.Wired c out) : w.output c = out := by
  obtain ⟨n, b, e, hl, _, rfl⟩ := h
  simp only [World.output, hl.net, Option.bind_some, hl.hevent, hl.bev]

namespace Connector

open TSocketUtil World ConnectorSession Framing

/-! ## What the messages say -/

def upOf (m : CSMsg) : Up (List UInt8) :=
  if m.head.bodyid = CSBodyCmdId.syn.value then .syn
  else if m.head.bodyid = CSBodyCmdId.authentication.value then .auth
  else if m.head.bodyid = CSBodyCmdId.dataTransparent.value then .data (m.body.data.getD [])
  else .other

def downOf (m : CSMsg) : Down (List UInt8) :=
  if m.head.bodyid = CSBodyCmdId.synack.value then .synack
  else if m.head.bodyid = CSBodyCmdId.passport.value then .passport
  else if m.head.bodyid = CSBodyCmdId.startApp.value then .start
  else if m.head.bodyid = CSBodyCmdId.dataTransparent.value then .data (m.body.data.getD [])
  else .other

theorem downOf_downSideMsg (sequence : UInt64) (data : List UInt8) :
    downOf (downSideMsg sequence data) = .data data := rfl

/-- The messages to the server that are about the client. -/
def askOf (r : Route) (m : SSMsg) : Option (Ask (List UInt8)) :=
  if r.isFor m then
    some (if m.head.bodyid = SSBodyCmdId.syn.value then .start
      else if m.head.bodyid = SSBodyCmdId.data.value then .data (m.body.data.getD [])
      else .other)
  else none

theorem askOf_startMsg (r : Route) (sid : UInt32) :
    askOf r (startMsgOf (r.tuple sid)) = some .start := by
  have hfor : r.isFor (startMsgOf (r.tuple sid)) := ⟨rfl, rfl⟩
  rw [askOf, if_pos hfor]
  rfl

theorem askOf_upSideMsg (r : Route) (sid : UInt32) (sequence : UInt64) (data : List UInt8) :
    askOf r (upSideMsgOf (r.tuple sid) sequence data) = some (.data data) := by
  have hfor : r.isFor (upSideMsgOf (r.tuple sid) sequence data) := ⟨rfl, rfl⟩
  rw [askOf, if_pos hfor]
  rfl

/-- The messages of the server that are about the client. -/
def replyOf (r : Route) (m : SSMsg) : Option (Reply (List UInt8)) :=
  if r.isFor m then
    some (if m.head.bodyid = SSBodyCmdId.ack.value then .ack
      else if m.head.bodyid = SSBodyCmdId.data.value then .data (m.body.data.getD [])
      else .other)
  else none

/-! ## The three programs -/

/-- The client and the connector, what the server has written, and how much of each stream was
taken from it. Ghost: the messages the server has had and has written, the payloads that
`PushMessage` has taken, and those that the application had when it popped. -/
structure Conversation where
  client : Client
  world : ConnectorWorld
  answers : List UInt8 := []
  handed : Nat := 0
  received : Nat := 0
  heard : Nat := 0
  relayed : Nat := 0
  told : List SSMsg := []
  answered : List SSMsg := []
  pushed : List (List UInt8) := []
  popped : List (List UInt8) := []

/-- One thing that one of the three does. -/
inductive Action where
  /-- The application calls the client. -/
  | client (e : ClientEvent)
  /-- The connector is handed the next frame of the client. -/
  | hand
  /-- Something else happens to the connector. -/
  | elsewhere (e : Event)
  /-- The server is handed the next frame of the connector. -/
  | hear
  /-- The server writes a message. -/
  | answer (m : SSMsg)
  /-- The connector is handed the next frame of the server. -/
  | relay

/-- The connections are still there, and the counters and lengths have not left their types. -/
structure Route.Keeps (r : Route) (w w' : ConnectorWorld) : Prop where
  client : (w'.heap.nets r.client).isSome = true
  server : (w'.heap.nets r.server).isSome = true
  few : w'.heap.nextNet < 2 ^ 31
  short : (w'.output r.server).length < (w.output r.server).length + 2 ^ 31

instance (r : Route) (w w' : ConnectorWorld) : Decidable (r.Keeps w w') :=
  decidable_of_iff ((w'.heap.nets r.client).isSome = true ∧ (w'.heap.nets r.server).isSome = true ∧
      w'.heap.nextNet < 2 ^ 31 ∧
      (w'.output r.server).length < (w.output r.server).length + 2 ^ 31)
    ⟨fun h => ⟨h.1, h.2.1, h.2.2.1, h.2.2.2⟩, fun h => ⟨h.client, h.server, h.few, h.short⟩⟩

instance (net : NetOutcome) : Decidable (Works net) :=
  decidable_of_iff (0 ≤ net.check ∧ net.recv ≠ .received [] ∧ net.recv ≠ .failed ∧
      net.send ≠ .failed)
    ⟨fun h => ⟨h.1, h.2.1, h.2.2.1, h.2.2.2⟩, fun h => ⟨h.check, h.received, h.recv, h.send⟩⟩

instance (r : Route) (w : ConnectorWorld) : ∀ e : Event, Decidable (e.Elsewhere r w)
  | .backEnd _ => isFalse id
  | .connect _ _ _ => isTrue trivial
  | .frontEndSocket _ _ => inferInstanceAs (Decidable (_ ≠ _))
  | .backEndSocket _ _ => inferInstanceAs (Decidable (_ ≠ _))
  | .frontEndMsg _ _ _ => inferInstanceAs (Decidable (_ ≠ _))
  | .backEndMsg _ _ => isFalse id
  | .tick _ _ => isTrue trivial
  | .input _ _ => isTrue trivial
  | .countPkg _ => isTrue trivial
  | .drain _ _ => isTrue trivial
  | .countTraffic _ _ => isTrue trivial

namespace Conversation

variable (app : ConnectorApp) (r : Route)

/-- The application of the client was told that the handshake is done. -/
def Succeeded (c : Conversation) : Prop := .onHandShakeSucceed ∈ c.client.calls

instance (c : Conversation) : Decidable c.Succeeded := inferInstanceAs (Decidable (_ ∈ _))

/-- The server may accept the client: it was told of it, and has not answered yet. -/
def Accepts (c : Conversation) (m : SSMsg) : Prop :=
  m.head.bodyid = SSBodyCmdId.ack.value ∧
    (∃ q ∈ c.told, r.isFor q ∧ q.head.bodyid = SSBodyCmdId.syn.value) ∧
    ∀ q ∈ c.answered, ¬ r.isFor q

/-- The server may send the payload: it has accepted the client, under this session id. -/
def Sends (c : Conversation) (m : SSMsg) : Prop :=
  m.head.bodyid = SSBodyCmdId.data.value ∧ m.body.data.getD [] ≠ [] ∧
    (m.body.data.getD []).length < 2 ^ 30 ∧
    ∃ q ∈ c.answered, r.isFor q ∧ q.head.bodyid = SSBodyCmdId.ack.value ∧
      q.head.session.sid = m.head.session.sid

/-- What the server may write; about other clients, anything. -/
def MayAnswer (c : Conversation) (m : SSMsg) : Prop :=
  (ssFrame app.pb m).length < 2 ^ 31 ∧ (r.isFor m → Accepts r c m ∨ Sends r c m)

instance (c : Conversation) (m : SSMsg) : Decidable (MayAnswer app r c m) :=
  inferInstanceAs (Decidable (_ ∧ (_ → (_ ∧ (∃ q ∈ _, _) ∧ ∀ q ∈ _, _) ∨
    (_ ∧ _ ∧ _ ∧ ∃ q ∈ _, _))))

def step (c : Conversation) : Action → Option Conversation
  | .client (.update net) =>
    if Works net ∧ net.recv.bytes.length ≤ offered c.client.tcpSock ∧
        c.client.Fits app.pb (.update net) ∧
        c.client.arriving net <+: (c.world.output r.client).drop c.received then
      some { c with
        client := (c.client.update app.pb net).2
        received := c.received + (c.client.arriving net).length }
    else none
  | .client (.pushMessage data send) =>
    if c.Succeeded ∧ send ≠ .failed ∧ c.client.Fits app.pb (.pushMessage data send) then
      let push := c.client.pushMessage app.pb data send
      some { c with
        client := push.2
        pushed := if push.1 = 0 then c.pushed ++ [data] else c.pushed }
    else none
  | .client .peekMessage =>
    if c.Succeeded then some { c with client := (c.client.peekMessage app.pb).2.2 } else none
  | .client .popMessage =>
    if c.Succeeded then
      some { c with
        client := c.client.popMessage.2
        popped := c.popped ++ (c.client.peeked app.pb).toList }
    else none
  | .hand =>
    match msgDecoder.next (c.client.sent.drop c.handed) with
    | none => none
    | some n =>
      let w := (app.onRecvFrontEnd r.client (payloadBytes c.client.sent c.handed n)
        (payloadSize n) c.world).2
      if r.Keeps c.world w then some { c with world := w, handed := c.handed + n } else none
  | .elsewhere e =>
    match app.step c.world e with
    | none => none
    | some w => if e.Elsewhere r c.world ∧ r.Keeps c.world w then some { c with world := w } else none
  | .hear =>
    let out := c.world.output r.server
    match msgDecoder.next (out.drop c.heard) with
    | none => none
    | some n =>
      some { c with
        heard := c.heard + n
        told := c.told ++ [app.pb.parseSSMsg (payloadBytes out c.heard n) (payloadSize n)] }
  | .answer m =>
    if MayAnswer app r c m then
      some { c with answers := c.answers ++ ssFrame app.pb m, answered := c.answered ++ [m] }
    else none
  | .relay =>
    match msgDecoder.next (c.answers.drop c.relayed) with
    | none => none
    | some n =>
      let w := (app.onRecvBackEnd (payloadBytes c.answers c.relayed n) (payloadSize n) c.world).2
      if r.Keeps c.world w then some { c with world := w, relayed := c.relayed + n } else none

end Conversation

end Connector

end Rapidapp
