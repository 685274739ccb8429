import Rapidapp.Connector.ConversationOk

/-!
# A client connects

The connector has a backend server that is up, and accepts the connection of a client. From then on
it serves the client, whose session is new.
-/

namespace Rapidapp.Connector

open TSocketUtil World ConnectorSession Framing Decoder

/-- A connector whose only backend server is up, and is about to give the client of the route its
connection; `up` was written to the server before. -/
structure Ready (r : Route) (w : ConnectorWorld) (up : List UInt8) : Prop where
  inv : Inv w
  fate : ∀ i, w.heap.fate i = true
  backEnds : w.app.backends = [r.server]
  server : w.Wired r.server up
  client : w.heap.nextNet = r.client
  nid : w.heap.nidSeed = r.nid

variable {app : ConnectorApp} {r : Route} {w w' : ConnectorWorld} {up : List UInt8}

/-- The object of the connection that is accepted, with its session. -/
def acceptedNet (w : ConnectorWorld) : EasyNet ConnectorSession :=
  { openedNet w.heap 0 .netEstablished with
    userContext := some (ConnectorSession.new.init w.heap.nextNet)
    lastActiveTimestamp := w.now }

/-- The connector with a connection that it has just accepted. -/
def opened (r : Route) (w : ConnectorWorld) : ConnectorWorld :=
  let w₁ := w.openAt .frontEnd r.fd 0 .netEstablished
  { w₁ with heap := w₁.heap.setNet w.heap.nextNet (acceptedNet w) }

theorem step_connect (hfd : w.FdUnused r.fd) :
    app.step w (.connect r.fd true true) = some (opened r w) := by
  rw [ConnectorApp.step, if_pos hfd, onFrontEndConnect_eq w _ hfd.1, opened, acceptedNet]
  simp only [Bool.true_eq_false, if_false, ConnectorApp.onFrontEndConnect, World.getUserContext,
    World.setUserContext, Heap.setNet, Function.update_self, Function.update_idem,
    Option.bind_some]

theorem nets_opened (r : Route) (w : ConnectorWorld) :
    (opened r w).heap.nets = Function.update w.heap.nets w.heap.nextNet (some (acceptedNet w)) := by
  rw [opened, Heap.setNet, nets_openAt, Function.update_idem]

theorem live_opened (r : Route) (w : ConnectorWorld) :
    (opened r w).heap.Live w.heap.nextNet (acceptedNet w) w.heap.nextBev ⟨r.fd, [], [], []⟩ where
  net := by rw [nets_opened, Function.update_self]
  hevent := rfl
  bev := (w.live_openAt .frontEnd r.fd 0 .netEstablished).bev

namespace Ready

theorem server_lt (h : Ready r w up) : r.server < w.heap.nextNet := by
  obtain ⟨n, b, e, hl, _⟩ := h.server
  exact h.inv.ok.heap.netLt hl.net

/-- The server does not notice. -/
theorem spares_server (h : Ready r w up) :
    Spares r.server w (opened r w) := by
  have hopen : Spares r.server w (w.openAt .frontEnd r.fd 0 .netEstablished) :=
    .openAt h.inv.ok .frontEnd r.fd 0 .netEstablished
  exact hopen.trans h.inv.ok
    (.of_leftAlone (leftAlone_setNet _ h.server_lt.ne _) (le_refl _) rfl)

theorem fate_opened (h : Ready r w up) (i : Nat) : (opened r w).heap.fate i = true := by
  have hfate : (opened r w).heap.fate = w.heap.fate := by
    rw [opened, Heap.setNet, heap_openAt, openNet_eq]
  rw [hfate]
  exact h.fate i

/-- The connector serves the client that it has accepted. -/
theorem serves (h : Ready r w up) (app : ConnectorApp) (hfd : w.FdUnused r.fd) :
    Serves r (opened r w) (ConnectorSession.new.init r.client) [] up where
  inv := (step_session h.inv (@step_connect app r w hfd)).1
  fate := h.fate_opened
  backEnds := h.backEnds
  at_ := h.client ▸ ⟨_, _, _, live_opened r w, rfl, h.nid⟩
  session := by
    rw [World.getUserContext, nets_opened, ← h.client, Function.update_self, Option.bind_some,
      acceptedNet]
  client := h.client ▸ ⟨_, _, _, live_opened r w, rfl, rfl⟩
  server := by
    refine h.spares_server.wired h.server ?_
    obtain ⟨n, b, e, hl, _⟩ := h.server
    rw [nets_opened, Function.update_of_ne h.server_lt.ne, hl.net]
    rfl

end Ready

/-- The connector has accepted the client, which has not begun yet. What is on its way to the
server and back is about others. -/
structure Start (app : ConnectorApp) (r : Route) (asks replies : Lane SSMsg) (c : Conversation) :
    Prop where
  client : ∃ settings fd, 0 ≤ fd ∧ c.client = Client.start settings fd
  world : ∃ w, Ready r w (stream (ssFrame app.pb) asks.all) ∧ w.FdUnused r.fd ∧
    c.world = opened r w
  few : (c.world.heap.nextNet : Int) < 2 ^ 31
  ask : Carries msgDecoder (ssFrame app.pb) (stream (ssFrame app.pb) asks.all) c.heard asks
  told : c.told = asks.past
  reply : Carries msgDecoder (ssFrame app.pb) (stream (ssFrame app.pb) replies.all) c.relayed
    replies
  answers : c.answers = stream (ssFrame app.pb) replies.all
  answered : c.answered = replies.all
  others : ∀ m ∈ asks.all ++ replies.all, ¬ r.isFor m
  short : ∀ m ∈ asks.all ++ replies.all, (ssFrame app.pb m).length < 2 ^ 31
  handed : c.handed = 0
  received : c.received = 0
  pushed : c.pushed = []
  popped : c.popped = []

theorem filterMap_of_others {α : Type*} {f : SSMsg → Option α} (hf : ∀ m, ¬ r.isFor m → f m = none)
    {l : Lane SSMsg} (h : ∀ m ∈ l.all, ¬ r.isFor m) : l.filterMap f = .empty := by
  have hnone : ∀ ms : List SSMsg, (∀ m ∈ ms, m ∈ l.all) → ms.filterMap f = [] := fun ms hms =>
    List.filterMap_eq_nil_iff.mpr fun m hm => hf m (h m (hms m hm))
  rw [Lane.filterMap, hnone _ fun m hm => List.mem_append_left _ hm,
    hnone _ fun m hm => List.mem_append_right _ hm]
  rfl

namespace Start

variable {asks replies : Lane SSMsg} {c : Conversation}

/-- Nothing was said yet. -/
theorem talk_start (h : Start app r asks replies c) :
    Lanes.talk r ⟨.empty, asks, replies, .empty⟩ = Talk.start := by
  have hasks : asks.filterMap (askOf r) = .empty :=
    filterMap_of_others (fun m hm => if_neg hm) fun m hm => h.others m (List.mem_append_left _ hm)
  have hreplies : replies.filterMap (replyOf r) = .empty :=
    filterMap_of_others (fun m hm => if_neg hm) fun m hm => h.others m (List.mem_append_right _ hm)
  simp only [Lanes.talk, hasks, hreplies]
  rfl

theorem holds (h : Start app r asks replies c) :
    Holds app.pb r c ⟨.empty, asks, replies, .empty⟩ (ConnectorSession.new.init r.client) := by
  obtain ⟨settings, fd, hfd, hclient⟩ := h.client
  obtain ⟨w, hready, hunused, hworld⟩ := h.world
  have htalk := h.talk_start
  have hinStep := Client.inStep_start app.pb settings fd
  have hat := Client.at_start settings hfd
  rw [← hclient] at hinStep hat
  have hstart := hclient.trans (Client.start_eq settings hfd)
  have hqueued : c.client.queued = [] := by rw [hstart]
  have hsent : c.client.sent = [] := by rw [hstart]
  have hcontent : c.client.content = [] := by rw [hstart]; rfl
  exact {
    talk := htalk ▸ Talk.ok_start
    inStep := hinStep
    queued := hqueued.symm
    short := by
      rw [hqueued]
      exact fun m hm => absurd hm List.not_mem_nil
    up := by
      rw [hsent, h.handed]
      exact .empty
    few := h.few
    serves := by rw [hworld]; exact hready.serves app hunused
    session := by
      refine ⟨rfl, rfl, ?_, 0, fun m hm hfor => ?_, ?_⟩
      · rw [htalk]
        rfl
      · exact absurd hfor (h.others m (List.mem_append_right _ hm))
      · rw [htalk]
        exact fun hne => absurd rfl hne
    ask := h.ask
    told := h.told
    answers := h.answers
    reply := h.reply
    answered := h.answered
    carriable := fun m hm hfor => absurd hfor (h.others m (List.mem_append_right _ hm))
    asked := fun m hm hfor => absurd hfor (h.others m (List.mem_append_left _ hm))
    shortAsk := fun m hm => h.short m (List.mem_append_left _ hm)
    shortReply := fun m hm => h.short m (List.mem_append_right _ hm)
    shortDown := fun m hm => nomatch hm
    down := by
      rw [h.received]
      exact .empty
    received := by rw [h.received]; exact le_refl _
    content := by
      rw [hcontent, h.received]
      rfl
    client := hat
    pushed := by rw [htalk, h.pushed]; rfl
    solid := by
      rw [h.pushed]
      exact fun d hd => absurd hd List.not_mem_nil
    popped := by rw [htalk, h.popped]; rfl }

end Start

end Rapidapp.Connector
