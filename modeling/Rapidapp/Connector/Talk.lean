import Mathlib.Logic.Relation
import Rapidapp.Misc.Lane

/-!
# What the connector is for

A client and a backend server talk through the connector: first a handshake, then payloads in both
directions. Here the four directions are lanes of messages, and every party says what it is meant
to say; `δ` is the type of a payload. `Talk.Ok` is what holds of all four lanes together. It
determines what each party can be handed next, and with it which payload arrives where: every one,
once, in order.
-/

namespace Rapidapp.Connector

open Framing

variable {δ : Type*}

/-! ## The messages -/

/-- From a client to the connector. -/
inductive Up (δ : Type*) where
  | syn
  | auth
  | data (payload : δ)
  | other

/-- From the connector to a backend server. -/
inductive Ask (δ : Type*) where
  | start
  | data (payload : δ)
  | other

/-- From a backend server to the connector. -/
inductive Reply (δ : Type*) where
  | ack
  | data (payload : δ)
  | other

/-- From the connector to a client. -/
inductive Down (δ : Type*) where
  | synack
  | passport
  | start
  | data (payload : δ)
  | other

def Up.payload : Up δ → Option δ
  | .data d => some d
  | _ => none

def Ask.payload : Ask δ → Option δ
  | .data d => some d
  | _ => none

def Reply.payload : Reply δ → Option δ
  | .data d => some d
  | _ => none

def Down.payload : Down δ → Option δ
  | .data d => some d
  | _ => none

/-- What the connector tells the server when it is handed a message of the client. -/
def Up.asks : Up δ → List (Ask δ)
  | .auth => [.start]
  | .data d => [.data d]
  | _ => []

/-- What it answers the client. -/
def Up.answers : Up δ → List (Down δ)
  | .syn => [.synack]
  | .auth => [.passport]
  | _ => []

/-- What it tells the client when it is handed a message of the server. -/
def Reply.tells : Reply δ → List (Down δ)
  | .ack => [.start]
  | .data d => [.data d]
  | .other => []

/-- The server is told of the client. -/
def Ask.starts : Ask δ → Option Unit
  | .start => some ()
  | _ => none

/-- The client authenticates itself. -/
def Up.auths : Up δ → Option Unit
  | .auth => some ()
  | _ => none

/-- Payloads of the server become payloads for the client. -/
theorem flatMap_tells (ds : List δ) :
    (ds.map Reply.data).flatMap Reply.tells = ds.map Down.data := by
  rw [List.flatMap_map, List.map_eq_flatMap]
  rfl

/-! ## The parties -/

/-- The four directions between a client, the connector and a server. -/
structure Talk (δ : Type*) where
  up : Lane (Up δ)
  ask : Lane (Ask δ)
  reply : Lane (Reply δ)
  down : Lane (Down δ)

namespace Talk

def start : Talk δ := ⟨.empty, .empty, .empty, .empty⟩

/-- One thing one party does. -/
inductive Step : Talk δ → Talk δ → Prop
  /-- The client begins. -/
  | syn {t : Talk δ} (h : t.up.all = []) : Step t { t with up := t.up.put [.syn] }
  /-- It has the key, and authenticates itself. -/
  | synack {t : Talk δ} {down : Lane (Down δ)} (h : t.down.Takes .synack down)
      (hfirst : t.down.past = []) :
      Step t { t with up := t.up.put [.auth], down := down }
  /-- It takes what comes after that. -/
  | take {t : Talk δ} {m : Down δ} {down : Lane (Down δ)} (h : t.down.Takes m down)
      (hfirst : t.down.past ≠ []) : Step t { t with down := down }
  /-- The handshake is done, and it has something to say. -/
  | push {t : Talk δ} (d : δ) (h : 3 ≤ t.down.past.length) :
      Step t { t with up := t.up.put [.data d] }
  /-- The connector is handed a message of the client. -/
  | hand {t : Talk δ} {m : Up δ} {up : Lane (Up δ)} (h : t.up.Takes m up) :
      Step t { t with up := up, ask := t.ask.put m.asks, down := t.down.put m.answers }
  /-- The server is handed a message. -/
  | hear {t : Talk δ} {m : Ask δ} {ask : Lane (Ask δ)} (h : t.ask.Takes m ask) :
      Step t { t with ask := ask }
  /-- The server accepts a client that is announced, once. -/
  | ack {t : Talk δ} (h : .start ∈ t.ask.past) (honce : t.reply.all = []) :
      Step t { t with reply := t.reply.put [.ack] }
  /-- It has something to say to a client it has accepted. -/
  | reply {t : Talk δ} (d : δ) (h : .ack ∈ t.reply.all) :
      Step t { t with reply := t.reply.put [.data d] }
  /-- The connector is handed a message of the server. -/
  | relay {t : Talk δ} {m : Reply δ} {reply : Lane (Reply δ)} (h : t.reply.Takes m reply) :
      Step t { t with reply := reply, down := t.down.put m.tells }

/-- Any number of them. -/
abbrev Steps : Talk δ → Talk δ → Prop := Relation.ReflTransGen Step

/-! ## What holds of the four lanes -/

/-- The client has sent the first `n` messages of the handshake, and these payloads. -/
def said (n : Nat) (ds : List δ) : List (Up δ) := [Up.syn, Up.auth].take n ++ ds.map Up.data

/-- What the parties have said belongs together. -/
structure Ok (t : Talk δ) : Prop where
  up : ∃ n, ∃ ds : List δ, t.up.all = said n ds ∧ n ≤ 2 ∧ (n = 2 ↔ t.down.past ≠ []) ∧
    (ds ≠ [] → 3 ≤ t.down.past.length)
  ask : t.ask.all = t.up.past.flatMap Up.asks
  reply : t.reply.all = [] ∨ ∃ ds : List δ, t.reply.all = .ack :: ds.map Reply.data
  started : t.reply.all ≠ [] → .start ∈ t.ask.past
  down : t.down.all =
    [Down.synack, Down.passport].take t.up.past.length ++ t.reply.past.flatMap Reply.tells

theorem ok_start : Ok (start : Talk δ) where
  up := ⟨0, [], rfl, by omega, by simp [start, Lane.empty], by simp⟩
  ask := rfl
  reply := .inl rfl
  started h := absurd rfl h
  down := rfl

variable {t t' : Talk δ}

/-- The message that is taken stands behind those that were. -/
theorem getElem?_of_takes {μ : Type*} {m : μ} {l l' : Lane μ} (h : l.Takes m l') :
    l.all[l.past.length]? = some m := by
  rw [Lane.all, List.getElem?_append_right (le_refl _), Nat.sub_self, h.ahead]
  rfl

/-- What stands where in a list that begins with a part of a fixed opening, and goes on behind it
only when the opening is complete. -/
theorem getElem?_opening {α : Type*} {opening : List α} {n k : Nat} {f : δ → α} {ds : List δ}
    {m : α} (hds : ds ≠ [] → n = opening.length)
    (h : (opening.take n ++ ds.map f)[k]? = some m) :
    opening[k]? = some m ∨ opening.length ≤ k ∧ ∃ d ∈ ds, m = f d := by
  by_cases hk : k < (opening.take n).length
  · rw [List.getElem?_append_left hk, List.getElem?_take] at h
    split_ifs at h
    exact .inl h
  · rw [List.getElem?_append_right (not_lt.mp hk)] at h
    obtain ⟨d, hd, rfl⟩ := List.mem_map.mp (List.mem_of_getElem? h)
    rw [hds (List.ne_nil_of_mem hd), List.take_length] at hk
    exact .inr ⟨not_lt.mp hk, d, hd, rfl⟩

namespace Ok

/-- What stands where among the messages of the client. -/
theorem getElem?_up (h : Ok t) {k : Nat} {m : Up δ} (hm : t.up.all[k]? = some m) :
    k = 0 ∧ m = .syn ∨ k = 1 ∧ m = .auth ∨
      2 ≤ k ∧ (∃ d, m = .data d) ∧ 3 ≤ t.down.past.length := by
  obtain ⟨n, ds, hall, hn, hiff, hds⟩ := h.up
  have htwo : ds ≠ [] → n = 2 := by
    intro hd
    have hthree := hds hd
    exact hiff.mpr (List.ne_nil_of_length_pos (by omega))
  rw [hall, said] at hm
  obtain hopening | ⟨hle, d, hd, rfl⟩ := getElem?_opening htwo hm
  · match k, hopening with
    | 0, heq => exact .inl ⟨rfl, (Option.some.inj heq).symm⟩
    | 1, heq => exact .inr (.inl ⟨rfl, (Option.some.inj heq).symm⟩)
  · exact .inr (.inr ⟨hle, ⟨d, rfl⟩, hds (List.ne_nil_of_mem hd)⟩)

/-- What the connector is handed next. -/
theorem next_up (h : Ok t) {m : Up δ} {up : Lane (Up δ)} (hm : t.up.Takes m up) :
    t.up.past.length = 0 ∧ m = .syn ∨ t.up.past.length = 1 ∧ m = .auth ∨
      2 ≤ t.up.past.length ∧ (∃ d, m = .data d) ∧ 3 ≤ t.down.past.length :=
  h.getElem?_up (getElem?_of_takes hm)

/-- A server that has said something was told of the client, which was authenticated. -/
theorem authed (h : Ok t) (hreply : t.reply.all ≠ []) : 2 ≤ t.up.past.length := by
  have hstart : .start ∈ t.up.past.flatMap Up.asks := by
    rw [← h.ask]
    exact t.ask.past_prefix.subset (h.started hreply)
  obtain ⟨m, hm, hasks⟩ := List.mem_flatMap.mp hstart
  obtain ⟨k, hk, hget⟩ := List.mem_iff_getElem.mp hm
  have hall : t.up.all[k]? = some m := by
    rw [Lane.all, List.getElem?_append_left hk, List.getElem?_eq_getElem hk, hget]
  obtain ⟨_, rfl⟩ | ⟨hone, _⟩ | ⟨hle, _⟩ := h.getElem?_up hall
  · cases hasks
  · omega
  · omega

/-- What the client has had of the answers and what comes from the server. -/
theorem length_down (h : Ok t) : t.down.all.length =
    min t.up.past.length 2 + (t.reply.past.flatMap Reply.tells).length := by
  rw [h.down, List.length_append, List.length_take]
  rfl

/-- The client is told that the server has accepted it only after the server has. -/
theorem accepted (h : Ok t) (hthree : 3 ≤ t.down.past.length) : t.reply.past ≠ [] := by
  intro hnil
  have hlen := h.length_down
  have hle := t.down.past_prefix.length_le
  rw [hnil, List.flatMap_nil, List.length_nil] at hlen
  omega

/-- What the connector is handed next by the server: the acceptance first, payloads after it. -/
theorem next_reply (h : Ok t) {m : Reply δ} {reply : Lane (Reply δ)} (hm : t.reply.Takes m reply) :
    t.reply.past = [] ∧ m = .ack ∨ t.reply.past ≠ [] ∧ ∃ d, m = .data d := by
  have hget := getElem?_of_takes hm
  obtain hnil | ⟨ds, hall⟩ := h.reply
  · rw [hnil] at hget
    cases hget
  rw [hall] at hget
  cases hpast : t.reply.past with
  | nil =>
    rw [hpast] at hget
    exact .inl ⟨rfl, (Option.some.inj hget).symm⟩
  | cons a past =>
    rw [hpast, List.length_cons, List.getElem?_cons_succ] at hget
    obtain ⟨d, _, rfl⟩ := List.mem_map.mp (List.mem_of_getElem? hget)
    exact .inr ⟨List.cons_ne_nil _ _, d, rfl⟩

/-- What the client was told: the handshake, then payloads of the server. -/
theorem down_eq (h : Ok t) : ∃ n, ∃ ds : List δ,
    t.down.all = [Down.synack, Down.passport, Down.start].take n ++ ds.map Down.data ∧
      (ds ≠ [] → n = 3) := by
  rw [h.down]
  cases hpast : t.reply.past with
  | nil =>
    refine ⟨min t.up.past.length 2, [], ?_, fun hd => absurd rfl hd⟩
    have htake := List.take_take (l := [Down.synack, Down.passport, (Down.start : Down δ)])
      (i := t.up.past.length) (j := 2)
    rw [← htake]
    simp
  | cons a past =>
    have htwo := h.authed (List.append_ne_nil_of_left_ne_nil (by rw [hpast]; simp) _)
    obtain hnil | ⟨ds, hall⟩ := h.reply
    · rw [Lane.all, hpast] at hnil
      cases hnil
    rw [Lane.all, hpast, List.cons_append, List.cons.injEq] at hall
    obtain ⟨rfl, hrest⟩ := hall
    refine ⟨3, ds.take past.length, ?_, fun _ => rfl⟩
    have hpayloads : past.flatMap Reply.tells = (ds.take past.length).map Down.data := by
      rw [← flatMap_tells, List.map_take, ← hrest, List.take_left]
    rw [List.flatMap_cons, hpayloads, List.take_of_length_le htwo]
    rfl

/-- What the client takes next. -/
theorem next_down (h : Ok t) {m : Down δ} {down : Lane (Down δ)} (hm : t.down.Takes m down) :
    t.down.past.length = 0 ∧ m = .synack ∨ t.down.past.length = 1 ∧ m = .passport ∨
      t.down.past.length = 2 ∧ m = .start ∨ 3 ≤ t.down.past.length ∧ ∃ d, m = .data d := by
  obtain ⟨n, ds, hall, hds⟩ := h.down_eq
  have hget := getElem?_of_takes hm
  rw [hall] at hget
  obtain hopening | ⟨hle, d, _, rfl⟩ := getElem?_opening hds hget
  · match hk : t.down.past.length, hopening with
    | 0, heq => exact .inl ⟨rfl, (Option.some.inj heq).symm⟩
    | 1, heq => exact .inr (.inl ⟨rfl, (Option.some.inj heq).symm⟩)
    | 2, heq => exact .inr (.inr (.inl ⟨rfl, (Option.some.inj heq).symm⟩))
  · exact .inr (.inr (.inr ⟨hle, d, rfl⟩))

/-- Nothing is said to a client before the first of its messages arrives. -/
theorem begun (h : Ok t) (hdown : t.down.all ≠ []) : t.up.past ≠ [] := by
  intro hnil
  refine hdown ?_
  rw [h.down, hnil, List.length_nil, List.take_zero, List.nil_append]
  cases hpast : t.reply.past with
  | nil => rfl
  | cons a past =>
    have htwo := h.authed (List.append_ne_nil_of_left_ne_nil (by rw [hpast]; simp) _)
    rw [hnil] at htwo
    cases htwo

/-! ## Every step keeps it -/

theorem syn (h : Ok t) (hnone : t.up.all = []) : Ok { t with up := t.up.put [.syn] } := by
  obtain ⟨n, ds, hall, hn, hiff, hds⟩ := h.up
  rw [hnone] at hall
  obtain ⟨hopening, _⟩ := List.append_eq_nil_iff.mp hall.symm
  have hzero : n = 0 := by simpa using hopening
  have hpast : t.down.past = [] := by
    by_contra hne
    have htwo := hiff.mpr hne
    omega
  exact {
    up := ⟨1, [], by rw [Lane.all_put, hnone]; rfl, by omega, by simp [hpast], by simp⟩
    ask := h.ask
    reply := h.reply
    started := h.started
    down := h.down }

theorem synack (h : Ok t) {down : Lane (Down δ)} (htake : t.down.Takes .synack down)
    (hnil : t.down.past = []) : Ok { t with up := t.up.put [.auth], down := down } := by
  obtain ⟨n, ds, hall, hn, hiff, hds⟩ := h.up
  have hnone : ds = [] := by
    by_contra hne
    have hthree := hds hne
    rw [hnil, List.length_nil] at hthree
    omega
  have hne : n ≠ 2 := fun htwo => hiff.mp htwo hnil
  -- the answer shows that the first message was sent
  have hpos : n ≠ 0 := by
    rintro rfl
    have hdown : t.down.all ≠ [] := by simp [Lane.all, htake.ahead]
    rw [hnone] at hall
    exact h.begun hdown (List.append_eq_nil_iff.mp hall).1
  obtain rfl : n = 1 := by omega
  subst hnone
  exact {
    up := ⟨2, [], by rw [Lane.all_put, hall]; rfl, le_refl _, by simp [htake.past], by simp⟩
    ask := h.ask
    reply := h.reply
    started := h.started
    down := htake.all.trans h.down }

theorem take (h : Ok t) {m : Down δ} {down : Lane (Down δ)} (htake : t.down.Takes m down)
    (hne : t.down.past ≠ []) : Ok { t with down := down } := by
  obtain ⟨n, ds, hall, hn, hiff, hds⟩ := h.up
  refine { up := ⟨n, ds, hall, hn, ?_, ?_⟩, ask := h.ask, reply := h.reply, started := h.started,
           down := htake.all.trans h.down }
  · simp [hiff, hne, htake.past]
  · intro hd
    have hthree := hds hd
    change 3 ≤ down.past.length
    rw [htake.past, List.length_append]
    omega

theorem push (h : Ok t) (d : δ) (hthree : 3 ≤ t.down.past.length) :
    Ok { t with up := t.up.put [.data d] } := by
  obtain ⟨n, ds, hall, hn, hiff, hds⟩ := h.up
  refine { up := ⟨n, ds ++ [d], ?_, hn, hiff, fun _ => hthree⟩, ask := h.ask, reply := h.reply,
           started := h.started, down := h.down }
  rw [Lane.all_put, hall, said, said, List.map_append, List.append_assoc]
  rfl

theorem hand (h : Ok t) {m : Up δ} {up : Lane (Up δ)} (htake : t.up.Takes m up) :
    Ok { t with up := up, ask := t.ask.put m.asks, down := t.down.put m.answers } := by
  obtain ⟨n, ds, hall, hrest⟩ := h.up
  refine { up := ⟨n, ds, htake.all.trans hall, hrest⟩, ask := ?_, reply := h.reply,
           started := h.started, down := ?_ }
  · rw [Lane.all_put, h.ask, htake.past, List.flatMap_append, List.flatMap_singleton]
  have hlen : up.past.length = t.up.past.length + 1 := by rw [htake.past, List.length_append]; rfl
  have hquiet : t.up.past.length < 2 → t.reply.past = [] := by
    intro hlt
    by_contra hne
    have htwo := h.authed (List.append_ne_nil_of_left_ne_nil hne _)
    omega
  rw [Lane.all_put, h.down, hlen]
  obtain ⟨hzero, rfl⟩ | ⟨hone, rfl⟩ | ⟨hle, ⟨d, rfl⟩, _⟩ := h.next_up htake
  · rw [hquiet (by omega), hzero]
    rfl
  · rw [hquiet (by omega), hone]
    rfl
  · rw [List.take_of_length_le (by simpa using hle),
      List.take_of_length_le (by simpa using Nat.le_succ_of_le hle)]
    exact List.append_nil _

theorem hear (h : Ok t) {m : Ask δ} {ask : Lane (Ask δ)} (htake : t.ask.Takes m ask) :
    Ok { t with ask := ask } where
  up := h.up
  ask := htake.all.trans h.ask
  reply := h.reply
  started hreply := by
    change .start ∈ ask.past
    rw [htake.past]
    exact List.mem_append_left _ (h.started hreply)
  down := h.down

theorem ack (h : Ok t) (hstart : .start ∈ t.ask.past) (honce : t.reply.all = []) :
    Ok { t with reply := t.reply.put [.ack] } where
  up := h.up
  ask := h.ask
  reply := .inr ⟨[], by rw [Lane.all_put, honce]; rfl⟩
  started _ := hstart
  down := h.down

theorem answer (h : Ok t) (d : δ) (hack : .ack ∈ t.reply.all) :
    Ok { t with reply := t.reply.put [.data d] } := by
  have hne := List.ne_nil_of_mem hack
  refine { up := h.up, ask := h.ask, reply := .inr ?_, started := fun _ => h.started hne,
           down := h.down }
  obtain hnil | ⟨ds, hall⟩ := h.reply
  · exact absurd hnil hne
  · refine ⟨ds ++ [d], ?_⟩
    rw [Lane.all_put, hall, List.map_append]
    rfl

theorem relay (h : Ok t) {m : Reply δ} {reply : Lane (Reply δ)} (htake : t.reply.Takes m reply) :
    Ok { t with reply := reply, down := t.down.put m.tells } where
  up := h.up
  ask := h.ask
  reply := htake.all.symm ▸ h.reply
  started hreply := h.started (htake.all ▸ hreply)
  down := by
    rw [Lane.all_put, h.down, htake.past, List.flatMap_append, List.flatMap_singleton,
      List.append_assoc]

theorem step (h : Ok t) (hstep : Step t t') : Ok t' := by
  cases hstep with
  | syn hnone => exact h.syn hnone
  | synack htake hfirst => exact h.synack htake hfirst
  | take htake hfirst => exact h.take htake hfirst
  | push d hthree => exact h.push d hthree
  | hand htake => exact h.hand htake
  | hear htake => exact h.hear htake
  | ack hstart honce => exact h.ack hstart honce
  | reply d hack => exact h.answer d hack
  | relay htake => exact h.relay htake

theorem steps (h : Ok t) (hsteps : Steps t t') : Ok t' := by
  induction hsteps with
  | refl => exact h
  | tail _ hstep ih => exact ih.step hstep

/-! ## A client is announced once -/

theorem filterMap_starts (ms : List (Up δ)) :
    (ms.flatMap Up.asks).filterMap Ask.starts = ms.filterMap Up.auths := by
  induction ms with
  | nil => rfl
  | cons m ms ih =>
    rw [List.flatMap_cons, List.filterMap_append, ih]
    cases m <;> rfl

/-- The client authenticates itself at most once. -/
theorem length_auths_le (h : Ok t) : (t.up.all.filterMap Up.auths).length ≤ 1 := by
  obtain ⟨n, ds, hall, _⟩ := h.up
  have hdata : (ds.map Up.data).filterMap (Up.auths : Up δ → Option Unit) = [] := by
    refine List.filterMap_eq_nil_iff.mpr fun m hm => ?_
    obtain ⟨d, _, rfl⟩ := List.mem_map.mp hm
    rfl
  rw [hall, said, List.filterMap_append, hdata, List.append_nil]
  exact ((List.take_sublist n [Up.syn, (Up.auth : Up δ)]).filterMap Up.auths).length_le

/-- When the server is told of the client, it has said nothing about it. -/
theorem unanswered (h : Ok t) {ask : Lane (Ask δ)} (hm : t.ask.Takes .start ask) :
    t.reply.all = [] := by
  by_contra hne
  have hpast : () ∈ t.ask.past.filterMap Ask.starts :=
    List.mem_filterMap.mpr ⟨.start, h.started hne, rfl⟩
  have hone := List.length_pos_of_mem hpast
  have hle := h.length_auths_le
  -- one announcement was heard, and another one is ahead
  have hsplit : (t.ask.all.filterMap Ask.starts).length = (t.ask.past.filterMap Ask.starts).length +
      ((ask.ahead.filterMap Ask.starts).length + 1) := by
    rw [Lane.all, hm.ahead, List.filterMap_append, List.length_append,
      List.filterMap_cons_some (show Ask.starts (.start : Ask δ) = some () from rfl),
      List.length_cons]
  have hsub := (t.up.past_prefix.sublist.filterMap Up.auths).length_le
  rw [h.ask, filterMap_starts] at hsplit
  omega

/-! ## What arrives -/

theorem filterMap_asks (ms : List (Up δ)) :
    (ms.flatMap Up.asks).filterMap Ask.payload = ms.filterMap Up.payload := by
  induction ms with
  | nil => rfl
  | cons m ms ih =>
    rw [List.flatMap_cons, List.filterMap_append, ih]
    cases m <;> rfl

theorem filterMap_tells (ms : List (Reply δ)) :
    (ms.flatMap Reply.tells).filterMap Down.payload = ms.filterMap Reply.payload := by
  induction ms with
  | nil => rfl
  | cons m ms ih =>
    rw [List.flatMap_cons, List.filterMap_append, ih]
    cases m <;> rfl

/-- The payloads the client has sent are with the server, on the way to it, or on the way to the
connector: in this order, each in one place. -/
theorem pushed_eq (h : Ok t) : t.up.all.filterMap Up.payload =
    t.ask.past.filterMap Ask.payload ++ t.ask.ahead.filterMap Ask.payload ++
      t.up.ahead.filterMap Up.payload := by
  rw [← List.filterMap_append, ← Lane.all, h.ask, filterMap_asks, ← List.filterMap_append,
    ← Lane.all]

/-- So are those of the server. -/
theorem answered_eq (h : Ok t) : t.reply.all.filterMap Reply.payload =
    t.down.past.filterMap Down.payload ++ t.down.ahead.filterMap Down.payload ++
      t.reply.ahead.filterMap Reply.payload := by
  have hopening : ([Down.synack, Down.passport].take t.up.past.length).filterMap
      (Down.payload : Down δ → Option δ) = [] := by
    refine List.filterMap_eq_nil_iff.mpr fun m hm => ?_
    obtain rfl | rfl | hm := (List.mem_cons.mp (List.mem_of_mem_take hm)).imp_right
      List.mem_cons.mp
    · rfl
    · rfl
    · cases hm
  rw [← List.filterMap_append, ← Lane.all, h.down, List.filterMap_append, hopening, List.nil_append,
    filterMap_tells, ← List.filterMap_append, ← Lane.all]

end Ok

end Talk

end Rapidapp.Connector
