import Mathlib.Logic.Function.Basic
import Rapidapp.Misc.Run
import Rapidapp.Utils.SocketUri

/-!
# Sockets that `tcp_socket.c` connects

`tcpsocket_connect` and `tcpsocket_connect_nonblock` of `utils/tcp_socket.c`, built for Linux, and
the sockets they leave open. What the system calls of one call answer is an argument.
`tcpsocket_set_nonblock` and `setsockopt` are left out, their results are not looked at.
-/

namespace Rapidapp.TSocket

/-- How far the connection of an open socket has come. -/
inductive ConnState where
  | unconnected
  | inProgress
  | connected
  | failed
  deriving DecidableEq

/-- The sockets a process has open. -/
abbrev SocketTable := Int → Option ConnState

/-- What `connect` answers: 0, or -1 with an `errno`. -/
inductive ConnectResult where
  | ok
  | eisconn
  | einprogress
  | ealready
  | refused
  deriving DecidableEq

/-- What the system calls of one call answer. -/
structure ConnectFates where
  socket : Int
  resolver : Resolver
  connect : ConnectResult
  select : Int
  soError : Int

/-- `FD_SETSIZE`. -/
def fdSetSize : Int := 1024

/-- `TCP_SOCKET_TIMEOUT`. -/
def timedOut : Int := 1

/-- `TCP_SOCKET_INPROGRESS`. -/
def inProgress : Int := 2

/-- The state of this socket is now `state`. -/
def SocketTable.set (t : SocketTable) (sock : Int) (state : ConnState) : SocketTable :=
  Function.update t sock (some state)

/-- `tcpsocket_open` (`tcp_socket.c:301-320`) for a uri that is not null. -/
def open_ (uri : List UInt8) (f : ConnectFates) (t : SocketTable) : Int × SocketTable :=
  if protoOk uri then
    if f.socket < 0 then (f.socket, t) else (f.socket, t.set f.socket .unconnected)
  else (-1, t)

/-- `tcpsocket_socket_connect` (`tcp_socket.c:330-346`). -/
def socketConnect (sock : Int) (f : ConnectFates) (t : SocketTable) : Int × SocketTable :=
  match f.connect with
  | .ok | .eisconn => (0, t.set sock .connected)
  | .einprogress | .ealready => (inProgress, t.set sock .inProgress)
  | .refused => (-1, t.set sock .failed)

/-- `tcpsocket_check_connect` (`tcp_socket.c:349-383`). -/
def checkConnect (sock timeout : Int) (f : ConnectFates) (t : SocketTable) : Int × SocketTable :=
  if timeout < 0 then (-1, t)
  else if sock < fdSetSize then
    if f.select < 0 then (-1, t)
    else if f.select = 0 then (timedOut, t)
    else if f.soError = 0 then (0, t.set sock .connected)
    else (-1, t.set sock .failed)
  else (0, t)

/-- `tcpsocket_check_connect_nonblock` (`tcp_socket.c:205-221`). -/
def checkConnectNonblock (sock timeout : Int) (f : ConnectFates) (t : SocketTable) :
    Int × SocketTable :=
  if sock < 0 ∨ timeout < 0 then (-1, t)
  else
    match socketConnect sock f t with
    | (ret, t) => if ret < 0 then (ret, t) else checkConnect sock timeout f t

/-- `tcpsocket_check_connect_block` (`tcp_socket.c:223-245`). -/
def checkConnectBlock (sock timeout : Int) (f : ConnectFates) (t : SocketTable) :
    Int × SocketTable :=
  if sock < 0 ∨ timeout < 0 then (-1, t)
  else
    match socketConnect sock f t with
    | (ret, t) => if ret ≠ 0 then (ret, t) else (0, t)

/-- `tcpsocket_connect` (`tcp_socket.c:412-459`). -/
def connect (uri : Option (List UInt8)) (timeout : Int) (f : ConnectFates) (t : SocketTable) :
    Int × SocketTable :=
  match uri with
  | none => (-1, t)
  | some uri =>
    match open_ uri f t with
    | (sock, t) =>
      if sock < 0 then (sock, t)
      else
        match str2inet f.resolver (addrPart uri) with
        | none => (-1, t)
        | some _ =>
          match if sock < fdSetSize then checkConnectNonblock sock timeout f t
            else checkConnectBlock sock timeout f t with
          | (ret, t) => if ret ≠ 0 then (-1, t) else (sock, t)

/-- `tcpsocket_connect_nonblock` (`tcp_socket.c:462-531`). -/
def connectNonblock (uri : Option (List UInt8)) (f : ConnectFates) (t : SocketTable) :
    Int × SocketTable :=
  match uri with
  | none => (-1, t)
  | some uri =>
    match open_ uri f t with
    | (sock, t) =>
      if sock < 0 then (sock, t)
      else
        match str2inet f.resolver (addrPart uri) with
        | none => (-1, t)
        | some _ =>
          match socketConnect sock f t with
          | (ret, t) =>
            if sock < fdSetSize then if ret < 0 then (ret, t) else (sock, t)
            else if ret ≠ 0 then (-1, t) else (sock, t)

/-! ## Calls -/

/-- A call of a process. -/
inductive SocketCall where
  | connect (uri : Option (List UInt8)) (timeout : Int) (f : ConnectFates)
  | connectNonblock (uri : Option (List UInt8)) (f : ConnectFates)
  | close (sock : Int)

/-- The result of a call, and the sockets that are open after it. -/
def SocketCall.perform (t : SocketTable) : SocketCall → Int × SocketTable
  | .connect uri timeout f => TSocket.connect uri timeout f t
  | .connectNonblock uri f => TSocket.connectNonblock uri f t
  | .close sock => (0, Function.update t sock none)

/-- `socket` answers with a descriptor that no open socket has. -/
def SocketCall.NewSocket (t : SocketTable) : SocketCall → Prop
  | .connect _ _ f | .connectNonblock _ f => t f.socket = none
  | .close _ => True

instance (t : SocketTable) (e : SocketCall) : Decidable (e.NewSocket t) := by
  unfold SocketCall.NewSocket
  split <;> infer_instance

def SocketCall.step (t : SocketTable) (e : SocketCall) : Option SocketTable :=
  if e.NewSocket t then some (e.perform t).2 else none

/-- Connected, or on the way. -/
def ConnState.Alive (state : ConnState) : Prop := state = .connected ∨ state = .inProgress

/-- The result is a descriptor exactly if there is a new open socket whose connect has succeeded or
is in progress, and it is the descriptor of such a socket; otherwise no new socket is open. -/
structure ConnectsOrReleases (t t' : SocketTable) (ret : Int) : Prop where
  descriptor : 0 ≤ ret ↔ ∃ fd state, t fd = none ∧ t' fd = some state ∧ state.Alive
  own : 0 ≤ ret → t ret = none ∧ ∃ state, t' ret = some state ∧ state.Alive
  released : ret < 0 → ∀ fd, t fd = none → t' fd = none

/-- The rule for one call. -/
def SocketCall.Clean (t : SocketTable) : SocketCall → Prop
  | .connect uri timeout f =>
    ConnectsOrReleases t (TSocket.connect uri timeout f t).2 (TSocket.connect uri timeout f t).1
  | .connectNonblock uri f =>
    ConnectsOrReleases t (TSocket.connectNonblock uri f t).2 (TSocket.connectNonblock uri f t).1
  | .close _ => True

/-- No socket is opened. -/
def OpensNone (uri : Option (List UInt8)) (f : ConnectFates) : Prop :=
  ∀ u ∈ uri, protoOk u = false ∨ f.socket < 0

/-- The address of the uri resolves. -/
def Resolves (uri : Option (List UInt8)) (f : ConnectFates) : Prop :=
  ∃ u ∈ uri, (str2inet f.resolver (addrPart u)).isSome

namespace ConnectFates

variable (f : ConnectFates)

/-- `connect` answers that the socket is connected. -/
def Connected : Prop := f.connect = .ok ∨ f.connect = .eisconn

/-- The connect check ends well. -/
def Checked (timeout : Int) : Prop :=
  0 ≤ timeout ∧ f.connect ≠ .refused ∧ 0 < f.select ∧ f.soError = 0

/-- Nothing fails in `tcpsocket_connect` once the address is known. -/
def Connects (timeout : Int) : Prop :=
  if f.socket < fdSetSize then f.Checked timeout else 0 ≤ timeout ∧ f.Connected

/-- The same for `tcpsocket_connect_nonblock`. -/
def ConnectsNonblock : Prop :=
  if f.socket < fdSetSize then f.connect ≠ .refused else f.Connected

end ConnectFates

/-- Nothing fails once a socket is open. -/
def SocketCall.NoLateFailure : SocketCall → Prop
  | .connect uri timeout f => OpensNone uri f ∨ Resolves uri f ∧ f.Connects timeout
  | .connectNonblock uri f => OpensNone uri f ∨ Resolves uri f ∧ f.ConnectsNonblock
  | .close _ => True

/-! ## What becomes of the new socket -/

section Outcomes

variable {t : SocketTable} {sock timeout ret : Int} {state : ConnState} {f : ConnectFates}
  {uri : Option (List UInt8)}

@[simp] theorem set_set (t : SocketTable) (sock : Int) (state state' : ConnState) :
    (t.set sock state).set sock state' = t.set sock state' :=
  Function.update_idem _ _ _

/-- No socket was opened. -/
theorem ConnectsOrReleases.none (t : SocketTable) (hret : ret < 0) :
    ConnectsOrReleases t t ret where
  descriptor := by
    constructor
    · intro h
      omega
    · intro ⟨fd, state, hnone, hsome, _⟩
      rw [hnone] at hsome
      cases hsome
  own h := by omega
  released _ _ h := h

/-- The new socket is the result. -/
theorem ConnectsOrReleases.returned (ht : t sock = Option.none) (hsock : 0 ≤ sock)
    (halive : state.Alive) : ConnectsOrReleases t (t.set sock state) sock where
  descriptor := iff_of_true hsock ⟨sock, state, ht, Function.update_self .., halive⟩
  own _ := ⟨ht, state, Function.update_self .., halive⟩
  released h := by omega

/-- The new socket is open and the call has failed. -/
theorem not_connectsOrReleases (ht : t sock = none) (hret : ret < 0) (state : ConnState) :
    ¬ ConnectsOrReleases t (t.set sock state) ret := by
  intro h
  have hnone := h.released hret sock ht
  rw [SocketTable.set, Function.update_self] at hnone
  cases hnone

/-- The three ways a call can end: no socket is opened, it is the result, or it is left behind. -/
inductive Ends (t : SocketTable) (sock : Int) (none_ ok : Prop) : Int × SocketTable → Prop
  | none {ret : Int} (hnone : none_) (hret : ret < 0) : Ends t sock none_ ok (ret, t)
  | returned {state : ConnState} (hok : ok) (hsock : 0 ≤ sock) (halive : state.Alive) :
      Ends t sock none_ ok (sock, t.set sock state)
  | left {ret : Int} (state : ConnState) (hnone : ¬ none_) (hok : ¬ ok) (hret : ret < 0) :
      Ends t sock none_ ok (ret, t.set sock state)

theorem Ends.clean_iff {none_ ok : Prop} {r : Int × SocketTable} (h : Ends t sock none_ ok r)
    (ht : t sock = Option.none) : ConnectsOrReleases t r.2 r.1 ↔ none_ ∨ ok := by
  cases h with
  | none hnone hret => exact iff_of_true (.none t hret) (.inl hnone)
  | returned hok hsock halive => exact iff_of_true (.returned ht hsock halive) (.inr hok)
  | left state hnone hok hret =>
    exact iff_of_false (not_connectsOrReleases ht hret state) (not_or.mpr ⟨hnone, hok⟩)

/-! ## What `connect` does -/

/-- The three answers that the callers of `connect` tell apart. -/
theorem socketConnect_cases (sock : Int) (f : ConnectFates) (t : SocketTable) :
    f.Connected ∧ f.connect ≠ .refused ∧ socketConnect sock f t = (0, t.set sock .connected) ∨
    ¬ f.Connected ∧ f.connect ≠ .refused ∧
      socketConnect sock f t = (inProgress, t.set sock .inProgress) ∨
    ¬ f.Connected ∧ f.connect = .refused ∧ socketConnect sock f t = (-1, t.set sock .failed) := by
  unfold ConnectFates.Connected socketConnect
  cases f.connect <;> simp

theorem checkConnect_cases (hlt : sock < fdSetSize) (htimeout : 0 ≤ timeout)
    (hconnect : f.connect ≠ .refused) (state : ConnState) :
    f.Checked timeout ∧
      checkConnect sock timeout f (t.set sock state) = (0, t.set sock .connected) ∨
    ¬ f.Checked timeout ∧ ∃ ret state', ret ≠ 0 ∧
      checkConnect sock timeout f (t.set sock state) = (ret, t.set sock state') := by
  rw [checkConnect, if_neg (not_lt.mpr htimeout), if_pos hlt, set_set, set_set]
  split_ifs with hneg hzero herror
  · exact .inr ⟨fun h => absurd h.2.2.1 (not_lt.mpr hneg.le), -1, state, by decide, rfl⟩
  · exact .inr ⟨fun h => absurd h.2.2.1 (not_lt.mpr hzero.le), timedOut, state, by decide, rfl⟩
  · exact .inl ⟨⟨htimeout, hconnect, by omega, herror⟩, rfl⟩
  · exact .inr ⟨fun h => herror h.2.2.2, -1, .failed, by decide, rfl⟩

theorem checkConnectNonblock_cases (f : ConnectFates) (t : SocketTable) (timeout : Int)
    (hsock : 0 ≤ sock) (hlt : sock < fdSetSize) :
    f.Checked timeout ∧ checkConnectNonblock sock timeout f (t.set sock .unconnected) =
      (0, t.set sock .connected) ∨
    ¬ f.Checked timeout ∧ ∃ ret state, ret ≠ 0 ∧
      checkConnectNonblock sock timeout f (t.set sock .unconnected) = (ret, t.set sock state) := by
  unfold checkConnectNonblock
  by_cases htimeout : timeout < 0
  · rw [if_pos (.inr htimeout)]
    exact .inr ⟨fun h => absurd h.1 (not_le.mpr htimeout), -1, .unconnected, by decide, rfl⟩
  rw [if_neg (not_or.mpr ⟨not_lt.mpr hsock, htimeout⟩)]
  obtain ⟨_, hne, heq⟩ | ⟨_, hne, heq⟩ | ⟨_, hrefused, heq⟩ :=
    socketConnect_cases sock f (t.set sock .unconnected)
  · rw [heq, set_set]
    exact checkConnect_cases hlt (not_lt.mp htimeout) hne .connected
  · rw [heq, set_set]
    exact checkConnect_cases hlt (not_lt.mp htimeout) hne .inProgress
  · rw [heq, set_set]
    exact .inr ⟨fun h => h.2.1 hrefused, -1, .failed, by decide, rfl⟩

theorem checkConnectBlock_cases (f : ConnectFates) (t : SocketTable) (timeout : Int)
    (hsock : 0 ≤ sock) :
    (0 ≤ timeout ∧ f.Connected) ∧
      checkConnectBlock sock timeout f (t.set sock .unconnected) = (0, t.set sock .connected) ∨
    ¬ (0 ≤ timeout ∧ f.Connected) ∧ ∃ ret state, ret ≠ 0 ∧
      checkConnectBlock sock timeout f (t.set sock .unconnected) = (ret, t.set sock state) := by
  unfold checkConnectBlock
  by_cases htimeout : timeout < 0
  · rw [if_pos (.inr htimeout)]
    exact .inr ⟨fun h => absurd h.1 (not_le.mpr htimeout), -1, .unconnected, by decide, rfl⟩
  rw [if_neg (not_or.mpr ⟨not_lt.mpr hsock, htimeout⟩)]
  obtain ⟨hconn, _, heq⟩ | ⟨hconn, _, heq⟩ | ⟨hconn, _, heq⟩ :=
    socketConnect_cases sock f (t.set sock .unconnected)
  · rw [heq, set_set]
    exact .inl ⟨⟨not_lt.mp htimeout, hconn⟩, rfl⟩
  · rw [heq, set_set]
    exact .inr ⟨fun h => hconn h.2, inProgress, .inProgress, by decide, rfl⟩
  · rw [heq, set_set]
    exact .inr ⟨fun h => hconn h.2, -1, .failed, by decide, rfl⟩

/-! ## The two functions -/

theorem open_cases (uri : List UInt8) (f : ConnectFates) (t : SocketTable) :
    OpensNone (some uri) f ∧ (∃ ret < 0, open_ uri f t = (ret, t)) ∨
    ¬ OpensNone (some uri) f ∧ 0 ≤ f.socket ∧
      open_ uri f t = (f.socket, t.set f.socket .unconnected) := by
  have hnone : OpensNone (some uri) f ↔ protoOk uri = false ∨ f.socket < 0 := by
    simp [OpensNone]
  rw [hnone, open_]
  by_cases hproto : protoOk uri
  · by_cases hsock : f.socket < 0
    · rw [if_pos hproto, if_pos hsock]
      exact .inl ⟨.inr hsock, f.socket, hsock, rfl⟩
    · rw [if_pos hproto, if_neg hsock]
      exact .inr ⟨by simp [hproto, hsock], not_lt.mp hsock, rfl⟩
  · rw [if_neg hproto]
    exact .inl ⟨.inl (Bool.eq_false_of_not_eq_true hproto), -1, by decide, rfl⟩

/-- What both functions do before they connect: `body` goes on with a new socket whose address is
known. -/
theorem ends_of_body {uri : Option (List UInt8)} {f : ConnectFates} {t : SocketTable} {ok : Prop}
    (body : Int → SocketTable → Int × SocketTable) :
    (Resolves uri f → ¬ OpensNone uri f → 0 ≤ f.socket →
      Ends t f.socket (OpensNone uri f) (Resolves uri f ∧ ok)
        (body f.socket (t.set f.socket .unconnected))) →
    Ends t f.socket (OpensNone uri f) (Resolves uri f ∧ ok)
      (match uri with
      | none => (-1, t)
      | some uri =>
        match open_ uri f t with
        | (sock, t) =>
          if sock < 0 then (sock, t)
          else
            match str2inet f.resolver (addrPart uri) with
            | none => (-1, t)
            | some _ => body sock t) := by
  intro hbody
  cases uri with
  | none => exact .none (fun u hu => by cases hu) (by norm_num)
  | some uri =>
    dsimp only
    obtain ⟨hnone, ret, hret, heq⟩ | ⟨hnone, hsock, heq⟩ := open_cases uri f t
    · rw [heq]
      dsimp only
      rw [if_pos hret]
      exact .none hnone hret
    · rw [heq]
      dsimp only
      rw [if_neg (not_lt.mpr hsock)]
      cases haddr : str2inet f.resolver (addrPart uri) with
      | none =>
        refine .left .unconnected hnone (fun h => ?_) (by norm_num)
        obtain ⟨u, hu, hsome⟩ := h.1
        obtain rfl := Option.some.inj hu
        rw [haddr] at hsome
        cases hsome
      | some addr => exact hbody ⟨uri, rfl, by rw [haddr]; rfl⟩ hnone hsock

/-- The end of `tcpsocket_connect`, behind either check. -/
theorem ends_of_check {none_ ok ok' : Prop} {r : Int × SocketTable} (hnone : ¬ none_)
    (hsock : 0 ≤ sock) (hiff : ok ↔ ok')
    (hcheck : ok' ∧ r = (0, t.set sock .connected) ∨
      ¬ ok' ∧ ∃ ret state, ret ≠ 0 ∧ r = (ret, t.set sock state)) :
    Ends t sock none_ ok (if r.1 ≠ 0 then (-1, r.2) else (sock, r.2)) := by
  obtain ⟨hok, heq⟩ | ⟨hok, ret, state, hret, heq⟩ := hcheck
  · rw [heq]
    exact .returned (hiff.mpr hok) hsock (.inl rfl)
  · rw [heq]
    dsimp only
    rw [if_pos hret]
    exact .left state hnone (fun h => hok (hiff.mp h)) (by norm_num)

theorem connect_ends (uri : Option (List UInt8)) (timeout : Int) (f : ConnectFates)
    (t : SocketTable) :
    Ends t f.socket (OpensNone uri f) (Resolves uri f ∧ f.Connects timeout)
      (connect uri timeout f t) := by
  apply ends_of_body fun sock t =>
    match if sock < fdSetSize then checkConnectNonblock sock timeout f t
      else checkConnectBlock sock timeout f t with
    | (ret, t) => if ret ≠ 0 then (-1, t) else (sock, t)
  intro hresolves hnone hsock
  dsimp only
  by_cases hlt : f.socket < fdSetSize
  · rw [if_pos hlt, ConnectFates.Connects, if_pos hlt]
    exact ends_of_check hnone hsock (and_iff_right hresolves)
      (checkConnectNonblock_cases f t timeout hsock hlt)
  · rw [if_neg hlt, ConnectFates.Connects, if_neg hlt]
    exact ends_of_check hnone hsock (and_iff_right hresolves)
      (checkConnectBlock_cases f t timeout hsock)

theorem connectNonblock_ends (uri : Option (List UInt8)) (f : ConnectFates) (t : SocketTable) :
    Ends t f.socket (OpensNone uri f) (Resolves uri f ∧ f.ConnectsNonblock)
      (connectNonblock uri f t) := by
  apply ends_of_body fun sock t =>
    match socketConnect sock f t with
    | (ret, t) =>
      if sock < fdSetSize then if ret < 0 then (ret, t) else (sock, t)
      else if ret ≠ 0 then (-1, t) else (sock, t)
  intro hresolves hnone hsock
  dsimp only
  rw [ConnectFates.ConnectsNonblock]
  obtain ⟨hconn, hne, heq⟩ | ⟨hconn, hne, heq⟩ | ⟨hconn, hrefused, heq⟩ :=
    socketConnect_cases f.socket f (t.set f.socket .unconnected)
  · rw [heq, set_set]
    simp only [lt_irrefl, if_false, ne_eq, not_true_eq_false, ite_self]
    refine .returned ⟨hresolves, ?_⟩ hsock (.inl rfl)
    split_ifs
    · exact hne
    · exact hconn
  · rw [heq, set_set]
    dsimp only
    by_cases hlt : f.socket < fdSetSize
    · rw [if_pos hlt, if_pos hlt, if_neg (by decide)]
      exact .returned ⟨hresolves, hne⟩ hsock (.inr rfl)
    · rw [if_neg hlt, if_neg hlt, if_pos (by decide)]
      exact .left .inProgress hnone (fun h => hconn h.2) (by norm_num)
  · rw [heq, set_set]
    dsimp only
    by_cases hlt : f.socket < fdSetSize
    · rw [if_pos hlt, if_pos hlt, if_pos (by decide)]
      exact .left .failed hnone (fun h => h.2 hrefused) (by norm_num)
    · rw [if_neg hlt, if_neg hlt, if_pos (by decide)]
      exact .left .failed hnone (fun h => hconn h.2) (by norm_num)

end Outcomes

/-! ## Runs -/

/-- A call keeps to the rule exactly if nothing fails once a socket is open. -/
theorem clean_iff {t : SocketTable} {e : SocketCall} (hnew : e.NewSocket t) :
    e.Clean t ↔ e.NoLateFailure := by
  cases e with
  | connect uri timeout f => exact (connect_ends uri timeout f t).clean_iff hnew
  | connectNonblock uri f => exact (connectNonblock_ends uri f t).clean_iff hnew
  | close sock => exact Iff.rfl

/-- For every run of calls, whatever the system calls answer: all calls return the descriptor of
the socket that connects or leave no socket behind, exactly if nothing fails in any of them once a
socket is open. -/
theorem calls_clean_iff {t t' : SocketTable} {es : List SocketCall}
    (hrun : Run.run SocketCall.step t es = some t') :
    Run.Along SocketCall.step SocketCall.Clean t es ↔
      Run.Along SocketCall.step (fun _ e => e.NoLateFailure) t es := by
  refine Run.along_iff_of_run (I := fun _ => True) (fun _ _ _ _ _ => trivial) ?_ trivial hrun
  intro s e s' _ hstep
  unfold SocketCall.step at hstep
  split_ifs at hstep with hnew
  exact clean_iff hnew

/-- A call that opens no connection: a `close`, or a connect that fails. -/
def SocketCall.Fails (t : SocketTable) (e : SocketCall) : Prop :=
  (∃ sock, e = .close sock) ∨ (e.perform t).1 < 0

/-- Connects that fail cleanly use up no descriptors, however many there are. -/
theorem calls_release {t t' : SocketTable} {es : List SocketCall}
    (hrun : Run.run SocketCall.step t es = some t')
    (hcalls : Run.Along SocketCall.step (fun t e => e.Fails t ∧ e.NoLateFailure) t es) {fd : Int}
    (hfd : t fd = none) : t' fd = none := by
  refine Run.run_inv (I := fun t => t fd = none) ?_ hfd hcalls hrun
  intro s e s' hs ⟨hfails, hclean⟩ hstep
  unfold SocketCall.step at hstep
  split_ifs at hstep with hnew
  obtain rfl := Option.some.inj hstep
  cases e with
  | connect uri timeout f =>
    obtain ⟨sock, hclose⟩ | hret := hfails
    · cases hclose
    · exact ((clean_iff hnew).mpr hclean).released hret fd hs
  | connectNonblock uri f =>
    obtain ⟨sock, hclose⟩ | hret := hfails
    · cases hclose
    · exact ((clean_iff hnew).mpr hclean).released hret fd hs
  | close sock =>
    show Function.update s sock none fd = none
    rw [Function.update_apply, hs, ite_self]

/-- `"tcp://1.2.3.4:80"`. -/
def serverUri : List UInt8 := [116, 99, 112, 58, 47, 47, 49, 46, 50, 46, 51, 46, 52, 58, 56, 48]

/-- The system calls of a connect to this uri. -/
def ConnectFates.of (socket : Int) (connect : ConnectResult) : ConnectFates :=
  ⟨socket, quadResolver, connect, 1, 0⟩

/-- A connect that takes its time, one without a descriptor, and one that connects at once. -/
def SocketCall.connecting : List SocketCall :=
  [.connectNonblock (some serverUri) (.of 3 .einprogress),
    .connectNonblock (some serverUri) (.of (-1) .ok),
    .connect (some serverUri) 100 (.of 4 .ok)]

theorem calls_clean_iff_connecting : ∃ t,
    Run.run SocketCall.step (fun _ => none) SocketCall.connecting = some t ∧
      t 3 = some .inProgress ∧ t 4 = some .connected ∧
      (Run.Along SocketCall.step SocketCall.Clean (fun _ => none) SocketCall.connecting ↔
        Run.Along SocketCall.step (fun _ e => e.NoLateFailure) (fun _ => none)
          SocketCall.connecting) := by
  have hseen : (Run.run SocketCall.step (fun _ => none) SocketCall.connecting).map
      (fun t => (t 3, t 4)) = some (some .inProgress, some .connected) := by decide +kernel
  obtain ⟨t, ht, hseen⟩ := Option.map_eq_some_iff.mp hseen
  obtain ⟨h3, h4⟩ := Prod.mk.inj hseen
  exact ⟨t, ht, h3, h4, calls_clean_iff ht⟩

/-- Two connects in a row that are refused. -/
def SocketCall.refused : List SocketCall :=
  [.connectNonblock (some serverUri) (.of 3 .refused),
    .connectNonblock (some serverUri) (.of 4 .refused)]

/-- Each of them returns -1, and its socket stays open. -/
theorem refused_not_clean : ∃ t,
    Run.run SocketCall.step (fun _ => none) SocketCall.refused = some t ∧
      (TSocket.connectNonblock (some serverUri) (.of 3 .refused) fun _ => none).1 = -1 ∧
      t 3 = some .failed ∧ t 4 = some .failed ∧
      ¬ Run.Along SocketCall.step SocketCall.Clean (fun _ => none) SocketCall.refused := by
  have hseen : (Run.run SocketCall.step (fun _ => none) SocketCall.refused).map
      (fun t => (t 3, t 4)) = some (some .failed, some .failed) := by decide +kernel
  have hret : (TSocket.connectNonblock (some serverUri) (.of 3 .refused) fun _ => none).1 = -1 := by
    decide +kernel
  obtain ⟨t, ht, hseen⟩ := Option.map_eq_some_iff.mp hseen
  obtain ⟨h3, h4⟩ := Prod.mk.inj hseen
  refine ⟨t, ht, hret, h3, h4, fun h => ?_⟩
  have hopen : (TSocket.connectNonblock (some serverUri) (.of 3 .refused) fun _ => none).2 3 =
      some .failed := by decide +kernel
  have hreleased := h.1.released (by rw [hret]; decide) 3 rfl
  rw [hopen] at hreleased
  cases hreleased

end Rapidapp.TSocket
