import Rapidapp.Connector.Beside
import Rapidapp.Connector.ServerApi

/-!
# The demo server

`server/connector/server_api/connector_server_demo.cpp`: a server behind the connector that accepts
every client and sends every payload back. It is an application of the framework; the connector is
one of its frontends. `frame_stub_` is set once `OnInit` was called, and the pointer `net` is that of
a connection.
-/

namespace Rapidapp.Connector

open World Framing Decoder

/-- The process of a `ServerDemoApp`. What `sconn_api_` keeps is its application data, and its
connections have no context. -/
abbrev ServerDemoWorld := World ConnectorServerApi Unit

namespace ServerDemoApp

variable (code : GeneratedCode)

/-- `ServerDemoApp::SendToConn` (`connector_server_demo.cpp:135-139`). -/
def sendToConn (net : NetPtr) (data : List UInt8) (w : ServerDemoWorld) : Int × ServerDemoWorld :=
  w.sendToFrontEnd (some net) data

/-- `ServerDemoApp::OnConnStart` (`connector_server_demo.cpp:110-116`). -/
def onConnStart (net : NetPtr) (fd : UInt32) (nid : UInt64) (w : ServerDemoWorld) :
    Int × ServerDemoWorld :=
  let r := w.app.handshakeToConn code ⟨fd, nid, -1⟩
  sendToConn net r.1 { w with app := r.2 }

/-- `ServerDemoApp::OnData` (`connector_server_demo.cpp:128-133`). -/
def onData (net : NetPtr) (session : Tuple) (data : List UInt8) (w : ServerDemoWorld) :
    Int × ServerDemoWorld :=
  let r := w.app.sendDataToConn code session data
  sendToConn net r.1 { w with app := r.2 }

/-- `sconn_api_` calls its listener. `ServerDemoApp::OnConnStop`
(`connector_server_demo.cpp:118-121`) and `ServerDemoApp::OnConnResume`
(`connector_server_demo.cpp:123-126`) do nothing. -/
def listen (net : NetPtr) (w : ServerDemoWorld) : ListenerCall → ServerDemoWorld
  | .onConnStart fd nid => (onConnStart code net fd nid w).2
  | .onConnStop _ => w
  | .onConnResume _ => w
  | .onData session data => (onData code net session data w).2
  | .sendToConn data => (sendToConn net data w).2

/-- `ServerDemoApp::OnRecvFrontEnd` (`connector_server_demo.cpp:59-77`). -/
def onRecvFrontEnd (net : NetPtr) (msg : List UInt8) (size : Nat) (w : ServerDemoWorld) :
    Int × ServerDemoWorld :=
  let r := w.app.dispatch code msg size
  (if r.1 ≠ 0 then -1 else 0, r.2.1.foldl (listen code net) { w with app := r.2.2 })

/-! ## What it writes -/

/-- The message of `HandshakeToConn`. -/
def ackToConn (session : Tuple) : SSMsg where
  head := { sequence := 0, bodyid := SSBodyCmdId.ack.value, session := session }
  body := { ack := some 0 }

/-- The message of `SendDataToConn`. -/
def dataToConn (session : Tuple) (data : List UInt8) : SSMsg where
  head := { sequence := 0, bodyid := SSBodyCmdId.data.value, session := session }
  body := { data := some data }

/-- What a message is answered with. -/
def answersTo (m : SSMsg) : List SSMsg :=
  if m.head.bodyid = SSBodyCmdId.syn.value then
    [ackToConn { m.head.session with sid := -1 }]
  else if m.head.bodyid = SSBodyCmdId.data.value then
    [dataToConn m.head.session (m.body.data.getD [])]
  else []

/-- The connection to the connector is up, and this was written to it. -/
structure Linked (w : ServerDemoWorld) (net : NetPtr) (out : List UInt8) : Prop where
  fate : ∀ i, w.heap.fate i = true
  wired : w.Wired net out
  clean : w.app.Clean code

variable {code} {w : ServerDemoWorld} {net : NetPtr} {out : List UInt8}

namespace Linked

theorem setApp (h : Linked code w net out) {api : ConnectorServerApi} (hclean : api.Clean code) :
    Linked code { w with app := api } net out := ⟨h.fate, h.wired, hclean⟩

theorem sendToConn (h : Linked code w net out) {m : SSMsg}
    (hne : code.protobuf.serializeSSMsg m ≠ []) {buf : List UInt8}
    (hbuf : buf = code.protobuf.serializeSSMsg m) :
    Linked code (ServerDemoApp.sendToConn net buf w).2 net (out ++ ssFrame code.protobuf m) := by
  subst hbuf
  obtain ⟨hret, hwired⟩ := h.wired.send h.fate hne
  have hfate := fate_send w.heap net (code.protobuf.serializeSSMsg m)
  rw [ServerDemoApp.sendToConn, World.sendToFrontEnd, if_neg hne]
  rcases hsend : w.heap.send net (code.protobuf.serializeSSMsg m) with ⟨ret, h'⟩
  rw [hsend] at hret hwired hfate
  obtain rfl : ret = .easyNetOk := hret
  exact ⟨fun i => by rw [hfate]; exact h.fate i, hwired, h.clean⟩

theorem onConnStart (h : Linked code w net out) (fd : UInt32) (nid : UInt64)
    (hne : ∀ m, code.protobuf.serializeSSMsg m ≠ []) :
    Linked code (ServerDemoApp.onConnStart code net fd nid w).2 net
      (out ++ ssFrame code.protobuf (ackToConn ⟨fd, nid, -1⟩)) := by
  obtain ⟨hcalled, hclean⟩ := ConnectorServerApi.call_spec h.clean (.handshakeToConn ⟨fd, nid, -1⟩)
  exact (h.setApp hclean).sendToConn (hne _) (ListenerCall.sendToConn.inj (List.head_eq_of_cons_eq
    hcalled))

theorem onData (h : Linked code w net out) (session : Tuple) (data : List UInt8)
    (hne : ∀ m, code.protobuf.serializeSSMsg m ≠ []) :
    Linked code (ServerDemoApp.onData code net session data w).2 net
      (out ++ ssFrame code.protobuf (dataToConn session data)) := by
  obtain ⟨hcalled, hclean⟩ := ConnectorServerApi.call_spec h.clean (.sendDataToConn session data)
  exact (h.setApp hclean).sendToConn (hne _) (ListenerCall.sendToConn.inj (List.head_eq_of_cons_eq
    hcalled))

/-- Every message is answered, and nothing else is written. -/
theorem onRecvFrontEnd (h : Linked code w net out) (hne : ∀ m, code.protobuf.serializeSSMsg m ≠ [])
    {msg : List UInt8} {size : Nat} (hsize : size ≠ 0)
    (hparses : code.parsesSSMsg msg size = true) {m : SSMsg}
    (hm : code.protobuf.parseSSMsg msg size = m) :
    Linked code (ServerDemoApp.onRecvFrontEnd code net msg size w).2 net
      (out ++ stream (ssFrame code.protobuf) (answersTo m)) := by
  obtain ⟨hcalled, hclean⟩ := ConnectorServerApi.call_spec h.clean (.dispatch msg size)
  have hcalls : (w.app.dispatch code msg size).2.1 = ConnectorServerApi.dispatched m := by
    have hnot : ¬ (size = 0 ∨ code.parsesSSMsg msg size = false) := by
      rw [hparses]
      exact not_or.mpr ⟨hsize, nofun⟩
    rw [← hm]
    exact hcalled.trans (if_neg hnot)
  have hup := h.setApp hclean
  rw [ServerDemoApp.onRecvFrontEnd, hcalls]
  unfold ConnectorServerApi.dispatched answersTo
  by_cases hsyn : m.head.bodyid = SSBodyCmdId.syn.value
  · rw [if_pos hsyn, if_pos hsyn, stream_singleton]
    exact hup.onConnStart _ _ hne
  by_cases hdata : m.head.bodyid = SSBodyCmdId.data.value
  · have hfin : m.head.bodyid ≠ SSBodyCmdId.fin.value := by
      rw [hdata]
      decide
    have hrsm : m.head.bodyid ≠ SSBodyCmdId.rsm.value := by
      rw [hdata]
      decide
    rw [if_neg hsyn, if_neg hfin, if_neg hrsm, if_pos hdata, if_neg hsyn, if_pos hdata,
      stream_singleton]
    exact hup.onData _ _ hne
  · rw [if_neg hsyn, if_neg hsyn, if_neg hdata, if_neg hdata, stream_nil, List.append_nil]
    split_ifs <;> exact hup

end Linked

end ServerDemoApp

end Rapidapp.Connector
