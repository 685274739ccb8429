import Rapidapp.Framework.Interface
import Rapidapp.Utils.SocketUri

/-!
# The listen uri

`AppFrameWork::InitListenerServiceMode` (`framework/rapidapp_framework_imp.cpp`) reads where to
listen, and in which mode, out of the uri of the configuration. Its documented form is
`[proto://ip:port?mode], mode[normal|rpc]`. The four searches that cut the uri do not look at
what the others leave out. Here `inet_aton` is taken to accept just the dotted quads, and names
are taken not to resolve: the documented form writes an ip.
-/

namespace Rapidapp

open TSocket
open Decimal (isDigit)

/-- `SERVICE_MODE_SEPCHAR`. -/
def serviceModeSepchar : UInt8 := 63

/-- `SERVICE_MODE_NORMAL`. -/
def serviceModeNormal : List UInt8 := [110, 111, 114, 109, 97, 108]

/-- `SERVICE_MODE_RPC`. -/
def serviceModeRpc : List UInt8 := [114, 112, 99]

/-- What `InitListenerServiceMode` leaves: its result, where the listener is bound, and
`svc_mode_`. -/
structure ListenerInit where
  ret : Int
  bound : Option SockAddr
  svcMode : SvcMode

/-- The mode that `InitListenerServiceMode` finds in the uri. -/
def serviceModeOf (uri : List UInt8) (svcMode : SvcMode) : SvcMode :=
  match CString.strchr uri serviceModeSepchar with
  | none => svcMode
  | some p => if p.tail = serviceModeRpc then .rpc else svcMode

/-- `AppFrameWork::InitListenerServiceMode` (`rapidapp_framework_imp.cpp:483-512`). `bindOk` is
whether `evconnlistener_new_bind` makes a listener. -/
def initListenerServiceMode (r : Resolver) (uri : List UInt8) (bindOk : Bool)
    (svcMode : SvcMode) : ListenerInit :=
  match str2sockin r uri with
  | none => ⟨-1, none, svcMode⟩
  | some listenSa =>
    if bindOk then ⟨0, some listenSa, serviceModeOf uri svcMode⟩
    else ⟨-1, none, svcMode⟩

/-! ## The documented form -/

/-- What a listen uri says. -/
structure ListenUri where
  ip : InAddr
  port : UInt16
  mode : SvcMode

/-- The texts of a mode. -/
inductive ModeText : List UInt8 → SvcMode → Prop
  | none : ModeText [] .normal
  | normal : ModeText (serviceModeSepchar :: serviceModeNormal) .normal
  | rpc : ModeText (serviceModeSepchar :: serviceModeRpc) .rpc

/-- A uri of the documented form, and what it says. -/
inductive Denotes : List UInt8 → ListenUri → Prop
  | mk {proto digits mode : List UInt8} {l : ListenUri}
      (hproto : proto = [] ∨ proto = protoTcp ++ addrSep)
      (hne : digits ≠ []) (hdigits : ∀ c ∈ digits, isDigit c = true)
      (hport : Decimal.value digits = l.port.toNat) (hmode : ModeText mode l.mode) :
      Denotes (proto ++ (quad l.ip ++ portSep :: (digits ++ mode))) l

/-- `InitListenerServiceMode` accepts just the uris of this form, and does what they say. -/
structure ListensAsWritten (r : Resolver) (uri : List UInt8) : Prop where
  accepts : ∀ bindOk, (initListenerServiceMode r uri bindOk .normal).ret = 0 ↔
    bindOk = true ∧ ∃ l, Denotes uri l
  bound : ∀ bindOk, (initListenerServiceMode r uri bindOk .normal).ret = 0 →
    ∃ l, Denotes uri l ∧
      (initListenerServiceMode r uri bindOk .normal).bound = some ⟨l.ip, l.port⟩ ∧
      (initListenerServiceMode r uri bindOk .normal).svcMode = l.mode

/-- The uri has the documented form, or its host is no dotted quad. -/
def DocumentedOrNoHost (uri : List UInt8) : Prop :=
  (∃ l, Denotes uri l) ∨ ¬ ∃ a, hostPart (addrPart uri) = quad a

/-! ## Uris of the documented form -/

section Denotes

variable {uri digits mode : List UInt8} {l : ListenUri} {m : SvcMode}

theorem head_modeText (h : ModeText mode m) : ∀ c ∈ mode.head?, isDigit c = false := by
  intro c hc
  cases h with
  | none => cases hc
  | normal =>
    obtain rfl := Option.some.inj hc
    rfl
  | rpc =>
    obtain rfl := Option.some.inj hc
    rfl

theorem slash_notMem_modeText (h : ModeText mode m) : (47 : UInt8) ∉ mode := by
  cases h with
  | none => simp
  | normal => decide
  | rpc => decide

theorem notMem_digits {c : UInt8} (hc : isDigit c = false)
    (hdigits : ∀ d ∈ digits, isDigit d = true) : c ∉ digits := by
  intro hmem
  rw [hdigits c hmem] at hc
  cases hc

theorem notMem_quad {c : UInt8} (hc : isDigit c = false) (hdot : c ≠ 46) (a : InAddr) :
    c ∉ quad a := by
  intro hmem
  obtain h | h := mem_quad hmem
  · rw [h] at hc
    cases hc
  · exact hdot h

/-- The address and the port, with what follows. -/
theorem addrPart_of_denotes (h : Denotes uri l) : ∃ digits mode,
    addrPart uri = quad l.ip ++ portSep :: (digits ++ mode) ∧ digits ≠ [] ∧
      (∀ c ∈ digits, isDigit c = true) ∧ Decimal.value digits = l.port.toNat ∧
      ModeText mode l.mode := by
  obtain @⟨proto, digits, mode, _, hproto, hne, hdigits, hport, hmode⟩ := h
  refine ⟨digits, mode, ?_, hne, hdigits, hport, hmode⟩
  obtain rfl | rfl := hproto
  · rw [List.nil_append]
    apply addrPart_of_notMem
    simp only [List.mem_append, List.mem_cons, not_or]
    exact ⟨notMem_quad rfl (by decide) l.ip, by decide, notMem_digits rfl hdigits,
      slash_notMem_modeText hmode⟩
  · exact addrPart_tcp _

theorem str2sockin_of_denotes {r : Resolver} (hr : r.QuadsOnly) (h : Denotes uri l) :
    str2sockin r uri = some ⟨l.ip, l.port⟩ := by
  obtain ⟨digits, mode, haddr, hne, hdigits, hport, hmode⟩ := addrPart_of_denotes h
  have hlt := l.port.toNat_lt
  have hatoi : CString.atoi (digits ++ mode) = l.port.toNat := by
    rw [CString.atoi_digits hne hdigits (head_modeText hmode) (by omega), hport]
  have hofInt : UInt16.ofInt l.port.toNat = l.port := by
    rw [UInt16.ofInt, Int.emod_eq_of_lt (by omega) (by omega), Int.toNat_natCast,
      UInt16.ofNat_toNat]
  rw [str2sockin, haddr, str2inet_quad hr, hatoi, hofInt]

theorem serviceModeOf_of_denotes (h : Denotes uri l) : serviceModeOf uri .normal = l.mode := by
  obtain @⟨proto, digits, mode, _, hproto, _, hdigits, _, hmode⟩ := h
  have hfront : serviceModeSepchar ∉ proto ++ (quad l.ip ++ portSep :: digits) := by
    simp only [List.mem_append, List.mem_cons, not_or]
    refine ⟨?_, notMem_quad rfl (by decide) l.ip, by decide, notMem_digits rfl hdigits⟩
    obtain rfl | rfl := hproto <;> decide
  have huri : proto ++ (quad l.ip ++ portSep :: (digits ++ mode)) =
      (proto ++ (quad l.ip ++ portSep :: digits)) ++ mode := by simp
  rw [serviceModeOf, huri]
  generalize l.mode = m at hmode
  cases hmode with
  | none => rw [List.append_nil, CString.strchr_eq_none hfront]
  | normal =>
    rw [CString.strchr_append hfront]
    rfl
  | rpc =>
    rw [CString.strchr_append hfront]
    rfl

end Denotes

/-! ## What is accepted -/

section Accepted

variable {r : Resolver} {uri : List UInt8}

theorem initListener_ret (bindOk : Bool) :
    (initListenerServiceMode r uri bindOk .normal).ret = 0 ↔
      bindOk = true ∧ (str2sockin r uri).isSome := by
  unfold initListenerServiceMode
  cases str2sockin r uri with
  | none => simp
  | some listenSa => cases bindOk <;> simp

/-- Where `inet_aton` takes just the dotted quads and no name resolves, a listen uri is taken as it
is written exactly if it has the documented form or its host is no dotted quad: any other text
around a dotted quad is accepted. -/
theorem listensAsWritten_iff (hr : r.QuadsOnly) (uri : List UInt8) :
    ListensAsWritten r uri ↔ DocumentedOrNoHost uri := by
  have hsome : (str2sockin r uri).isSome ↔ ∃ a, hostPart (addrPart uri) = quad a :=
    str2inet_isSome_iff hr
  constructor
  · intro h
    by_cases hhost : ∃ a, hostPart (addrPart uri) = quad a
    · have haccepted : (initListenerServiceMode r uri true .normal).ret = 0 :=
        (initListener_ret true).mpr ⟨rfl, hsome.mpr hhost⟩
      exact .inl ((h.accepts true).mp haccepted).2
    · exact .inr hhost
  · intro h
    have hdoc : (str2sockin r uri).isSome → ∃ l, Denotes uri l := by
      intro haccepted
      obtain hdoc | hhost := h
      · exact hdoc
      · exact absurd (hsome.mp haccepted) hhost
    refine ⟨fun bindOk => ?_, fun bindOk hret => ?_⟩
    · rw [initListener_ret]
      constructor
      · intro ⟨hbind, haccepted⟩
        exact ⟨hbind, hdoc haccepted⟩
      · intro ⟨hbind, l, hl⟩
        exact ⟨hbind, by rw [str2sockin_of_denotes hr hl]; rfl⟩
    · obtain ⟨rfl, haccepted⟩ := (initListener_ret bindOk).mp hret
      obtain ⟨l, hl⟩ := hdoc haccepted
      refine ⟨l, hl, ?_⟩
      rw [initListenerServiceMode, str2sockin_of_denotes hr hl]
      dsimp only
      rw [if_pos rfl]
      exact ⟨rfl, serviceModeOf_of_denotes hl⟩

end Accepted

/-- `"tcp://1.2.3.4:80?rpc"`. -/
def rpcUri : List UInt8 :=
  [116, 99, 112, 58, 47, 47, 49, 46, 50, 46, 51, 46, 52, 58, 56, 48, 63, 114, 112, 99]

theorem listensAsWritten_rpcUri :
    (initListenerServiceMode quadResolver rpcUri true .normal).ret = 0 ∧
      ListensAsWritten quadResolver rpcUri := by
  refine ⟨by decide +kernel, (listensAsWritten_iff quadsOnly_quadResolver rpcUri).mpr ?_⟩
  have huri : rpcUri = (protoTcp ++ addrSep) ++ (quad (1, 2, 3, 4) ++
      portSep :: ([56, 48] ++ serviceModeSepchar :: serviceModeRpc)) := by decide +kernel
  have hdenotes : Denotes rpcUri ⟨(1, 2, 3, 4), 80, .rpc⟩ := by
    have hdigits : ∀ c ∈ ([56, 48] : List UInt8), isDigit c = true := by
      simp [isDigit]
    rw [huri]
    exact .mk (l := ⟨(1, 2, 3, 4), 80, .rpc⟩) (.inr rfl) (by simp) hdigits rfl .rpc
  exact .inl ⟨_, hdenotes⟩

/-- `"tcp://1.2.3.4:70000"`. -/
def wrappedUri : List UInt8 :=
  [116, 99, 112, 58, 47, 47, 49, 46, 50, 46, 51, 46, 52, 58, 55, 48, 48, 48, 48]

/-- The port 70000 is accepted, and it is 4464 that is listened on. -/
theorem wrappedUri_not_as_written :
    (initListenerServiceMode quadResolver wrappedUri true .normal).ret = 0 ∧
      (initListenerServiceMode quadResolver wrappedUri true .normal).bound =
        some ⟨(1, 2, 3, 4), 4464⟩ ∧
      ¬ ListensAsWritten quadResolver wrappedUri := by
  have hret : (initListenerServiceMode quadResolver wrappedUri true .normal).ret = 0 := by
    decide +kernel
  have hsome : str2sockin quadResolver wrappedUri = some ⟨(1, 2, 3, 4), 4464⟩ := by
    decide +kernel
  refine ⟨hret, by decide +kernel, fun h => ?_⟩
  obtain ⟨l, hl, _⟩ := h.bound true hret
  have hsa : (⟨l.ip, l.port⟩ : SockAddr) = ⟨(1, 2, 3, 4), 4464⟩ :=
    Option.some.inj ((str2sockin_of_denotes quadsOnly_quadResolver hl).symm.trans hsome)
  obtain ⟨hip, _⟩ := SockAddr.mk.inj hsa
  obtain ⟨digits, mode, haddr, _, hdigits, hport, hmode⟩ := addrPart_of_denotes hl
  have hrest : [55, 48, 48, 48, 48] = digits ++ mode := by
    have haddrPart : addrPart wrappedUri =
        quad (1, 2, 3, 4) ++ portSep :: [55, 48, 48, 48, 48] := by decide +kernel
    rw [haddrPart, hip] at haddr
    exact (List.cons.inj (List.append_cancel_left haddr)).2
  have htake := (Decimal.takeWhile_digits hdigits (head_modeText hmode)).1
  rw [← hrest] at htake
  have hlt := l.port.toNat_lt
  rw [← hport, ← htake] at hlt
  exact absurd hlt (by decide)

end Rapidapp
