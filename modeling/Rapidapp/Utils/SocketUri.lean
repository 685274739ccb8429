import Rapidapp.Misc.CString

/-!
# The uris of `tcp_socket.c`

`utils/tcp_socket.c`: how `tcpsocket_str2sockin` and the functions that connect read an address and
a port out of a uri. How `inet_aton` reads a number and how `gethostbyname` looks a name up are
arguments. The usual texts of an address, the dotted quads, are read in a section of their own.
-/

namespace Rapidapp.TSocket

open Decimal (isDigit)

/-- `struct in_addr`. -/
abbrev InAddr := UInt8 × UInt8 × UInt8 × UInt8

/-- `struct sockaddr_in`. -/
structure SockAddr where
  sinAddr : InAddr
  sinPort : UInt16
  deriving DecidableEq

/-- What resolves a host: the library calls `inet_aton` and `gethostbyname`. `inet_aton` may also
take a host of fewer parts, or one whose parts are not in plain decimal. -/
structure Resolver where
  inetAton : List UInt8 → Option InAddr
  gethostbyname : List UInt8 → Option InAddr

/-- `TCP_SOCKET_PORT_SEP`. -/
def portSep : UInt8 := 58

/-- `TCP_SOCKET_ADDR_LEN`. -/
def addrLen : Nat := 128

/-- `TCP_SOCKET_ADDR_SEP`. -/
def addrSep : List UInt8 := [58, 47, 47]

/-- `TCP_SOCKET_PROTO_TCP`. -/
def protoTcp : List UInt8 := [116, 99, 112]

/-- `tcpsocket_is_number` (`tcp_socket.c:111-121`). -/
def isNumber (host : List UInt8) : Bool := host.all fun c => isDigit c || c = 46

/-- The host and the port of an address (`tcp_socket.c:135-155`), or the return when the host is
too long. -/
def cutHost (addr : List UInt8) : Option (List UInt8 × UInt16) :=
  match CString.strchr addr portSep with
  | some port =>
    let len := addr.length - port.length
    if addrLen ≤ len then none
    else some (addr.take len, UInt16.ofInt (CString.atoi port.tail))
  | none => if addrLen ≤ addr.length then none else some (addr, 0)

/-- `tcpsocket_str2inet` (`tcp_socket.c:123-177`); `none` is the result -1. -/
def str2inet (r : Resolver) (addr : List UInt8) : Option SockAddr :=
  (cutHost addr).bind fun (host, port) =>
    (if isNumber host then r.inetAton host else r.gethostbyname host).map fun a => ⟨a, port⟩

/-- What is behind the `"://"` of a uri (`tcp_socket.c:189-193`). -/
def addrPart (uri : List UInt8) : List UInt8 :=
  match CString.strstr uri addrSep with
  | none => uri
  | some addr => addr.drop addrSep.length

/-- `tcpsocket_str2sockin` (`tcp_socket.c:179-203`) for a uri that is not null. -/
def str2sockin (r : Resolver) (uri : List UInt8) : Option SockAddr := str2inet r (addrPart uri)

/-- The check of `tcpsocket_open` (`tcp_socket.c:304-317`). -/
def protoOk (uri : List UInt8) : Bool :=
  match CString.strstr uri addrSep with
  | none => true
  | some addr =>
    let len := uri.length - addr.length
    CString.strncmpEq uri protoTcp len && protoTcp.length = len

/-! ## Dotted quads -/

/-- A dotted quad. -/
def quad (a : InAddr) : List UInt8 :=
  [46].intercalate [Decimal.text a.1.toNat, Decimal.text a.2.1.toNat, Decimal.text a.2.2.1.toNat,
    Decimal.text a.2.2.2.toNat]

/-- One of the four numbers. -/
def octet (l : List UInt8) : Option UInt8 :=
  if l = Decimal.text (Decimal.value l) ∧ Decimal.value l < 256 then
    some (UInt8.ofNat (Decimal.value l))
  else none

/-- The address that a dotted quad writes. -/
def dottedQuad (s : List UInt8) : Option InAddr :=
  match (s.splitOn 46).map octet with
  | [some a, some b, some c, some d] => some (a, b, c, d)
  | _ => none

/-- `inet_aton` takes just the dotted quads, and no name resolves. -/
structure Resolver.QuadsOnly (r : Resolver) : Prop where
  inetAton : ∀ {s : List UInt8} {a : InAddr}, r.inetAton s = some a ↔ s = quad a
  gethostbyname : ∀ {host : List UInt8}, isNumber host = false → r.gethostbyname host = none

theorem octet_eq_some {l : List UInt8} {a : UInt8} :
    octet l = some a ↔ l = Decimal.text a.toNat := by
  unfold octet
  constructor
  · intro h
    split_ifs at h with hl
    obtain rfl := Option.some.inj h
    rw [UInt8.toNat_ofNat', Nat.mod_eq_of_lt hl.2]
    exact hl.1
  · intro h
    have hvalue : Decimal.value l = a.toNat := by rw [h, Decimal.value_text]
    rw [hvalue, if_pos ⟨h, a.toNat_lt⟩, UInt8.ofNat_toNat]

theorem dot_notMem_text (n : Nat) : (46 : UInt8) ∉ Decimal.text n := by
  intro h
  have hdigit := Decimal.isDigit_of_mem_text h
  cases hdigit

theorem dottedQuad_eq_some {s : List UInt8} {a : InAddr} :
    dottedQuad s = some a ↔ s = quad a := by
  constructor
  · intro h
    have hs : [46].intercalate (s.splitOn 46) = s := List.intercalate_splitOn 46
    unfold dottedQuad at h
    split at h
    next a₁ a₂ a₃ a₄ hmap =>
      obtain rfl := Option.some.inj h
      obtain ⟨l₁, t₁, hl, h₁, ht⟩ := List.map_eq_cons_iff.mp hmap
      obtain ⟨l₂, t₂, rfl, h₂, ht⟩ := List.map_eq_cons_iff.mp ht
      obtain ⟨l₃, t₃, rfl, h₃, ht⟩ := List.map_eq_cons_iff.mp ht
      obtain ⟨l₄, t₄, rfl, h₄, ht⟩ := List.map_eq_cons_iff.mp ht
      obtain rfl := List.map_eq_nil_iff.mp ht
      rw [← hs, hl, quad, octet_eq_some.mp h₁, octet_eq_some.mp h₂, octet_eq_some.mp h₃,
        octet_eq_some.mp h₄]
    next => cases h
  · intro h
    have hsplit : s.splitOn 46 = [Decimal.text a.1.toNat, Decimal.text a.2.1.toNat,
        Decimal.text a.2.2.1.toNat, Decimal.text a.2.2.2.toNat] := by
      rw [h, quad]
      apply List.splitOn_intercalate
      · intro l hl
        simp only [List.mem_cons, List.not_mem_nil, or_false] at hl
        obtain rfl | rfl | rfl | rfl := hl <;> exact dot_notMem_text _
      · simp
    have hoctet : ∀ b : UInt8, octet (Decimal.text b.toNat) = some b :=
      fun b => octet_eq_some.mpr rfl
    rw [dottedQuad, hsplit]
    simp only [List.map_cons, List.map_nil, hoctet]

/-- The resolver that reads dotted quads and knows no names. -/
def quadResolver : Resolver := ⟨dottedQuad, fun _ => none⟩

theorem quadsOnly_quadResolver : quadResolver.QuadsOnly := ⟨dottedQuad_eq_some, fun _ => rfl⟩

theorem mem_quad {a : InAddr} {c : UInt8} (hc : c ∈ quad a) : isDigit c = true ∨ c = 46 := by
  simp only [quad, List.intercalate_cons_cons, List.intercalate_singleton, List.mem_append,
    List.mem_singleton, or_assoc] at hc
  obtain hc | hc | hc | hc | hc | hc | hc := hc
  all_goals first | exact .inr hc | exact .inl (Decimal.isDigit_of_mem_text hc)

theorem isNumber_quad (a : InAddr) : isNumber (quad a) = true := by
  rw [isNumber, List.all_eq_true]
  intro c hc
  obtain h | rfl := mem_quad hc
  · rw [h, Bool.true_or]
  · rfl

theorem length_quad_le (a : InAddr) : (quad a).length ≤ 15 := by
  have htext : ∀ b : UInt8, (Decimal.text b.toNat).length ≤ 3 := by
    intro b
    apply Decimal.length_text_le
    have := b.toNat_lt
    omega
  have h₁ := htext a.1
  have h₂ := htext a.2.1
  have h₃ := htext a.2.2.1
  have h₄ := htext a.2.2.2
  simp only [quad, List.intercalate_cons_cons, List.intercalate_singleton, List.length_append,
    List.length_singleton]
  omega

theorem colon_notMem_quad (a : InAddr) : portSep ∉ quad a := by
  intro h
  obtain h | h := mem_quad h
  · cases h
  · cases h

/-! ## The host and the port -/

variable {r : Resolver} {addr host : List UInt8} {port : UInt16}

/-- What is in front of the first `':'`. -/
def hostPart (addr : List UInt8) : List UInt8 := addr.takeWhile (· ≠ portSep)

theorem hostPart_of_notMem (h : portSep ∉ addr) : hostPart addr = addr := by
  rw [hostPart, List.takeWhile_eq_self_iff]
  intro c hc
  exact decide_eq_true fun heq : c = portSep => h (heq ▸ hc)

theorem hostPart_append (h : portSep ∉ host) (rest : List UInt8) :
    hostPart (host ++ portSep :: rest) = host := by
  have hhost : ∀ c ∈ host, (decide (c ≠ portSep)) = true :=
    fun c hc => decide_eq_true fun heq : c = portSep => h (heq ▸ hc)
  rw [hostPart, List.takeWhile_append_of_pos hhost, List.takeWhile_cons_of_neg (by simp),
    List.append_nil]

theorem cutHost_append (h : portSep ∉ host) (hlen : host.length < addrLen) (rest : List UInt8) :
    cutHost (host ++ portSep :: rest) = some (host, UInt16.ofInt (CString.atoi rest)) := by
  have hsub : (host ++ portSep :: rest).length - (portSep :: rest).length = host.length := by
    rw [List.length_append, Nat.add_sub_cancel]
  rw [cutHost, CString.strchr_append h]
  dsimp only
  rw [hsub, if_neg (not_le.mpr hlen), List.take_left, List.tail_cons]

/-- The host is what is in front of the first `':'`, where it is not too long. -/
theorem cutHost_map (addr : List UInt8) :
    (cutHost addr).map Prod.fst =
      if addrLen ≤ (hostPart addr).length then none else some (hostPart addr) := by
  obtain ⟨hmem, hnone⟩ | ⟨l, r, rfl, hl, hsome⟩ := CString.strchr_cases addr portSep
  · rw [hostPart_of_notMem hmem, cutHost, hnone]
    dsimp only
    split_ifs <;> rfl
  · have hsub : (l ++ portSep :: r).length - (portSep :: r).length = l.length := by
      rw [List.length_append, Nat.add_sub_cancel]
    rw [hostPart_append hl, cutHost, hsome]
    dsimp only
    rw [hsub, List.take_left]
    split_ifs <;> rfl

theorem str2inet_isSome_iff (hr : r.QuadsOnly) :
    (str2inet r addr).isSome ↔ ∃ a, hostPart addr = quad a := by
  have hmap := cutHost_map addr
  unfold str2inet
  constructor
  · intro h
    cases hcut : cutHost addr with
    | none => rw [hcut] at h; cases h
    | some cut =>
      rw [hcut, Option.map_some] at hmap
      rw [hcut, Option.bind_some, Option.isSome_map] at h
      split_ifs at hmap
      have hhost := Option.some.inj hmap
      cases hnumber : isNumber cut.1 with
      | false =>
        rw [if_neg (by simp [hnumber]), hr.gethostbyname hnumber] at h
        cases h
      | true =>
        rw [if_pos hnumber] at h
        obtain ⟨a, ha⟩ := Option.isSome_iff_exists.mp h
        exact ⟨a, hhost ▸ hr.inetAton.mp ha⟩
  · intro ⟨a, ha⟩
    have hlen : ¬ addrLen ≤ (hostPart addr).length := by
      have := length_quad_le a
      rw [ha, addrLen]
      omega
    rw [if_neg hlen, ha] at hmap
    obtain ⟨cut, hcut, hhost⟩ := Option.map_eq_some_iff.mp hmap
    rw [hcut, Option.bind_some, Option.isSome_map, hhost, if_pos (isNumber_quad a),
      hr.inetAton.mpr rfl]
    rfl

theorem str2inet_quad (hr : r.QuadsOnly) (a : InAddr) (rest : List UInt8) :
    str2inet r (quad a ++ portSep :: rest) = some ⟨a, UInt16.ofInt (CString.atoi rest)⟩ := by
  have hlen : (quad a).length < addrLen := by
    have := length_quad_le a
    rw [addrLen]
    omega
  rw [str2inet, cutHost_append (colon_notMem_quad a) hlen, Option.bind_some]
  dsimp only
  rw [if_pos (isNumber_quad a), hr.inetAton.mpr rfl, Option.map_some]

/-! ## The part behind the protocol -/

/-- A uri without a slash names no protocol. -/
theorem addrPart_of_notMem (h : (47 : UInt8) ∉ addr) : addrPart addr = addr := by
  have hnone : CString.strstr addr addrSep = none :=
    CString.strstr_eq_none (c := 47) (by decide) h
  rw [addrPart, hnone]

theorem addrPart_tcp (addr : List UInt8) : addrPart (protoTcp ++ addrSep ++ addr) = addr := by
  have hsome : CString.strstr (protoTcp ++ addrSep ++ addr) addrSep = some (addrSep ++ addr) := by
    have htail : ∀ c s, c ≠ portSep →
        CString.strstr (c :: s) addrSep = CString.strstr s addrSep := by
      intro c s hc
      rw [CString.strstr, if_neg]
      intro hpat
      exact hc (List.cons_prefix_cons.mp hpat).1.symm
    show CString.strstr (116 :: 99 :: 112 :: (addrSep ++ addr)) addrSep = _
    rw [htail _ _ (by decide), htail _ _ (by decide), htail _ _ (by decide)]
    show CString.strstr (58 :: ([47, 47] ++ addr)) addrSep = _
    rw [CString.strstr, if_pos]
    · rfl
    · exact List.prefix_append addrSep addr
  rw [addrPart, hsome]
  exact List.drop_left

end Rapidapp.TSocket
