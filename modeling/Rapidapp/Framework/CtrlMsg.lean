import Rapidapp.Misc.Run
import Rapidapp.Misc.Words

/-!
# Control messages and their arguments

`OnCtrlMsg` (`framework/rapidapp_framework_imp.cpp:912-956`) reads a datagram into a static buffer
and cuts it into arguments with `libevent_get_arguments` (`82-99`), which takes each argument from
a pointer of its own and not from what `strtok_r` returns, and moves that pointer on past the
position that `strtok_r` saves. So the arguments are the words of the datagram only where it
starts with a word, two spaces stand between two words, and what an earlier datagram left behind
ends the last one (`ctrlMsgs_right_iff`).
-/

namespace Rapidapp

open Words

/-- `MAX_CTRL_MSG_LEN` (`rapidapp_framework_imp.cpp:56`). -/
def maxCtrlMsgLen : Nat := 2048

/-- `MAX_ARGUMENTS_NUM` (`rapidapp_framework_imp.cpp:60`). -/
def maxArgumentsNum : Nat := 32

/-- `CTRL_CMD_DELIMETER` (`rapidapp_framework_imp.cpp:66`). -/
def ctrlCmdDelimeter : UInt8 := 32

/-- `'\0'`. -/
def nul : UInt8 := 0

/-- A control message as it comes from the socket. -/
structure Datagram where
  bytes : List UInt8
  length_lt : bytes.length < maxCtrlMsgLen
  nul_notMem : nul ∉ bytes

/-- The static buffer `ctrl_msg`. -/
structure CtrlMsg where
  bytes : List UInt8
  length_bytes : bytes.length = maxCtrlMsgLen

namespace CtrlMsg

/-- Before the first message. -/
def zero : CtrlMsg := ⟨List.replicate maxCtrlMsgLen nul, List.length_replicate⟩

/-- `*ptr = '\0'` for a `ptr` into the buffer. -/
def poke (m : CtrlMsg) (ptr : Nat) : CtrlMsg :=
  ⟨m.bytes.set ptr nul, List.length_set.trans m.length_bytes⟩

/-- The C string at a position. -/
def str (m : CtrlMsg) (p : Nat) : List UInt8 := (m.bytes.drop p).takeWhile (· ≠ nul)

/-- `bufferevent_read` into the buffer; the last byte is set to `'\0'`. -/
def receive (m : CtrlMsg) (data : List UInt8) : CtrlMsg :=
  poke ⟨data.take maxCtrlMsgLen ++ m.bytes.drop data.length, by
    rw [List.length_append, List.length_take, List.length_drop, m.length_bytes]
    omega⟩ (maxCtrlMsgLen - 1)

/-- `strtok_r` of glibc on the buffer, for the delimiter `CTRL_CMD_DELIMETER`: the token, or `none`
for a null pointer, the position it saves, and the buffer after it. It is `none` itself when
`strtok_r` reads past the end of the buffer. -/
def strtokR (m : CtrlMsg) (s : Nat) : Option (Option Nat × Nat × CtrlMsg) :=
  let token := s + ((m.bytes.drop s).takeWhile (· = ctrlCmdDelimeter)).length
  match m.bytes[token]? with
  | none => none
  | some c =>
    if c = nul then some (none, token, m)
    else
      let stop := token +
        ((m.bytes.drop token).takeWhile fun c => c ≠ nul ∧ c ≠ ctrlCmdDelimeter).length
      match m.bytes[stop]? with
      | none => none
      | some c =>
        if c = nul then some (some token, stop, m) else some (some token, stop + 1, m.poke stop)

/-- The loop of `libevent_get_arguments` from `start_ptr` on, with room in `argv` for so many
arguments: what it adds to `argv`, and the buffer after it. `none` is an access past the end of the
buffer. `strtok_r` is called before the room is looked at. -/
def argumentsLoop : Nat → CtrlMsg → Nat → Option (List Nat × CtrlMsg)
  | 0, m, startPtr =>
    match m.strtokR startPtr with
    | none => none
    | some (_, _, m) => some ([], m)
  | room + 1, m, startPtr =>
    match m.strtokR startPtr with
    | none => none
    | some (none, _, m) => some ([], m)
    | some (some _, ptr, m) =>
      if ptr < maxCtrlMsgLen then
        (argumentsLoop room (m.poke ptr) (ptr + 1)).map fun r => (startPtr :: r.1, r.2)
      else none

/-- `libevent_get_arguments` (`rapidapp_framework_imp.cpp:82-99`) on the buffer: `argv`, whose
length is `argc`, and the buffer after it. -/
def libeventGetArguments (m : CtrlMsg) : Option (List Nat × CtrlMsg) :=
  m.argumentsLoop maxArgumentsNum 0

end CtrlMsg

/-- Who is given the arguments. -/
inductive CtrlCall where
  | dispatch (argv : List Nat)
  | onRecvCtrl (argv : List Nat)
  deriving DecidableEq, Repr

/-- The arguments. -/
def CtrlCall.argv : CtrlCall → List Nat
  | .dispatch argv => argv
  | .onRecvCtrl argv => argv

namespace CtrlMsg

/-- `AppControlDispatcher::Dispatch` (`rapidapp_ctrl_cmd_keyword.h:69-80`): whether it finds a
listener. -/
def dispatches (supported : List UInt8 → Bool) (m : CtrlMsg) : List Nat → Bool
  | [] => false
  | p :: _ => supported (m.str p)

/-- `AppFrameWork::OnCtrlMsg` for a datagram: what it calls, and the buffer after it. `supported`
are the commands that have a listener; neither a listener nor the application writes to the
arguments. -/
def onCtrlMsg (supported : List UInt8 → Bool) (m : CtrlMsg) (d : Datagram) :
    Option (List CtrlCall × CtrlMsg) :=
  if d.bytes.length = 0 then some ([], m)
  else
    match (m.receive d.bytes).libeventGetArguments with
    | none => none
    | some (argv, m) =>
      if m.dispatches supported argv then some ([.dispatch argv], m)
      else some ([.dispatch argv, .onRecvCtrl argv], m)

/-- One datagram. -/
def step (supported : List UInt8 → Bool) (m : CtrlMsg) (d : Datagram) : Option CtrlMsg :=
  (m.onCtrlMsg supported d).map (·.2)

/-! ## What is asked of the arguments -/

/-- The strings are these, and none goes past the position `limit`. -/
structure Exact (m : CtrlMsg) (limit : Nat) (argv : List Nat) (strs : List (List UInt8)) : Prop where
  strs : argv.map m.str = strs
  inside : ∀ p ∈ argv, p + (m.str p).length ≤ limit

/-- The arguments that are passed are the words of the datagram, at most the first 32, and do not
go past its bytes. -/
def Right (supported : List UInt8 → Bool) (m : CtrlMsg) (d : Datagram) : Prop :=
  ∃ calls m', m.onCtrlMsg supported d = some (calls, m') ∧ ∀ call ∈ calls,
    Exact m' d.bytes.length call.argv ((words ctrlCmdDelimeter d.bytes).take maxArgumentsNum)

/-- `strtok_r` finds no token in these bytes, or there is no room for one. -/
def Stops (room : Nat) (l : List UInt8) : Prop :=
  l ≠ [] ∧ (room = 0 ∨ (l.dropWhile (· = ctrlCmdDelimeter)).head? = some nul)

/-- These bytes end a word, and there is no further argument in them. -/
def StopsWord (room : Nat) : List UInt8 → Prop
  | [] => False
  | c :: l =>
    if c = nul then Stops room l else c = ctrlCmdDelimeter ∧ Stops room l.tail

/-- The words there is room for come first, with two delimiters between them, and there are more of
them, or what comes after the last one ends it and has no further argument. -/
def Spaced (room : Nat) (data behind : List UInt8) : Prop :=
  let first := (words ctrlCmdDelimeter data).take room
  let line := [ctrlCmdDelimeter, ctrlCmdDelimeter].intercalate first
  line <+: data ∧ (room < (words ctrlCmdDelimeter data).length ∨
    if first = [] then Stops room (data ++ behind)
    else StopsWord (room - first.length) ((data ++ behind).drop line.length))

/-- What is in the buffer behind a datagram: what earlier ones have left. -/
def behind (m : CtrlMsg) (d : Datagram) : List UInt8 :=
  (m.receive d.bytes).bytes.drop d.bytes.length

/-- The datagram is empty, or spaced so that its words are found. -/
def Fits (m : CtrlMsg) (d : Datagram) : Prop :=
  d.bytes = [] ∨ Spaced maxArgumentsNum d.bytes (m.behind d)

instance (room : Nat) (l : List UInt8) : Decidable (Stops room l) :=
  inferInstanceAs (Decidable (_ ∧ _))

instance StopsWord.decidable (room : Nat) : ∀ l : List UInt8, Decidable (StopsWord room l)
  | [] => isFalse id
  | c :: l =>
    inferInstanceAs (Decidable (if c = nul then Stops room l else
      c = ctrlCmdDelimeter ∧ Stops room l.tail))

instance (room : Nat) (data behind : List UInt8) : Decidable (Spaced room data behind) := by
  dsimp only [Spaced]
  infer_instance

instance (m : CtrlMsg) (d : Datagram) : Decidable (m.Fits d) :=
  inferInstanceAs (Decidable (_ ∨ _))

/-! ## strtok_r -/

/-- What `strtok_r` finds: a string that ends before there is a token, or a token. -/
inductive Scan : List UInt8 → Prop
  | stop (j : Nat) (r : List UInt8) : Scan (List.replicate j ctrlCmdDelimeter ++ nul :: r)
  | token (j : Nat) (v : List UInt8) (c : UInt8) (r : List UInt8) : v ≠ [] → nul ∉ v →
      ctrlCmdDelimeter ∉ v → c = nul ∨ c = ctrlCmdDelimeter →
      Scan (List.replicate j ctrlCmdDelimeter ++ v ++ c :: r)

theorem getLast?_of_cons {c : UInt8} {l : List UInt8} (hc : c ≠ nul)
    (h : (c :: l).getLast? = some nul) : l.getLast? = some nul := by
  cases l with
  | nil => exact absurd (Option.some.inj h) hc
  | cons d l => simpa using h

/-- A token goes up to a delimiter or to the end of the string. -/
theorem token_end {l : List UInt8} (h : l.getLast? = some nul) :
    ∃ v c r, l = v ++ c :: r ∧ nul ∉ v ∧ ctrlCmdDelimeter ∉ v ∧
      (c = nul ∨ c = ctrlCmdDelimeter) := by
  induction l with
  | nil => cases h
  | cons c l ih =>
    by_cases hc : c = nul ∨ c = ctrlCmdDelimeter
    · exact ⟨[], c, l, rfl, List.not_mem_nil, List.not_mem_nil, hc⟩
    · obtain ⟨hnul, hsep⟩ := not_or.mp hc
      obtain ⟨v, d, r, rfl, hv, hv', hd⟩ := ih (getLast?_of_cons hnul h)
      refine ⟨c :: v, d, r, rfl, ?_, ?_, hd⟩
      · simp [hv, Ne.symm hnul]
      · simp [hv', Ne.symm hsep]

theorem scan {l : List UInt8} (h : l.getLast? = some nul) : Scan l := by
  induction l with
  | nil => cases h
  | cons c l ih =>
    by_cases hsep : c = ctrlCmdDelimeter
    · subst hsep
      have hrest := ih (getLast?_of_cons (by decide) h)
      cases hrest with
      | stop j r => exact .stop (j + 1) r
      | token j v d r hv hnul hsep hd => exact .token (j + 1) v d r hv hnul hsep hd
    by_cases hnul : c = nul
    · subst hnul
      exact .stop 0 l
    · obtain ⟨v, d, r, rfl, hv, hv', hd⟩ := token_end (getLast?_of_cons hnul h)
      refine .token 0 (c :: v) d r (List.cons_ne_nil _ _) ?_ ?_ hd
      · simp [hv, Ne.symm hnul]
      · simp [hv', Ne.symm hsep]

section Memory

variable {α : Type} {l a r : List α} {s : Nat} {c : α}

theorem getElem?_of_drop (h : l.drop s = a ++ c :: r) : l[s + a.length]? = some c := by
  rw [← List.getElem?_drop, h]
  simp

theorem drop_of_drop (h : l.drop s = a ++ r) : l.drop (s + a.length) = r := by
  rw [← List.drop_drop, h, List.drop_left]

theorem take_of_drop (h : l.drop s = a ++ r) : l.take (s + a.length) = l.take s ++ a := by
  rw [List.take_add, h, List.take_left]

theorem takeWhile_run {p : α → Bool} (ha : ∀ x ∈ a, p x = true) (hc : p c = false) :
    (a ++ c :: r).takeWhile p = a := by
  rw [List.takeWhile_append_of_pos ha, List.takeWhile_cons, hc]
  simp

end Memory

variable {m m' : CtrlMsg} {s j : Nat} {v r : List UInt8} {c : UInt8}

theorem token_head (hv : v ≠ []) (hnul : nul ∉ v) (hsep : ctrlCmdDelimeter ∉ v) :
    ∃ x v', v = x :: v' ∧ x ≠ nul ∧ x ≠ ctrlCmdDelimeter := by
  obtain ⟨x, v', rfl⟩ := List.exists_cons_of_ne_nil hv
  refine ⟨x, v', rfl, ?_, ?_⟩
  · intro heq
    exact hnul (heq ▸ List.mem_cons_self)
  · intro heq
    exact hsep (heq ▸ List.mem_cons_self)

theorem strtokR_stop (hl : m.bytes.drop s = List.replicate j ctrlCmdDelimeter ++ nul :: r) :
    m.strtokR s = some (none, s + j, m) := by
  have hrun : (m.bytes.drop s).takeWhile (· = ctrlCmdDelimeter) =
      List.replicate j ctrlCmdDelimeter := by
    rw [hl]
    exact takeWhile_run (by simp) (by decide)
  have hbyte := getElem?_of_drop hl
  rw [List.length_replicate] at hbyte
  simp [strtokR, hrun, hbyte]

/-- A token: the byte after it is overwritten when it is a delimiter, and the position after that
is saved. -/
theorem strtokR_token
    (hl : m.bytes.drop s = List.replicate j ctrlCmdDelimeter ++ v ++ c :: r) (hv : v ≠ [])
    (hnul : nul ∉ v) (hsep : ctrlCmdDelimeter ∉ v) (hc : c = nul ∨ c = ctrlCmdDelimeter) :
    m.strtokR s = some (some (s + j),
      if c = nul then (s + (j + v.length), m)
      else (s + (j + v.length) + 1, m.poke (s + (j + v.length)))) := by
  obtain ⟨x, v', rfl, hx⟩ := token_head hv hnul hsep
  have hrun : (m.bytes.drop s).takeWhile (· = ctrlCmdDelimeter) =
      List.replicate j ctrlCmdDelimeter := by
    rw [hl, List.append_assoc]
    exact takeWhile_run (by simp) (by simpa using hx.2)
  have hdrop : m.bytes.drop (s + j) = x :: v' ++ c :: r := by
    have h := drop_of_drop (hl.trans (List.append_assoc _ _ _))
    rwa [List.length_replicate] at h
  have hfirst : m.bytes[s + j]? = some x := by
    have h := getElem?_of_drop (a := []) (hdrop.trans (List.cons_append ..))
    simpa using h
  have htoken : (m.bytes.drop (s + j)).takeWhile (fun c => c ≠ nul ∧ c ≠ ctrlCmdDelimeter) =
      x :: v' := by
    rw [hdrop]
    apply takeWhile_run
    · intro y hy
      have h₁ : y ≠ nul := fun heq => hnul (heq ▸ hy)
      have h₂ : y ≠ ctrlCmdDelimeter := fun heq => hsep (heq ▸ hy)
      simp [h₁, h₂]
    · rcases hc with rfl | rfl <;> decide
  have hstop : m.bytes[s + (j + (x :: v').length)]? = some c := by
    have h := getElem?_of_drop hdrop
    rwa [Nat.add_assoc] at h
  simp only [strtokR, hrun, List.length_replicate, hfirst, hx.1, if_false, htoken, Nat.add_assoc,
    hstop]
  rcases hc with rfl | rfl
  · simp
  · simp [show ctrlCmdDelimeter ≠ nul by decide]

/-- `strtok_r` leaves what is before its start. -/
theorem strtokR_frame {token : Option Nat} {ptr : Nat} (h : m.strtokR s = some (token, ptr, m')) :
    s ≤ ptr ∧ m'.bytes.take s = m.bytes.take s := by
  unfold strtokR at h
  dsimp only at h
  split at h
  · cases h
  · split_ifs at h
    · cases h
      exact ⟨Nat.le_add_right _ _, rfl⟩
    · split at h
      · cases h
      · split_ifs at h <;> cases h
        · exact ⟨by omega, rfl⟩
        · exact ⟨by omega, List.take_set_of_le (by omega)⟩

/-! ## The loop -/

theorem argumentsLoop_frame {room : Nat} {argv : List Nat}
    (h : m.argumentsLoop room s = some (argv, m')) : m'.bytes.take s = m.bytes.take s := by
  induction room generalizing m s argv with
  | zero =>
    rw [argumentsLoop] at h
    split at h
    · cases h
    · next hstrtok =>
      cases h
      exact (strtokR_frame hstrtok).2
  | succ room ih =>
    rw [argumentsLoop] at h
    split at h
    · cases h
    · next hstrtok =>
      cases h
      exact (strtokR_frame hstrtok).2
    · next ptr m₁ hstrtok =>
      obtain ⟨hle, htake⟩ := strtokR_frame hstrtok
      split_ifs at h
      obtain ⟨⟨argv', m₂⟩, hrest, heq⟩ := Option.map_eq_some_iff.mp h
      cases heq
      have hrest' := congrArg (List.take s) (ih hrest)
      rw [List.take_take, List.take_take, Nat.min_eq_left (by omega)] at hrest'
      rw [hrest', ← htake]
      exact List.take_set_of_le hle

/-- The loop ends and adds these arguments. -/
def Finds (room : Nat) (m : CtrlMsg) (s limit : Nat) (strs : List (List UInt8)) : Prop :=
  ∃ argv m', m.argumentsLoop room s = some (argv, m') ∧ Exact m' limit argv strs

theorem exact_nil_iff {limit : Nat} {strs : List (List UInt8)} :
    Exact m limit [] strs ↔ strs = [] := by
  constructor
  · intro h
    exact h.strs.symm
  · rintro rfl
    exact ⟨rfl, fun p hp => absurd hp List.not_mem_nil⟩

/-- Without a byte to read there is no result. -/
theorem argumentsLoop_end {room : Nat} (hl : m.bytes.drop s = []) :
    m.argumentsLoop room s = none := by
  have hnone : m.strtokR s = none := by
    have hbyte : m.bytes[s]? = none := List.getElem?_eq_none (List.drop_eq_nil_iff.mp hl)
    simp [strtokR, hl, hbyte]
  cases room <;> simp [argumentsLoop, hnone]

theorem finds_of_end {room limit : Nat} {strs : List (List UInt8)}
    (hloop : m.argumentsLoop room s = some ([], m')) :
    Finds room m s limit strs ↔ strs = [] := by
  constructor
  · rintro ⟨argv, m₁, h, hexact⟩
    rw [hloop] at h
    cases h
    exact exact_nil_iff.mp hexact
  · intro hstrs
    exact ⟨[], m', hloop, exact_nil_iff.mpr hstrs⟩

/-- Without a token the loop ends. -/
theorem finds_stop {room limit : Nat} {strs : List (List UInt8)}
    (hl : m.bytes.drop s = List.replicate j ctrlCmdDelimeter ++ nul :: r) :
    Finds room m s limit strs ↔ strs = [] := by
  have hloop : m.argumentsLoop room s = some ([], m) := by
    cases room <;> simp [argumentsLoop, strtokR_stop hl]
  exact finds_of_end hloop

/-- Without room the loop ends. -/
theorem finds_zero {limit : Nat} {strs : List (List UInt8)}
    (hlast : (m.bytes.drop s).getLast? = some nul) :
    Finds 0 m s limit strs ↔ strs = [] := by
  have hscan := scan hlast
  generalize hl : m.bytes.drop s = l at hscan
  cases hscan with
  | stop j r => exact finds_stop hl
  | token j v c r hv hnul hsep hc =>
    apply finds_of_end
    rw [argumentsLoop, strtokR_token hl hv hnul hsep hc]

theorem lt_of_getElem? {e : Nat} (h : m.bytes[e]? = some c) : e < maxCtrlMsgLen := by
  rw [← m.length_bytes]
  exact (List.getElem?_eq_some_iff.mp h).1

theorem bytes_poke (m : CtrlMsg) (e : Nat) : (m.poke e).bytes = m.bytes.set e nul := rfl

theorem take_poke {e : Nat} (he : e < maxCtrlMsgLen) :
    (m.poke e).bytes.take (e + 1) = m.bytes.take e ++ [nul] := by
  have hlen : e < m.bytes.length := by rwa [m.length_bytes]
  have hmin : (m.bytes.take e).length = e := by
    rw [List.length_take, Nat.min_eq_left (le_of_lt hlen)]
  rw [bytes_poke, List.set_eq_take_append_cons_drop, if_pos hlen, List.take_append, hmin,
    List.take_of_length_le (by omega)]
  simp

/-- A string that is in place and has its end there. -/
theorem str_of_take {a : List UInt8} (hs : s ≤ maxCtrlMsgLen) (hnul : nul ∉ a)
    (h : m'.bytes.take (s + a.length + 1) = m.bytes.take s ++ a ++ [nul]) : m'.str s = a := by
  have hmin : (m.bytes.take s).length = s := by
    rw [List.length_take, m.length_bytes, Nat.min_eq_left hs]
  have hdrop : m'.bytes.drop s = a ++ nul :: m'.bytes.drop (s + a.length + 1) := by
    conv_lhs => rw [← List.take_append_drop (s + a.length + 1) m'.bytes, h]
    rw [List.append_assoc, List.append_assoc, List.drop_left' hmin]
    simp
  rw [str, hdrop]
  apply takeWhile_run
  · intro x hx
    have hne : x ≠ nul := fun heq => hnul (heq ▸ hx)
    simp [hne]
  · simp

/-- A token is an argument, with the delimiters before it, and the loop goes on behind it: behind
the end of the string, or behind the byte that follows the delimiter. -/
theorem argumentsLoop_token
    (hl : m.bytes.drop s = List.replicate j ctrlCmdDelimeter ++ v ++ c :: r) (hv : v ≠ [])
    (hnul : nul ∉ v) (hsep : ctrlCmdDelimeter ∉ v) (hc : c = nul ∨ c = ctrlCmdDelimeter) :
    ∃ (m₁ : CtrlMsg) (s₁ : Nat), m₁.bytes.drop s₁ = (if c = nul then r else r.tail) ∧
      s₁ = s + (j + v.length) + (if c = nul then 1 else 2) ∧
      m₁.bytes.take (s + (j + v.length) + 1) =
        m.bytes.take s ++ (List.replicate j ctrlCmdDelimeter ++ v) ++ [nul] ∧
      ∀ room, m.argumentsLoop (room + 1) s =
        (m₁.argumentsLoop room s₁).map fun r => (s :: r.1, r.2) := by
  have hlen : (List.replicate j ctrlCmdDelimeter ++ v).length = j + v.length := by simp
  have hbyte := getElem?_of_drop hl
  have htake := take_of_drop hl
  have hbehind : m.bytes.drop (s + (j + v.length) + 1) = r := by
    have h := drop_of_drop (a := List.replicate j ctrlCmdDelimeter ++ v ++ [c]) (r := r)
      (by rw [hl]; simp)
    rwa [List.length_append, hlen, List.length_singleton, ← Nat.add_assoc] at h
  rw [hlen] at hbyte htake
  have he := lt_of_getElem? hbyte
  rcases hc with rfl | rfl
  · refine ⟨m.poke (s + (j + v.length)), s + (j + v.length) + 1, ?_, rfl, ?_, fun room => ?_⟩
    · rw [if_pos rfl, bytes_poke, List.drop_set_of_lt (Nat.lt_succ_self _)]
      exact hbehind
    · rw [take_poke he, htake]
    · rw [argumentsLoop, strtokR_token hl hv hnul hsep (.inl rfl)]
      simp only [if_true, he]
  · have hne : ctrlCmdDelimeter ≠ nul := by decide
    have hdrop : ((m.poke (s + (j + v.length))).poke (s + (j + v.length) + 1)).bytes.drop
        (s + (j + v.length) + 2) = r.tail := by
      rw [bytes_poke, bytes_poke, List.drop_set_of_lt (by omega), List.drop_set_of_lt (by omega),
        ← hbehind, List.tail_drop]
    refine ⟨(m.poke (s + (j + v.length))).poke (s + (j + v.length) + 1), s + (j + v.length) + 2,
      ?_, ?_, ?_, fun room => ?_⟩
    · rw [if_neg hne]
      exact hdrop
    · rw [if_neg hne]
    · rw [bytes_poke, List.take_set_of_le le_rfl, take_poke he, htake]
    · rw [argumentsLoop, strtokR_token hl hv hnul hsep (.inr rfl)]
      simp only [if_neg hne]
      split_ifs with hptr
      · rfl
      · have hend : r.tail = [] := by
          rw [← hdrop]
          apply List.drop_eq_nil_of_le
          rw [length_bytes]
          omega
        rw [argumentsLoop_end (hdrop.trans hend), Option.map_none]

/-- A token is the next of the arguments that are found. -/
theorem finds_token
    (hl : m.bytes.drop s = List.replicate j ctrlCmdDelimeter ++ v ++ c :: r) (hv : v ≠ [])
    (hnul : nul ∉ v) (hsep : ctrlCmdDelimeter ∉ v) (hc : c = nul ∨ c = ctrlCmdDelimeter) :
    ∃ (m₁ : CtrlMsg) (s₁ : Nat), m₁.bytes.drop s₁ = (if c = nul then r else r.tail) ∧
      s₁ = s + (j + v.length) + (if c = nul then 1 else 2) ∧
      ∀ room limit strs, Finds (room + 1) m s limit strs ↔
        ∃ strs', strs = (List.replicate j ctrlCmdDelimeter ++ v) :: strs' ∧
          s + (j + v.length) ≤ limit ∧ Finds room m₁ s₁ limit strs' := by
  obtain ⟨m₁, s₁, hdrop, hs₁, htake, hloop⟩ := argumentsLoop_token hl hv hnul hsep hc
  refine ⟨m₁, s₁, hdrop, hs₁, fun room limit strs => ?_⟩
  have hstr : ∀ argv m', m₁.argumentsLoop room s₁ = some (argv, m') →
      m'.str s = List.replicate j ctrlCmdDelimeter ++ v := by
    intro argv m' h
    have hbyte := getElem?_of_drop hl
    have hframe := congrArg (List.take (s + (j + v.length) + 1)) (argumentsLoop_frame h)
    have hle : s + (j + v.length) + 1 ≤ s₁ := by
      rw [hs₁]
      split_ifs <;> omega
    rw [List.take_take, List.take_take, Nat.min_eq_left hle, htake] at hframe
    refine str_of_take (m := m) ?_ ?_ (by simpa using hframe)
    · have := lt_of_getElem? hbyte
      omega
    · simp [hnul, show nul ≠ ctrlCmdDelimeter by decide]
  constructor
  · rintro ⟨argv, m', h, hexact⟩
    rw [hloop] at h
    obtain ⟨⟨argv', m₂⟩, hrest, heq⟩ := Option.map_eq_some_iff.mp h
    cases heq
    refine ⟨argv'.map m₂.str, ?_, ?_, argv', m₂, hrest, rfl, fun p hp => ?_⟩
    · rw [← hexact.strs, List.map_cons, hstr _ _ hrest]
    · have hin := hexact.inside s List.mem_cons_self
      rwa [hstr _ _ hrest, List.length_append, List.length_replicate] at hin
    · exact hexact.inside p (List.mem_cons_of_mem s hp)
  · rintro ⟨strs', rfl, hin, argv', m', hrest, hexact⟩
    refine ⟨s :: argv', m', by rw [hloop, hrest, Option.map_some], ?_, fun p hp => ?_⟩
    · rw [List.map_cons, hstr _ _ hrest, hexact.strs]
    · rcases List.mem_cons.mp hp with rfl | hp
      · rw [hstr _ _ hrest, List.length_append, List.length_replicate]
        exact hin
      · exact hexact.inside p hp

/-- Nothing is found exactly where `strtok_r` finds no token or there is no room. -/
theorem finds_nil_iff {room limit : Nat} {l : List UInt8} (hl : m.bytes.drop s = l)
    (hlast : l = [] ∨ l.getLast? = some nul) : Finds room m s limit [] ↔ Stops room l := by
  rcases hlast with rfl | hlast
  · refine iff_of_false ?_ fun h => h.1 rfl
    rintro ⟨argv, m', h, -⟩
    rw [argumentsLoop_end hl] at h
    cases h
  have hne : l ≠ [] := by
    rintro rfl
    cases hlast
  cases room with
  | zero => exact iff_of_true ((finds_zero (hl ▸ hlast)).mpr rfl) ⟨hne, .inl rfl⟩
  | succ room =>
    have hscan := scan hlast
    cases hscan with
    | stop j r =>
      refine iff_of_true ((finds_stop hl).mpr rfl) ⟨hne, .inr ?_⟩
      rw [List.dropWhile_append_of_pos (by simp)]
      rfl
    | token j v c r hv hnul hsep hc =>
      obtain ⟨m₁, s₁, -, -, hfinds⟩ := finds_token hl hv hnul hsep hc
      refine iff_of_false (fun h => ?_) fun h => ?_
      · obtain ⟨strs', hstrs, -⟩ := (hfinds room limit []).mp h
        cases hstrs
      · obtain ⟨x, v', rfl, hx⟩ := token_head hv hnul hsep
        rcases h.2 with hzero | hhead
        · cases hzero
        · rw [List.append_assoc, List.dropWhile_append_of_pos (by simp)] at hhead
          simp [hx.2] at hhead
          exact hx.1 hhead

/-! ## The words that are found -/

theorem spaced_zero {data behind : List UInt8} (hbehind : behind ≠ []) : Spaced 0 data behind := by
  refine ⟨by simp [List.intercalate_nil], ?_⟩
  rcases Nat.eq_zero_or_pos (words ctrlCmdDelimeter data).length with hnone | hsome
  · refine .inr ?_
    rw [List.take_zero, if_pos rfl]
    exact ⟨by simp [hbehind], .inl rfl⟩
  · exact .inl hsome

theorem spaced_blank {room : Nat} {data behind : List UInt8}
    (h : words ctrlCmdDelimeter data = []) :
    Spaced room data behind ↔ Stops room (data ++ behind) := by
  simp [Spaced, h]

theorem spaced_last {room : Nat} {w : List UInt8} (hsep : ctrlCmdDelimeter ∉ w) (hw : w ≠ [])
    (behind : List UInt8) : Spaced (room + 1) w behind ↔ StopsWord room behind := by
  simp [Spaced, words_of_notMem hsep hw]

theorem prefix_intercalate (l w : List UInt8) (ws : List (List UInt8)) :
    w <+: l.intercalate (w :: ws) := by
  by_cases hws : ws = []
  · subst hws
    rw [List.intercalate_singleton]
  · rw [List.intercalate_cons_of_ne_nil hws, List.append_assoc]
    exact List.prefix_append _ _

/-- A word cannot come first behind a delimiter. -/
theorem not_spaced_leading {room : Nat} {data : List UInt8}
    (h : words ctrlCmdDelimeter data ≠ []) (behind : List UInt8) :
    ¬ Spaced (room + 1) (ctrlCmdDelimeter :: data) behind := by
  obtain ⟨w, ws, hws⟩ := List.exists_cons_of_ne_nil h
  rintro ⟨hpre, -⟩
  rw [words_cons_sep, hws, List.take_succ_cons] at hpre
  have hword := (prefix_intercalate _ w _).trans hpre
  cases w with
  | nil => exact ne_nil_of_words_cons hws rfl
  | cons x w =>
    obtain ⟨rfl, -⟩ := List.cons_prefix_cons.mp hword
    exact notMem_of_words_cons hws List.mem_cons_self

theorem spaced_word {room : Nat} {w : List UInt8} (hsep : ctrlCmdDelimeter ∉ w) (hw : w ≠ [])
    (data behind : List UInt8) :
    Spaced (room + 1) (w ++ ctrlCmdDelimeter :: data) behind ↔
      if (words ctrlCmdDelimeter data).take room = [] then
        room < (words ctrlCmdDelimeter data).length ∨ Stops room (data ++ behind).tail
      else ∃ data', data = ctrlCmdDelimeter :: data' ∧ Spaced room data' behind := by
  have hne : ctrlCmdDelimeter ≠ nul := by decide
  by_cases hfirst : (words ctrlCmdDelimeter data).take room = []
  · simp [Spaced, words_append_sep hsep hw, hfirst, StopsWord, hne]
  · rw [if_neg hfirst]
    have hline : [ctrlCmdDelimeter, ctrlCmdDelimeter].intercalate
        (w :: (words ctrlCmdDelimeter data).take room) = w ++ [ctrlCmdDelimeter, ctrlCmdDelimeter] ++
          [ctrlCmdDelimeter, ctrlCmdDelimeter].intercalate ((words ctrlCmdDelimeter data).take room) :=
      List.intercalate_cons_of_ne_nil hfirst
    have hdrop : ∀ (line data' : List UInt8),
        ((w ++ ctrlCmdDelimeter :: ctrlCmdDelimeter :: data') ++ behind).drop
          (w ++ [ctrlCmdDelimeter, ctrlCmdDelimeter] ++ line).length =
        (data' ++ behind).drop line.length := by
      intro line data'
      have hlen : (w ++ [ctrlCmdDelimeter, ctrlCmdDelimeter] ++ line).length =
          (w ++ [ctrlCmdDelimeter, ctrlCmdDelimeter]).length + line.length := List.length_append
      have happ : (w ++ ctrlCmdDelimeter :: ctrlCmdDelimeter :: data') ++ behind =
          (w ++ [ctrlCmdDelimeter, ctrlCmdDelimeter]) ++ (data' ++ behind) := by simp
      rw [hlen, happ, ← List.drop_drop, List.drop_left]
    simp only [Spaced, words_append_sep hsep hw, List.take_succ_cons, hline, List.length_cons,
      Nat.add_lt_add_iff_right, List.cons_ne_nil, if_false, Nat.add_sub_add_right]
    constructor
    · rintro ⟨hpre, hrest⟩
      rw [List.append_assoc, List.prefix_append_right_inj] at hpre
      obtain ⟨-, hpre⟩ := List.cons_prefix_cons.mp hpre
      cases data with
      | nil => simp at hpre
      | cons d data' =>
        obtain ⟨rfl, hpre⟩ := List.cons_prefix_cons.mp hpre
        rw [hdrop] at hrest
        rw [words_cons_sep] at hfirst hrest hpre
        exact ⟨data', rfl, hpre, by rwa [if_neg hfirst]⟩
    · rintro ⟨data', rfl, hpre, hrest⟩
      rw [words_cons_sep] at hfirst ⊢
      rw [if_neg hfirst] at hrest
      refine ⟨?_, by rwa [hdrop]⟩
      rw [List.append_assoc, List.prefix_append_right_inj]
      exact List.cons_prefix_cons.mpr ⟨rfl, List.cons_prefix_cons.mpr ⟨rfl, hpre⟩⟩

theorem getLast?_of_append {a l : List UInt8} (h : (a ++ l).getLast? = some nul) :
    l = [] ∨ l.getLast? = some nul := by
  by_cases hl : l = []
  · exact .inl hl
  · exact .inr (by rwa [List.getLast?_append_of_ne_nil _ hl] at h)

theorem tail_of_last {l : List UInt8} (h : l = [] ∨ l.getLast? = some nul) :
    l.tail = [] ∨ l.tail.getLast? = some nul := by
  cases l with
  | nil => exact .inl rfl
  | cons c l =>
    rcases h with h | h
    · cases h
    · exact getLast?_of_append (a := [c]) h

/-- An argument that starts with a delimiter is no word. -/
theorem not_finds_leading {room limit : Nat} {data l : List UInt8}
    (hl : m.bytes.drop s = ctrlCmdDelimeter :: l) (hlast : (ctrlCmdDelimeter :: l).getLast? = some nul)
    (h : words ctrlCmdDelimeter data ≠ []) :
    ¬ Finds (room + 1) m s limit ((words ctrlCmdDelimeter data).take (room + 1)) := by
  obtain ⟨w, ws, hws⟩ := List.exists_cons_of_ne_nil h
  rw [hws, List.take_succ_cons]
  have hword := notMem_of_words_cons hws
  have hscan := scan hlast
  generalize hl' : ctrlCmdDelimeter :: l = l' at hl hscan
  cases hscan with
  | stop j r =>
    intro hfinds
    cases (finds_stop hl).mp hfinds
  | token j v c r hv hnul hsep hc =>
    obtain ⟨m₁, s₁, -, -, hfinds⟩ := finds_token hl hv hnul hsep hc
    intro hfound
    obtain ⟨strs, hstrs, -⟩ := (hfinds room limit _).mp hfound
    obtain ⟨rfl, -⟩ := List.cons.inj hstrs
    cases j with
    | zero =>
      obtain ⟨x, v, rfl⟩ := List.exists_cons_of_ne_nil hv
      exact hsep ((List.cons.inj hl').1 ▸ List.mem_cons_self)
    | succ j => exact hword (by simp [List.replicate_succ])

/-- A word that ends the datagram is found as it is when what is behind it ends it, too. -/
theorem finds_last {room : Nat} {w behind : List UInt8} (hl : m.bytes.drop s = w ++ behind)
    (hw : w ≠ []) (hnul : nul ∉ w) (hsep : ctrlCmdDelimeter ∉ w)
    (hlast : behind.getLast? = some nul) :
    Finds (room + 1) m s (s + w.length) [w] ↔ StopsWord room behind := by
  obtain ⟨x, c, r, rfl, hx, hx', hc⟩ := token_end hlast
  have hrest : r = [] ∨ r.getLast? = some nul :=
    getLast?_of_append (a := x ++ [c]) (by simpa using hlast)
  obtain ⟨m₁, s₁, hdrop, hs₁, hfinds⟩ := finds_token (m := m) (s := s) (j := 0) (v := w ++ x) (c := c)
    (r := r) (by rw [hl]; simp) (by simp [hw]) (by simp [hnul, hx]) (by simp [hsep, hx']) hc
  rw [hfinds]
  cases x with
  | nil =>
    have hstops : Finds room m₁ s₁ (s + w.length) [] ↔
        Stops room (if c = nul then r else r.tail) := by
      apply finds_nil_iff hdrop
      split_ifs
      · exact hrest
      · exact tail_of_last hrest
    have hword : StopsWord room ([] ++ c :: r) ↔ Stops room (if c = nul then r else r.tail) := by
      rw [List.nil_append, StopsWord]
      split_ifs with hnul
      · exact Iff.rfl
      · exact and_iff_right (hc.resolve_left hnul)
    rw [hword, ← hstops]
    constructor
    · rintro ⟨strs, hstrs, -, hfound⟩
      rwa [(List.cons.inj hstrs).2]
    · intro hfound
      exact ⟨[], by simp, by simp, hfound⟩
  | cons y x =>
    refine iff_of_false ?_ ?_
    · rintro ⟨strs, hstrs, -⟩
      have hlen := congrArg List.length (List.cons.inj hstrs).1
      simp at hlen
    · intro hstop
      rw [List.cons_append, StopsWord] at hstop
      split_ifs at hstop with hy
      · exact hx (hy ▸ List.mem_cons_self)
      · exact hx' (hstop.1 ▸ List.mem_cons_self)

/-- Between two words a single delimiter is not enough: the second one is read without its first
byte. -/
theorem not_finds_one {room : Nat} {d : UInt8} {data behind : List UInt8}
    (hl : m.bytes.drop s = data ++ behind) (hd : d ≠ ctrlCmdDelimeter)
    (hlast : behind.getLast? = some nul) :
    ¬ Finds (room + 1) m s (s + data.length)
      ((words ctrlCmdDelimeter (d :: data)).take (room + 1)) := by
  -- the first word, which is longer than what is left of it
  obtain ⟨u, ws, hwords, hu⟩ := words_cons_of_ne hd data
  rw [hwords, List.take_succ_cons]
  have hsepu := notMem_of_words_cons hwords
  have hscan := scan (l := data ++ behind) (by
    rw [List.getLast?_append_of_ne_nil _ (by rintro rfl; cases hlast), hlast])
  generalize hl' : data ++ behind = l' at hl hscan
  cases hscan with
  | stop j r =>
    intro hfound
    cases (finds_stop hl).mp hfound
  | token j v c r hv hnul hsep hc =>
    obtain ⟨m₁, s₁, -, -, hfinds⟩ := finds_token hl hv hnul hsep hc
    intro hfound
    obtain ⟨strs, hstrs, hin, -⟩ := (hfinds room _ _).mp hfound
    obtain ⟨hfirst, -⟩ := List.cons.inj hstrs
    rw [← hfirst] at hl'
    have hlen := congrArg List.length hfirst
    simp only [List.length_cons, List.length_append, List.length_replicate] at hlen
    rcases hu with rfl | ⟨l, rfl⟩
    · omega
    · -- the argument would go one byte past the word, where the delimiter is
      have hpre : d :: u <+: u ++ [ctrlCmdDelimeter] := by
        have hwhole : d :: u <+: u ++ ctrlCmdDelimeter :: l ++ behind := ⟨c :: r, hl'.symm⟩
        have hfront : u ++ [ctrlCmdDelimeter] <+: u ++ ctrlCmdDelimeter :: l ++ behind :=
          ⟨l ++ behind, by simp⟩
        exact List.prefix_of_prefix_length_le hwhole hfront (by simp)
      have heq := hpre.eq_of_length (by simp)
      exact hsepu (heq ▸ by simp)

/-- A word is found as it is, and the loop goes on behind the byte that follows its delimiter. -/
theorem finds_word {w l : List UInt8} (hl : m.bytes.drop s = w ++ ctrlCmdDelimeter :: l)
    (hw : w ≠ []) (hnul : nul ∉ w) (hsep : ctrlCmdDelimeter ∉ w) :
    ∃ (m₁ : CtrlMsg) (s₁ : Nat), m₁.bytes.drop s₁ = l.tail ∧ s₁ = s + w.length + 2 ∧
      ∀ room limit strs, s + w.length ≤ limit →
        (Finds (room + 1) m s limit (w :: strs) ↔ Finds room m₁ s₁ limit strs) := by
  have hl' : m.bytes.drop s = List.replicate 0 ctrlCmdDelimeter ++ w ++ ctrlCmdDelimeter :: l := by
    simpa using hl
  have hne : ctrlCmdDelimeter ≠ nul := by decide
  obtain ⟨m₁, s₁, hdrop, hs₁, hfinds⟩ := finds_token hl' hw hnul hsep (.inr rfl)
  rw [if_neg hne] at hdrop hs₁
  refine ⟨m₁, s₁, hdrop, by simpa using hs₁, ?_⟩
  intro room limit strs hlimit
  rw [hfinds]
  constructor
  · rintro ⟨strs', hstrs, -, hfound⟩
    rwa [(List.cons.inj hstrs).2]
  · intro hfound
    exact ⟨strs, by simp, by simpa using hlimit, hfound⟩

/-- What is found are the words exactly when the datagram is spaced. -/
theorem finds_iff {room : Nat} {m : CtrlMsg} {s : Nat} {data behind : List UInt8}
    (hl : m.bytes.drop s = data ++ behind) (hnul : nul ∉ data)
    (hlast : behind.getLast? = some nul) :
    Finds room m s (s + data.length) ((words ctrlCmdDelimeter data).take room) ↔
      Spaced room data behind := by
  have hbehind : behind ≠ [] := by
    rintro rfl
    cases hlast
  have hall : ∀ l : List UInt8, (l ++ behind).getLast? = some nul := by
    intro l
    rw [List.getLast?_append_of_ne_nil _ hbehind, hlast]
  induction room generalizing m s data with
  | zero => exact iff_of_true ((finds_zero (hl ▸ hall data)).mpr rfl) (spaced_zero hbehind)
  | succ room ih =>
    by_cases hwords : words ctrlCmdDelimeter data = []
    · rw [spaced_blank hwords, hwords, List.take_nil]
      exact finds_nil_iff hl (.inr (hall data))
    have hstart := start ctrlCmdDelimeter data
    cases hstart with
    | nil => exact absurd words_nil hwords
    | sep data =>
      rw [words_cons_sep] at hwords ⊢
      refine iff_of_false ?_ (not_spaced_leading hwords behind)
      exact not_finds_leading hl (hall (ctrlCmdDelimeter :: data)) hwords
    | last w hsep hw =>
      rw [spaced_last hsep hw, words_of_notMem hsep hw, List.take_succ_cons, List.take_nil]
      exact finds_last hl hw hnul hsep hlast
    | word w data hsep hw =>
      have hnul' : nul ∉ data := fun hmem => hnul (by simp [hmem])
      have hword : nul ∉ w := fun hmem => hnul (by simp [hmem])
      obtain ⟨m₁, s₁, hdrop, hs₁, hfinds⟩ :=
        finds_word (hl.trans (List.append_assoc ..)) hw hword hsep
      rw [words_append_sep hsep hw, List.take_succ_cons, hfinds _ _ _ (by simp),
        spaced_word hsep hw]
      split_ifs with hfirst
      · have htail : (data ++ behind).tail = [] ∨ (data ++ behind).tail.getLast? = some nul :=
          tail_of_last (.inr (hall data))
        rw [hfirst, finds_nil_iff hdrop htail]
        refine ⟨.inr, fun h => h.elim (fun hmore => ?_) id⟩
        -- there are more words than room, so there is no room
        have hroom : room = 0 := (List.take_eq_nil_iff.mp hfirst).resolve_right
          (List.ne_nil_of_length_pos (Nat.zero_lt_of_lt hmore))
        refine ⟨?_, .inl hroom⟩
        have hdata : data ≠ [] := by
          rintro rfl
          cases hmore
        obtain ⟨c, data, rfl⟩ := List.exists_cons_of_ne_nil hdata
        simp [hbehind]
      · cases data with
        | nil => exact absurd (by simp) hfirst
        | cons d data =>
          have hlimit : s + (w ++ ctrlCmdDelimeter :: d :: data).length = s₁ + data.length := by
            rw [hs₁]
            simp
            omega
          rw [hlimit]
          by_cases hd : d = ctrlCmdDelimeter
          · subst hd
            rw [words_cons_sep]
            have hspaced := ih hdrop (fun hmem => hnul' (by simp [hmem]))
            constructor
            · intro h
              exact ⟨data, rfl, hspaced.mp h⟩
            · rintro ⟨data', heq, h⟩
              rw [← (List.cons.inj heq).2] at h
              exact hspaced.mpr h
          · refine iff_of_false ?_ ?_
            · cases room with
              | zero => exact absurd (List.take_zero ..) hfirst
              | succ room => exact not_finds_one hdrop hd hlast
            · rintro ⟨data', heq, -⟩
              exact hd (List.cons.inj heq).1

/-! ## Every sequence of datagrams -/

theorem length_receive (m : CtrlMsg) (data : List UInt8) :
    (m.receive data).bytes.length = maxCtrlMsgLen := (m.receive data).length_bytes

/-- The datagram stands at the front of the buffer. -/
theorem bytes_receive (m : CtrlMsg) (d : Datagram) :
    (m.receive d.bytes).bytes = d.bytes ++ m.behind d := by
  have hle : d.bytes.length ≤ maxCtrlMsgLen - 1 := Nat.le_sub_one_of_lt d.length_lt
  have hfront : (m.receive d.bytes).bytes.take d.bytes.length = d.bytes := by
    show ((d.bytes.take maxCtrlMsgLen ++ m.bytes.drop d.bytes.length).set (maxCtrlMsgLen - 1)
      nul).take d.bytes.length = d.bytes
    rw [List.take_set_of_le hle, List.take_of_length_le (Nat.le_of_lt d.length_lt),
      List.take_left]
  calc (m.receive d.bytes).bytes
      = (m.receive d.bytes).bytes.take d.bytes.length ++ m.behind d :=
        (List.take_append_drop _ _).symm
    _ = d.bytes ++ m.behind d := by rw [hfront]

/-- The last byte of the buffer is cleared behind every datagram. -/
theorem getLast?_behind (m : CtrlMsg) (d : Datagram) : (m.behind d).getLast? = some nul := by
  have hlast : (m.receive d.bytes).bytes.getLast? = some nul := by
    rw [List.getLast?_eq_getElem?, length_receive]
    apply List.getElem?_set_self
    rw [List.length_append, List.length_take, List.length_drop, m.length_bytes]
    simp [maxCtrlMsgLen]
    omega
  rw [behind, List.getLast?_drop, length_receive, if_neg (Nat.not_le_of_lt d.length_lt), hlast]

/-- Whoever is called is given what `libevent_get_arguments` makes of the datagram. -/
theorem onCtrlMsg_args (supported : List UInt8 → Bool) {d : Datagram} {argv : List Nat}
    (hd : d.bytes ≠ []) (h : (m.receive d.bytes).libeventGetArguments = some (argv, m')) :
    ∃ calls, m.onCtrlMsg supported d = some (calls, m') ∧ .dispatch argv ∈ calls ∧
      ∀ call ∈ calls, call.argv = argv := by
  have hlen : ¬ d.bytes.length = 0 := fun h => hd (List.length_eq_zero_iff.mp h)
  by_cases hdisp : m'.dispatches supported argv
  · exact ⟨[.dispatch argv], by simp [onCtrlMsg, hlen, h, hdisp], by simp, by simp [CtrlCall.argv]⟩
  · exact ⟨[.dispatch argv, .onRecvCtrl argv], by simp [onCtrlMsg, hlen, h, hdisp], by simp,
      by simp [CtrlCall.argv]⟩

theorem right_iff_finds {supported : List UInt8 → Bool} {d : Datagram} (hd : d.bytes ≠ []) :
    m.Right supported d ↔ Finds maxArgumentsNum (m.receive d.bytes) 0 d.bytes.length
      ((words ctrlCmdDelimeter d.bytes).take maxArgumentsNum) := by
  cases hargs : (m.receive d.bytes).libeventGetArguments with
  | none =>
    have hlen : ¬ d.bytes.length = 0 := fun h => hd (List.length_eq_zero_iff.mp h)
    refine iff_of_false ?_ ?_
    · rintro ⟨calls, m', hcalls, -⟩
      simp [onCtrlMsg, hlen, hargs] at hcalls
    · rintro ⟨argv, m', h, -⟩
      cases hargs.symm.trans h
  | some r =>
    obtain ⟨argv, m₁⟩ := r
    obtain ⟨calls, hcalls, hmem, hargv⟩ := onCtrlMsg_args supported hd hargs
    constructor
    · rintro ⟨calls', m', hcalls', hexact⟩
      obtain ⟨rfl, rfl⟩ := Prod.mk.inj (Option.some.inj (hcalls.symm.trans hcalls'))
      exact ⟨argv, m₁, hargs, hexact _ hmem⟩
    · rintro ⟨argv', m', h, hexact⟩
      obtain ⟨rfl, rfl⟩ := Prod.mk.inj (Option.some.inj (hargs.symm.trans h))
      refine ⟨calls, m₁, hcalls, ?_⟩
      intro call hcall
      rw [hargv call hcall]
      exact hexact

/-- For one datagram. -/
theorem right_iff (supported : List UInt8 → Bool) (m : CtrlMsg) (d : Datagram) :
    m.Right supported d ↔ m.Fits d := by
  by_cases hd : d.bytes = []
  · refine iff_of_true ⟨[], m, by simp [onCtrlMsg, hd], ?_⟩ (.inl hd)
    intro call hcall
    exact absurd hcall List.not_mem_nil
  · have hfinds : Finds maxArgumentsNum (m.receive d.bytes) 0 (0 + d.bytes.length)
        ((words ctrlCmdDelimeter d.bytes).take maxArgumentsNum) ↔
          Spaced maxArgumentsNum d.bytes (m.behind d) :=
      finds_iff (bytes_receive m d) d.nul_notMem (getLast?_behind m d)
    rw [Nat.zero_add] at hfinds
    rw [right_iff_finds hd, hfinds, Fits, or_iff_right hd]

/-- The arguments are right at every datagram of a sequence exactly where each of them is spaced
so that its words are found. -/
theorem ctrlMsgs_right_iff (supported : List UInt8 → Bool) (m : CtrlMsg) (ds : List Datagram) :
    Run.Along (step supported) (fun m d => m.Right supported d) m ds ↔
      Run.Along (step supported) (fun m d => m.Fits d) m ds :=
  Run.along_iff_of_inv (I := fun _ => True) (fun _ _ _ _ _ => trivial)
    (fun m d _ => right_iff supported m d) trivial ds

/-- `ab  cd` is spaced. It leaves `cd` in the buffer, where `ab` does not come to it. -/
example : Run.Along (step fun _ => false) (fun m d => m.Fits d) zero
    [⟨[97, 98, 32, 32, 99, 100], by decide, by decide⟩, ⟨[97, 98], by decide, by decide⟩] := by
  decide +kernel

/-- `abc` comes to it. -/
example : ¬ Run.Along (step fun _ => false) (fun m d => m.Fits d) zero
    [⟨[97, 98, 32, 32, 99, 100], by decide, by decide⟩, ⟨[97, 98, 99], by decide, by decide⟩] := by
  decide +kernel

/-- `ab cd`. -/
def abCd : Datagram := ⟨[97, 98, 32, 99, 100], by decide, by decide⟩


/-- The second of two words, with one space between them, loses its first byte. -/
theorem ctrlMsgs_single_space : ¬ Run.Along (step fun _ => false)
    (fun m d => m.Right (fun _ => false) d) zero [abCd] := by
  have hargs : (zero.onCtrlMsg (fun _ => false) abCd).map
      (fun r => r.1.map fun call => call.argv.map r.2.str) =
      some [[[97, 98], [100]], [[97, 98], [100]]] := by decide +kernel
  have hwords : (words ctrlCmdDelimeter abCd.bytes).take maxArgumentsNum =
      [[97, 98], [99, 100]] := by decide
  rintro ⟨⟨calls, m', hcalls, hexact⟩, -⟩
  rw [hcalls] at hargs
  have hstrs : calls.map (fun call => call.argv.map m'.str) =
      [[[97, 98], [100]], [[97, 98], [100]]] := Option.some.inj hargs
  obtain ⟨call, hcall, hstr⟩ : ∃ call ∈ calls, call.argv.map m'.str = [[97, 98], [100]] := by
    apply List.mem_map.mp
    rw [hstrs]
    exact List.mem_cons_self
  have h := (hexact call hcall).strs
  rw [hwords, hstr] at h
  cases h

end CtrlMsg

end Rapidapp
