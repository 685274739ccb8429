import Rapidapp.Misc.Framing

/-!
# Messages on a stream of bytes

A `Lane` is one direction between two parties: the messages that were taken out of it, and those
that were put in and are still ahead of the reader. `Carries` ties a lane to the bytes between the
parties, where every message is one frame of a decoder, and a part of them may not have been
written yet. The reader that takes the next frame takes the next message (`Carries.take`); nothing
is lost, made up or overtaken on the way.
-/

namespace Framing

/-- The messages taken so far, and those that wait. -/
structure Lane (μ : Type*) where
  past : List μ
  ahead : List μ

namespace Lane

variable {μ ν : Type*}

def empty : Lane μ := ⟨[], []⟩

/-- Everything that was ever put in. -/
def all (l : Lane μ) : List μ := l.past ++ l.ahead

/-- Messages are put in behind the others. -/
def put (l : Lane μ) (ms : List μ) : Lane μ := { l with ahead := l.ahead ++ ms }

/-- The first message that waits is taken out. -/
structure Takes (m : μ) (l l' : Lane μ) : Prop where
  ahead : l.ahead = m :: l'.ahead
  past : l'.past = l.past ++ [m]

/-- The messages as another party reads them; some are not for it. -/
def filterMap (f : μ → Option ν) (l : Lane μ) : Lane ν :=
  ⟨l.past.filterMap f, l.ahead.filterMap f⟩

@[simp] theorem past_put (l : Lane μ) (ms : List μ) : (l.put ms).past = l.past := rfl

@[simp] theorem ahead_put (l : Lane μ) (ms : List μ) : (l.put ms).ahead = l.ahead ++ ms := rfl

@[simp] theorem all_put (l : Lane μ) (ms : List μ) : (l.put ms).all = l.all ++ ms :=
  (List.append_assoc _ _ _).symm

@[simp] theorem put_nil (l : Lane μ) : l.put [] = l := by
  rw [put, List.append_nil]

@[simp] theorem all_empty : (empty : Lane μ).all = [] := rfl

theorem Takes.all {m : μ} {l l' : Lane μ} (h : Takes m l l') : l'.all = l.all := by
  rw [Lane.all, Lane.all, h.past, h.ahead, List.append_assoc]
  rfl

theorem Takes.unique {m m' : μ} {l l' l'' : Lane μ} (h : Takes m l l') (h' : Takes m' l l'') :
    m = m' ∧ l' = l'' := by
  obtain ⟨past, ahead⟩ := l'
  obtain ⟨past', ahead'⟩ := l''
  obtain ⟨rfl, rfl⟩ := List.cons.inj (h.ahead.symm.trans h'.ahead)
  obtain rfl : past = past' := h.past.trans h'.past.symm
  exact ⟨rfl, rfl⟩

/-- What was taken is a part of what was put in. -/
theorem past_prefix (l : Lane μ) : l.past <+: l.all := List.prefix_append _ _

section FilterMap

variable (f : μ → Option ν)

@[simp] theorem past_filterMap (l : Lane μ) : (l.filterMap f).past = l.past.filterMap f := rfl

@[simp] theorem ahead_filterMap (l : Lane μ) : (l.filterMap f).ahead = l.ahead.filterMap f := rfl

theorem all_filterMap (l : Lane μ) : (l.filterMap f).all = l.all.filterMap f :=
  List.filterMap_append.symm

theorem filterMap_put (l : Lane μ) (ms : List μ) :
    (l.put ms).filterMap f = (l.filterMap f).put (ms.filterMap f) := by
  rw [filterMap, put, List.filterMap_append]
  rfl

variable {f}

/-- Messages that are not for the party do not change what it reads. -/
theorem filterMap_put_none {ms : List μ} (h : ∀ m ∈ ms, f m = none) (l : Lane μ) :
    (l.put ms).filterMap f = l.filterMap f := by
  rw [filterMap_put, List.filterMap_eq_nil_iff.mpr h, put_nil]

theorem Takes.filterMap_some {m : μ} {a : ν} {l l' : Lane μ} (h : Takes m l l')
    (hm : f m = some a) : Takes a (l.filterMap f) (l'.filterMap f) where
  ahead := by rw [ahead_filterMap, h.ahead, List.filterMap_cons_some hm]; rfl
  past := by
    rw [past_filterMap, h.past, List.filterMap_append, List.filterMap_cons_some hm]
    rfl

theorem Takes.filterMap_none {m : μ} {l l' : Lane μ} (h : Takes m l l') (hm : f m = none) :
    l'.filterMap f = l.filterMap f := by
  rw [filterMap, filterMap, h.past, h.ahead, List.filterMap_append, List.filterMap_cons_none hm,
    List.filterMap_cons_none hm, List.filterMap_nil, List.append_nil]

end FilterMap

end Lane

namespace Decoder

variable {α : Type*} {μ : Type*}

/-- The bytes of some messages, one after the other. -/
def stream (enc : μ → List α) (ms : List μ) : List α := (ms.map enc).flatten

section Stream

variable (enc : μ → List α)

@[simp] theorem stream_nil : stream enc [] = [] := rfl

theorem stream_append (ms ms' : List μ) :
    stream enc (ms ++ ms') = stream enc ms ++ stream enc ms' := by
  rw [stream, List.map_append, List.flatten_append, stream, stream]

theorem stream_singleton (m : μ) : stream enc [m] = enc m := List.append_nil _

theorem stream_cons (m : μ) (ms : List μ) : stream enc (m :: ms) = enc m ++ stream enc ms := rfl

/-- A message is a part of the stream. -/
theorem length_le_stream {m : μ} {ms : List μ} (h : m ∈ ms) :
    (enc m).length ≤ (stream enc ms).length :=
  (List.sublist_flatten_of_mem (List.mem_map_of_mem h)).length_le

end Stream

/-- The bytes written so far carry the messages of the lane, and the reader has had `pos` of them:
the frames of the messages it has taken. -/
structure Carries (d : Decoder α) (enc : μ → List α) (bytes : List α) (pos : Nat) (l : Lane μ) :
    Prop where
  frame : ∀ m ∈ l.ahead, d.IsFrame (enc m)
  written : bytes <+: stream enc l.all
  pos_eq : pos = (stream enc l.past).length
  pos_le : pos ≤ bytes.length

variable {d : Decoder α} {enc : μ → List α} {bytes bytes' : List α} {pos : Nat} {l : Lane μ}

theorem IsFrame.ne_nil {w : List α} (h : d.IsFrame w) : w ≠ [] := by
  rintro rfl
  have hnext := h.complete []
  rw [List.append_nil, next_nil] at hnext
  cases hnext

namespace Carries

theorem empty : Carries d enc [] 0 .empty :=
  ⟨fun _ hm => (List.not_mem_nil hm).elim, List.nil_prefix, rfl, le_refl _⟩

/-- What the reader has not had yet belongs to the messages ahead. -/
theorem drop_prefix (h : Carries d enc bytes pos l) : bytes.drop pos <+: stream enc l.ahead := by
  obtain ⟨t, ht⟩ := h.written
  refine ⟨t, ?_⟩
  rw [← List.drop_append_of_le_length h.pos_le, ht, Lane.all, stream_append, h.pos_eq,
    List.drop_left]

/-- More is put in, and more is written. -/
theorem grow (h : Carries d enc bytes pos l) {ms : List μ} (hms : ∀ m ∈ ms, d.IsFrame (enc m))
    (hle : bytes <+: bytes') (hwritten : bytes' <+: stream enc (l.all ++ ms)) :
    Carries d enc bytes' pos (l.put ms) where
  frame m hm := (List.mem_append.mp hm).elim (h.frame m) (hms m)
  written := by rwa [Lane.all_put]
  pos_eq := h.pos_eq
  pos_le := h.pos_le.trans hle.length_le

/-- More is written of what was put in. -/
theorem arrive (h : Carries d enc bytes pos l) (hle : bytes <+: bytes')
    (hwritten : bytes' <+: stream enc l.all) : Carries d enc bytes' pos l := by
  rw [← Lane.put_nil l]
  refine h.grow (fun _ hm => (List.not_mem_nil hm).elim) hle ?_
  rwa [List.append_nil]

/-- More is put in that is not written yet. -/
theorem put (h : Carries d enc bytes pos l) {ms : List μ} (hms : ∀ m ∈ ms, d.IsFrame (enc m)) :
    Carries d enc bytes pos (l.put ms) := by
  refine h.grow hms (List.prefix_refl _) (h.written.trans ?_)
  rw [stream_append]
  exact List.prefix_append _ _

/-- Whole messages are written behind the others. -/
theorem write (h : Carries d enc (stream enc l.all) pos l) {ms : List μ}
    (hms : ∀ m ∈ ms, d.IsFrame (enc m)) :
    Carries d enc (stream enc (l.put ms).all) pos (l.put ms) := by
  refine h.grow hms ?_ ?_
  · rw [Lane.all_put, stream_append]
    exact List.prefix_append _ _
  · simp only [Lane.all_put, List.prefix_refl]

/-- The next frame is the next message. -/
theorem take (h : Carries d enc bytes pos l) {n : Nat} (hnext : d.next (bytes.drop pos) = some n) :
    ∃ m l', l.Takes m l' ∧ n = (enc m).length ∧ (bytes.drop pos).take n = enc m ∧
      Carries d enc bytes (pos + n) l' := by
  have hpre := h.drop_prefix
  have hle := d.next_le hnext
  obtain ⟨past, ahead⟩ := l
  cases ahead with
  | nil =>
    rw [stream_nil, List.prefix_nil] at hpre
    rw [hpre, next_nil] at hnext
    cases hnext
  | cons m rest =>
    have hframe := h.frame m List.mem_cons_self
    rw [stream_cons] at hpre
    rw [hframe.next_head hpre] at hnext
    split_ifs at hnext with hlen
    obtain rfl := Option.some.inj hnext
    have hhead := List.prefix_of_prefix_length_le (List.prefix_append _ _) hpre hlen
    refine ⟨m, ⟨past ++ [m], rest⟩, ⟨rfl, rfl⟩, rfl, (List.prefix_iff_eq_take.mp hhead).symm,
      fun x hx => h.frame x (List.mem_cons_of_mem _ hx), ?_, ?_, ?_⟩
    · have hwritten := h.written
      simpa only [Lane.all, List.append_assoc, List.singleton_append] using hwritten
    · rw [h.pos_eq, stream_append, stream_singleton, List.length_append]
    · have hpos := h.pos_le
      rw [List.length_drop] at hle
      omega

/-- A reader that has not seen all of the bytes yet. -/
theorem of_prefix (h : Carries d enc bytes pos l) (hle : bytes' <+: bytes)
    (hpos : pos ≤ bytes'.length) : Carries d enc bytes' pos l :=
  ⟨h.frame, hle.trans h.written, h.pos_eq, hpos⟩

/-- When all is written and the reader has had every byte, no message is ahead. -/
theorem ahead_eq_nil (h : Carries d enc (stream enc l.all) pos l)
    (hall : pos = (stream enc l.all).length) : l.ahead = [] := by
  have hlen : (stream enc l.ahead).length = 0 := by
    have hpos := h.pos_eq
    rw [hall, Lane.all, stream_append, List.length_append] at hpos
    omega
  cases hahead : l.ahead with
  | nil => rfl
  | cons m rest =>
    have hframe := h.frame m (by rw [hahead]; exact List.mem_cons_self)
    rw [hahead, stream_cons, List.length_append] at hlen
    exact absurd (List.length_eq_zero_iff.mp (by omega)) hframe.ne_nil

end Carries

end Decoder

end Framing
