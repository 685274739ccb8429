import Mathlib.Data.List.Induction
import Mathlib.Tactic.NormNum

/-!
# The wire format of protobuf

A message is a sequence of fields, a field is a key and a value; the key is the number of
the field and the type of its value, a base-128 varint or a length and that many bytes.
Decoding gives back the fields that were encoded.
-/

namespace ProtoWire

/-! ## Varints -/

/-- The groups of seven bits of a number, the lowest first, with at most `fuel` of them before
the last. -/
def varintAux : Nat → Nat → List UInt8
  | 0, n => [UInt8.ofNat n]
  | fuel + 1, n =>
    if n < 128 then [UInt8.ofNat n]
    else UInt8.ofNat (n % 128 + 128) :: varintAux fuel (n / 128)

/-- A base-128 varint; a number has fewer groups than bits. -/
def varint (n : Nat) : List UInt8 := varintAux n.log2 n

/-- The varint at the front, and what follows it. -/
def decodeVarint : List UInt8 → Option (Nat × List UInt8)
  | [] => none
  | b :: bs =>
    if b.toNat < 128 then some (b.toNat, bs)
    else (decodeVarint bs).map fun r => (b.toNat % 128 + 128 * r.1, r.2)

theorem decodeVarint_varintAux {fuel n : Nat} (h : n < 128 * 2 ^ fuel) (rest : List UInt8) :
    decodeVarint (varintAux fuel n ++ rest) = some (n, rest) := by
  induction fuel generalizing n with
  | zero =>
    have hn : (UInt8.ofNat n).toNat = n := by rw [UInt8.toNat_ofNat']; omega
    rw [varintAux, List.singleton_append, decodeVarint, hn, if_pos (by omega)]
  | succ fuel ih =>
    rw [varintAux]
    by_cases hn : n < 128
    · have hb : (UInt8.ofNat n).toNat = n := by rw [UInt8.toNat_ofNat']; omega
      rw [if_pos hn, List.singleton_append, decodeVarint, hb, if_pos hn]
    · have hb : (UInt8.ofNat (n % 128 + 128)).toNat = n % 128 + 128 := by
        rw [UInt8.toNat_ofNat']; omega
      have hdiv : n / 128 < 128 * 2 ^ fuel := by
        rw [Nat.pow_succ] at h
        omega
      rw [if_neg hn, List.cons_append, decodeVarint, hb, if_neg (by omega), ih hdiv,
        Option.map_some]
      refine congrArg some (Prod.ext ?_ rfl)
      dsimp only
      omega

/-- A varint reads back, whatever follows it. -/
theorem decodeVarint_varint (n : Nat) (rest : List UInt8) :
    decodeVarint (varint n ++ rest) = some (n, rest) := by
  refine decodeVarint_varintAux ?_ rest
  have := Nat.lt_log2_self (n := n)
  rw [Nat.pow_succ] at this
  omega

theorem length_varintAux_le (fuel k : Nat) {n : Nat} (h : n < 128 ^ (k + 1)) :
    (varintAux fuel n).length ≤ k + 1 := by
  induction fuel generalizing n k with
  | zero => exact Nat.le_add_left 1 k
  | succ fuel ih =>
    rw [varintAux]
    by_cases hn : n < 128
    · rw [if_pos hn]
      exact Nat.le_add_left 1 k
    · rw [if_neg hn, List.length_cons]
      cases k with
      | zero => exact absurd h (by simpa using hn)
      | succ k =>
        have hdiv : n / 128 < 128 ^ (k + 1) := by
          rw [Nat.pow_succ] at h
          exact Nat.div_lt_of_lt_mul (by rwa [Nat.mul_comm])
        exact Nat.succ_le_succ (ih k hdiv)

/-- A 64-bit varint has at most ten bytes. -/
theorem length_varint_le {n : Nat} (h : n < 2 ^ 64) : (varint n).length ≤ 10 :=
  length_varintAux_le _ 9 (lt_of_lt_of_le h (by norm_num))

/-! ## Fields -/

/-- The value of a field: a varint, or bytes (a string or a message). -/
inductive Value where
  | varint (n : Nat)
  | bytes (value : List UInt8)
  deriving DecidableEq

/-- A field: its number and its value. -/
abbrev Field := Nat × Value

def encodeField : Field → List UInt8
  | (num, .varint n) => varint (num * 8) ++ varint n
  | (num, .bytes value) => varint (num * 8 + 2) ++ varint value.length ++ value

def encode (fields : List Field) : List UInt8 := (fields.map encodeField).flatten

/-- The field at the front, and what follows it. -/
def decodeField (data : List UInt8) : Option (Field × List UInt8) :=
  (decodeVarint data).bind fun (key, data) =>
    (decodeVarint data).bind fun (n, data) =>
      if key % 8 = 0 then some ((key / 8, .varint n), data)
      else if key % 8 = 2 ∧ n ≤ data.length then
        some ((key / 8, .bytes (data.take n)), data.drop n)
      else none

/-- The fields up to the first that is not one. -/
def decodeAux : Nat → List UInt8 → List Field
  | 0, _ => []
  | fuel + 1, data =>
    match decodeField data with
    | none => []
    | some (field, rest) => field :: decodeAux fuel rest

/-- Every field has at least one byte. -/
def decode (data : List UInt8) : List Field := decodeAux data.length data

theorem decodeField_encodeField (field : Field) (rest : List UInt8) :
    decodeField (encodeField field ++ rest) = some (field, rest) := by
  obtain ⟨num, n | value⟩ := field
  · rw [encodeField, List.append_assoc, decodeField, decodeVarint_varint, Option.bind_some]
    dsimp only
    rw [decodeVarint_varint, Option.bind_some]
    dsimp only
    rw [if_pos (by omega), Nat.mul_div_cancel _ (by decide)]
  · have hdiv : (num * 8 + 2) / 8 = num := by omega
    have hle : value.length ≤ (value ++ rest).length := by rw [List.length_append]; omega
    rw [encodeField, List.append_assoc, List.append_assoc, decodeField, decodeVarint_varint,
      Option.bind_some]
    dsimp only
    rw [decodeVarint_varint, Option.bind_some]
    dsimp only
    rw [if_neg (by omega), if_pos ⟨by omega, hle⟩, hdiv, List.take_left, List.drop_left]

theorem encodeField_ne_nil (field : Field) : encodeField field ≠ [] := by
  intro h
  have := decodeField_encodeField field []
  rw [h] at this
  cases this

theorem decodeField_nil : decodeField [] = none := rfl

theorem decodeAux_encode {fields : List Field} {fuel : Nat}
    (h : (encode fields).length ≤ fuel) : decodeAux fuel (encode fields) = fields := by
  induction fields generalizing fuel with
  | nil =>
    cases fuel with
    | zero => rfl
    | succ fuel => rw [encode, List.map_nil, List.flatten_nil, decodeAux, decodeField_nil]
  | cons field fields ih =>
    have hcons : encode (field :: fields) = encodeField field ++ encode fields := rfl
    rw [hcons, List.length_append] at h
    have hpos := List.length_pos_iff.mpr (encodeField_ne_nil field)
    cases fuel with
    | zero => omega
    | succ fuel =>
      rw [hcons, decodeAux, decodeField_encodeField]
      dsimp only
      rw [ih (by omega)]

/-- The fields of a message read back. -/
theorem decode_encode (fields : List Field) : decode (encode fields) = fields :=
  decodeAux_encode (le_refl _)

/-- Whether the bytes are fields to their end. -/
def completeAux : Nat → List UInt8 → Bool
  | _, [] => true
  | 0, _ :: _ => false
  | fuel + 1, b :: data =>
    match decodeField (b :: data) with
    | none => false
    | some (_, rest) => completeAux fuel rest

def complete (data : List UInt8) : Bool := completeAux data.length data

theorem completeAux_encode {fields : List Field} {fuel : Nat}
    (h : (encode fields).length ≤ fuel) : completeAux fuel (encode fields) = true := by
  induction fields generalizing fuel with
  | nil => cases fuel <;> rfl
  | cons field fields ih =>
    have hcons : encode (field :: fields) = encodeField field ++ encode fields := rfl
    have hdecode := decodeField_encodeField field (encode fields)
    have hpos := List.length_pos_iff.mpr (encodeField_ne_nil field)
    rw [hcons, List.length_append] at h
    rw [hcons]
    cases hdata : encodeField field ++ encode fields with
    | nil => exact absurd (List.append_eq_nil_iff.mp hdata).1 (encodeField_ne_nil field)
    | cons b data =>
      cases fuel with
      | zero => omega
      | succ fuel =>
        rw [hdata] at hdecode
        rw [completeAux, hdecode]
        exact ih (by omega)

/-- What was encoded is complete. -/
@[simp] theorem complete_encode (fields : List Field) : complete (encode fields) = true :=
  completeAux_encode (le_refl _)

/-! ## Looking fields up -/

/-- The value of the last field with this number. -/
def find (num : Nat) (fields : List Field) : Option Value :=
  fields.foldl (fun found f => if f.1 = num then some f.2 else found) none

/-- An optional field. -/
def field (num : Nat) (value : Option Value) : List Field := (value.map (num, ·)).toList

@[simp] theorem find_nil (num : Nat) : find num [] = none := rfl

theorem find_concat (num : Nat) (fields : List Field) (f : Field) :
    find num (fields ++ [f]) = if f.1 = num then some f.2 else find num fields := by
  rw [find, List.foldl_append]
  rfl

theorem find_append (num : Nat) (fields fields' : List Field) :
    find num (fields ++ fields') = (find num fields').or (find num fields) := by
  induction fields' using List.reverseRecOn with
  | nil => rw [List.append_nil, find_nil, Option.none_or]
  | append_singleton fields' f ih =>
    rw [← List.append_assoc, find_concat, find_concat, ih]
    split_ifs <;> rfl

theorem find_field (num num' : Nat) (value : Option Value) :
    find num (field num' value) = if num' = num then value else none := by
  cases value with
  | none => rw [ite_self]; rfl
  | some v => rfl

/-! ## Sizes -/

theorem le_length_bytes (num : Nat) (value : List UInt8) :
    value.length ≤ (encodeField (num, .bytes value)).length := by
  rw [encodeField, List.length_append]
  exact Nat.le_add_left _ _

theorem length_varintField_le (num : Nat) {n : Nat} (hnum : num * 8 < 2 ^ 64) (hn : n < 2 ^ 64) :
    (encodeField (num, .varint n)).length ≤ 20 := by
  rw [encodeField, List.length_append]
  exact Nat.add_le_add (length_varint_le hnum) (length_varint_le hn)

theorem length_bytesField_le (num : Nat) {value : List UInt8} (hnum : num * 8 + 2 < 2 ^ 64)
    (hvalue : value.length < 2 ^ 64) :
    (encodeField (num, .bytes value)).length ≤ value.length + 20 := by
  rw [encodeField, List.length_append, List.length_append]
  have h₁ := length_varint_le hnum
  have h₂ := length_varint_le hvalue
  omega

end ProtoWire
