import Rapidapp.Misc.Decimal

/-!
# JSON texts

The values of JSON and the texts that stand for them, as bytes. `Json.parse` reads a text by the
standard grammar; strings are decoded to UTF-8, and bytes from 128 on stand for themselves. An
integer literal is a number, one with a fraction or an exponent is kept as it is written.

The parser is given fuel. `Json.parseValue_fuel` says that it has no effect when it is more than
twice the number of bytes. `Json.cost_le_of_parse` says how long a text of a value is at least.
-/

/-- A JSON value; an object keeps its members in the order of the text. -/
inductive Json where
  | null
  | bool (b : Bool)
  | int (n : Int)
  | real (text : List UInt8)
  | str (s : List UInt8)
  | arr (vs : List Json)
  | obj (ms : List (List UInt8 × Json))

namespace Json

open Decimal (isDigit)

/-! ## Strings -/

/-- The value of a hexadecimal digit. -/
def hexDigit (c : UInt8) : Option Nat :=
  if isDigit c then some (c.toNat - 48)
  else if 65 ≤ c ∧ c ≤ 70 then some (c.toNat - 55)
  else if 97 ≤ c ∧ c ≤ 102 then some (c.toNat - 87)
  else none

/-- The code unit of a `\u` escape. -/
def hex4 (a b c d : UInt8) : Option Nat :=
  match hexDigit a, hexDigit b, hexDigit c, hexDigit d with
  | some a, some b, some c, some d => some (4096 * a + 256 * b + 16 * c + d)
  | _, _, _, _ => none

/-- A code point in UTF-8. -/
def utf8 (u : Nat) : List UInt8 :=
  if u < 0x80 then [UInt8.ofNat u]
  else if u < 0x800 then [UInt8.ofNat (0xC0 + u / 64), UInt8.ofNat (0x80 + u % 64)]
  else if u < 0x10000 then
    [UInt8.ofNat (0xE0 + u / 4096), UInt8.ofNat (0x80 + u / 64 % 64), UInt8.ofNat (0x80 + u % 64)]
  else
    [UInt8.ofNat (0xF0 + u / 262144), UInt8.ofNat (0x80 + u / 4096 % 64),
      UInt8.ofNat (0x80 + u / 64 % 64), UInt8.ofNat (0x80 + u % 64)]

/-- The escapes of one letter. -/
def letterEscape (c : UInt8) : Option UInt8 :=
  if c = 34 ∨ c = 92 ∨ c = 47 then some c
  else if c = 98 then some 8
  else if c = 102 then some 12
  else if c = 110 then some 10
  else if c = 114 then some 13
  else if c = 116 then some 9
  else none

/-- These bytes in front of what was scanned. -/
def scanned (l : List UInt8) (r : List UInt8 × List UInt8) : List UInt8 × List UInt8 :=
  (l ++ r.1, r.2)

/-- A string from behind its opening quote: what it stands for, and what follows its closing
quote. -/
def scanString : List UInt8 → Option (List UInt8 × List UInt8)
  | [] => none
  | c :: s =>
    if c = 34 then some ([], s)
    else if c < 32 then none
    else if c ≠ 92 then (scanString s).map (scanned [c])
    else
      match s with
      | [] => none
      | e :: s =>
        if e ≠ 117 then
          match letterEscape e with
          | none => none
          | some x => (scanString s).map (scanned [x])
        else
          match s with
          | h₁ :: h₂ :: h₃ :: h₄ :: s =>
            match hex4 h₁ h₂ h₃ h₄ with
            | none => none
            | some u =>
              if u < 0xD800 ∨ 0xE000 ≤ u then (scanString s).map (scanned (utf8 u))
              else if 0xDC00 ≤ u then none
              else
                -- the first half of a surrogate pair
                match s with
                | b :: v :: l₁ :: l₂ :: l₃ :: l₄ :: s =>
                  if b = 92 ∧ v = 117 then
                    match hex4 l₁ l₂ l₃ l₄ with
                    | none => none
                    | some l =>
                      if 0xDC00 ≤ l ∧ l < 0xE000 then
                        (scanString s).map
                          (scanned (utf8 (0x10000 + 1024 * (u - 0xD800) + (l - 0xDC00))))
                      else none
                  else none
                | _ => none
          | _ => none

/-! ## Numbers -/

/-- An optional fraction is passed over. -/
def scanFraction : List UInt8 → Option (List UInt8)
  | [] => some []
  | c :: s =>
    if c ≠ 46 then some (c :: s)
    else if s.takeWhile isDigit = [] then none
    else some (s.dropWhile isDigit)

/-- An optional exponent is passed over. -/
def scanExponent : List UInt8 → Option (List UInt8)
  | [] => some []
  | c :: s =>
    if c ≠ 101 ∧ c ≠ 69 then some (c :: s)
    else
      let s := if s.head? = some 43 ∨ s.head? = some 45 then s.tail else s
      if s.takeWhile isDigit = [] then none else some (s.dropWhile isDigit)

/-- A minus sign is passed over. -/
def unsigned (s : List UInt8) : List UInt8 := if s.head? = some 45 then s.tail else s

/-- The number of a literal that starts `s`; `rest` follows its integer part, `end_` its last byte. -/
def literal (s rest end_ : List UInt8) : Json :=
  if end_.length < rest.length then real (s.take (s.length - end_.length))
  else
    let n := Decimal.value ((unsigned s).takeWhile isDigit)
    .int (if s.head? = some 45 then -(n : Int) else n)

/-- A number at the front, and what follows it. The integer part has no leading zeros. -/
def scanNumber (s : List UInt8) : Option (Json × List UInt8) :=
  let int := (unsigned s).takeWhile isDigit
  let rest := (unsigned s).dropWhile isDigit
  if int = [] ∨ int.head? = some 48 ∧ int ≠ [48] then none
  else ((scanFraction rest).bind scanExponent).map fun end_ => (literal s rest end_, end_)

/-! ## Values -/

/-- Space, tab, line feed and carriage return. -/
def isWs (c : UInt8) : Bool := c = 32 || c = 9 || c = 10 || c = 13

def skipWs (s : List UInt8) : List UInt8 := s.dropWhile isWs

/-- A word at the front. -/
def scanWord (word : List UInt8) (v : Json) (s : List UInt8) : Option (Json × List UInt8) :=
  if word <+: s then some (v, s.drop word.length) else none

/-- The name of a member, up to its value. -/
def scanName : List UInt8 → Option (List UInt8 × List UInt8)
  | [] => none
  | c :: s =>
    if c ≠ 34 then none
    else
      match scanString s with
      | none => none
      | some (name, s) =>
        match skipWs s with
        | [] => none
        | d :: s => if d = 58 then some (name, skipWs s) else none

/-- What is in front of an item: the name of a member, nothing for an element. -/
def scanTag (named : Bool) (s : List UInt8) : Option (List UInt8 × List UInt8) :=
  if named then scanName s else some ([], s)

/-- The bracket behind the items. -/
def closing (named : Bool) : UInt8 := if named then 125 else 93

/-- Named or unnamed items. The name of an element is left empty. -/
abbrev Items := List (List UInt8 × Json)

/-- What stands in the brackets: nothing, or the items that `items` reads. -/
def body (items : List UInt8 → Option (Items × List UInt8)) (named : Bool) (s : List UInt8) :
    Option (Items × List UInt8) :=
  if s.head? = some (closing named) then some ([], s.tail) else items s

mutual

/-- The value at the front, and what follows it. -/
def parseValue : Nat → List UInt8 → Option (Json × List UInt8)
  | 0, _ => none
  | _ + 1, [] => none
  | fuel + 1, c :: s =>
    if c = 34 then (scanString s).map fun r => (str r.1, r.2)
    else if c = 123 then
      (body (parseItems fuel true) true (skipWs s)).map fun r => (obj r.1, r.2)
    else if c = 91 then
      (body (parseItems fuel false) false (skipWs s)).map fun r => (arr (r.1.map Prod.snd), r.2)
    else if c = 116 then scanWord [116, 114, 117, 101] (bool true) (c :: s)
    else if c = 102 then scanWord [102, 97, 108, 115, 101] (bool false) (c :: s)
    else if c = 110 then scanWord [110, 117, 108, 108] null (c :: s)
    else scanNumber (c :: s)

/-- One item at least, up to the closing bracket. -/
def parseItems : Nat → Bool → List UInt8 → Option (Items × List UInt8)
  | 0, _, _ => none
  | fuel + 1, named, s =>
    match scanTag named s with
    | none => none
    | some (name, s) =>
      match parseValue fuel s with
      | none => none
      | some (v, s) =>
        match skipWs s with
        | [] => none
        | d :: s =>
          if d = 44 then (parseItems fuel named (skipWs s)).map fun r => ((name, v) :: r.1, r.2)
          else if d = closing named then some ([(name, v)], s)
          else none

end

/-- The value of a whole text. -/
def parse (text : List UInt8) : Option Json :=
  match parseValue (2 * text.length + 1) (skipWs text) with
  | none => none
  | some (v, rest) => if skipWs rest = [] then some v else none

/-! ## The least length of a text -/

/-- A quote, a backslash and a control character take an escape. -/
def byteCost (c : UInt8) : Nat := if c = 34 ∨ c = 92 ∨ c < 32 then 2 else 1

/-- No text between quotes that stands for the string is shorter. -/
def stringCost (s : List UInt8) : Nat := (s.map byteCost).sum

mutual

/-- No text that stands for the value is shorter. -/
def cost : Json → Nat
  | null => 4
  | bool b => if b then 4 else 5
  | int n => (Decimal.signed n).length
  | real text => max 1 text.length
  | str s => stringCost s + 2
  | arr vs => 1 + max 1 (elementsCost vs)
  | obj ms => 1 + max 1 (membersCost ms)

/-- With a comma or the closing bracket behind each. -/
def elementsCost : List Json → Nat
  | [] => 0
  | v :: vs => cost v + 1 + elementsCost vs

/-- With a comma or the closing bracket behind each. -/
def membersCost : List (List UInt8 × Json) → Nat
  | [] => 0
  | (name, v) :: ms => stringCost name + 3 + (cost v + 1) + membersCost ms

end

/-- What a name adds: two quotes and a colon. -/
def tagCost (named : Bool) (name : List UInt8) : Nat := if named then stringCost name + 3 else 0

def itemsCost (named : Bool) : Items → Nat
  | [] => 0
  | (name, v) :: ms => tagCost named name + (cost v + 1) + itemsCost named ms

theorem cost_obj (ms : Items) : cost (obj ms) = 1 + max 1 (itemsCost true ms) := by
  have hitems : membersCost ms = itemsCost true ms := by
    induction ms with
    | nil => rfl
    | cons m ms ih => rw [membersCost, itemsCost, ih, tagCost, if_pos rfl]
  rw [cost, hitems]

theorem cost_arr (ms : Items) : cost (arr (ms.map Prod.snd)) = 1 + max 1 (itemsCost false ms) := by
  have hitems : elementsCost (ms.map Prod.snd) = itemsCost false ms := by
    induction ms with
    | nil => rfl
    | cons m ms ih =>
      rw [List.map_cons, elementsCost, itemsCost, ih, tagCost, if_neg Bool.false_ne_true,
        Nat.zero_add]
  rw [cost, hitems]

theorem one_le_cost (v : Json) : 1 ≤ cost v := by
  cases v with
  | int n => exact List.length_pos_iff.mpr (Decimal.signed_ne_nil n)
  | bool b => cases b <;> simp [cost]
  | real text => exact le_max_left 1 _
  | _ => simp [cost]

/-! ## What is passed over -/

theorem map_scanned_eq_some {x : Option (List UInt8 × List UInt8)} {l d r : List UInt8} :
    x.map (scanned l) = some (d, r) ↔ ∃ d', x = some (d', r) ∧ d = l ++ d' := by
  rw [Option.map_eq_some_iff]
  constructor
  · intro ⟨⟨d', r'⟩, hx, heq⟩
    obtain ⟨rfl, rfl⟩ := Prod.mk.inj heq
    exact ⟨d', hx, rfl⟩
  · intro ⟨d', hx, hd⟩
    exact ⟨(d', r), hx, by rw [scanned, hd]⟩

theorem length_utf8_le (u : Nat) : (utf8 u).length ≤ 4 := by
  unfold utf8
  split_ifs <;> simp

theorem length_utf8_le_three {u : Nat} (hu : u < 0x10000) : (utf8 u).length ≤ 3 := by
  unfold utf8
  split_ifs <;> simp

theorem hexDigit_lt {c : UInt8} {n : Nat} (h : hexDigit c = some n) : n < 16 := by
  unfold hexDigit at h
  split_ifs at h with hd hu hl
  · have := Decimal.isDigit_iff.mp hd
    obtain rfl := Option.some.inj h
    omega
  · obtain rfl := Option.some.inj h
    have : c.toNat ≤ 70 := UInt8.le_iff_toNat_le.mp hu.2
    omega
  · obtain rfl := Option.some.inj h
    have : c.toNat ≤ 102 := UInt8.le_iff_toNat_le.mp hl.2
    omega

theorem hex4_lt {a b c d : UInt8} {u : Nat} (h : hex4 a b c d = some u) : u < 0x10000 := by
  unfold hex4 at h
  split at h
  next ha hb hc hd =>
    have := hexDigit_lt ha
    have := hexDigit_lt hb
    have := hexDigit_lt hc
    have := hexDigit_lt hd
    obtain rfl := Option.some.inj h
    omega
  next => cases h

theorem one_le_byteCost (c : UInt8) : 1 ≤ byteCost c := by
  unfold byteCost
  split_ifs <;> simp

theorem byteCost_le_two (c : UInt8) : byteCost c ≤ 2 := by
  unfold byteCost
  split_ifs <;> simp

@[simp] theorem stringCost_nil : stringCost [] = 0 := rfl

@[simp] theorem stringCost_cons (c : UInt8) (s : List UInt8) :
    stringCost (c :: s) = byteCost c + stringCost s := by
  simp [stringCost]

@[simp] theorem stringCost_append (s s' : List UInt8) :
    stringCost (s ++ s') = stringCost s + stringCost s' := by
  simp [stringCost]

theorem length_le_stringCost (s : List UInt8) : s.length ≤ stringCost s := by
  induction s with
  | nil => exact le_refl 0
  | cons c s ih =>
    have := one_le_byteCost c
    rw [stringCost_cons, List.length_cons]
    omega

theorem stringCost_le (s : List UInt8) : stringCost s ≤ 2 * s.length := by
  induction s with
  | nil => exact le_refl 0
  | cons c s ih =>
    have := byteCost_le_two c
    rw [stringCost_cons, List.length_cons]
    omega

/-- One step of the scanner: the closing quote, or some bytes of the string. -/
theorem scanString_cons {c : UInt8} {s d r : List UInt8} (h : scanString (c :: s) = some (d, r)) :
    d = [] ∧ r = s ∨ ∃ l d' s', d = l ++ d' ∧ scanString s' = some (d', r) ∧
      stringCost l + s'.length ≤ s.length + 1 ∧ s'.length ≤ s.length := by
  rw [scanString.eq_def] at h
  dsimp only at h
  split_ifs at h with hquote hcontrol hplain
  · obtain ⟨rfl, rfl⟩ := Prod.mk.inj (Option.some.inj h)
    exact .inl ⟨rfl, rfl⟩
  · obtain ⟨d', hscan, rfl⟩ := map_scanned_eq_some.mp h
    have hcost : byteCost c = 1 := if_neg (by simp [hquote, hcontrol, hplain])
    refine .inr ⟨[c], d', s, rfl, hscan, ?_, le_refl _⟩
    rw [stringCost_cons, stringCost_nil, hcost]
    omega
  · split at h
    · cases h
    next e s =>
      split_ifs at h
      · split at h
        · cases h
        next x _ =>
          obtain ⟨d', hscan, rfl⟩ := map_scanned_eq_some.mp h
          have hcost := byteCost_le_two x
          refine .inr ⟨[x], d', s, rfl, hscan, ?_, Nat.le_succ _⟩
          rw [stringCost_cons, stringCost_nil, List.length_cons]
          omega
      · split at h
        next h₁ h₂ h₃ h₄ s =>
          split at h
          · cases h
          next u hu =>
            split_ifs at h
            · obtain ⟨d', hscan, rfl⟩ := map_scanned_eq_some.mp h
              have hcode := length_utf8_le_three (hex4_lt hu)
              have hcost := stringCost_le (utf8 u)
              refine .inr ⟨utf8 u, d', s, rfl, hscan, ?_, ?_⟩
              · simp only [List.length_cons]
                omega
              · simp only [List.length_cons]
                omega
            · split at h
              next b v l₁ l₂ l₃ l₄ s =>
                split_ifs at h
                split at h
                · cases h
                next l hl =>
                  split_ifs at h
                  obtain ⟨d', hscan, hd⟩ := map_scanned_eq_some.mp h
                  have hcode := length_utf8_le (0x10000 + 1024 * (u - 0xD800) + (l - 0xDC00))
                  have hcost :=
                    stringCost_le (utf8 (0x10000 + 1024 * (u - 0xD800) + (l - 0xDC00)))
                  refine .inr ⟨_, d', s, hd, hscan, ?_, ?_⟩
                  · simp only [List.length_cons]
                    omega
                  · simp only [List.length_cons]
                    omega
              next => cases h
        next => cases h

/-- The bytes of a string, its closing quote and what follows it are in the text. -/
theorem stringCost_scanString {s d r : List UInt8} (h : scanString s = some (d, r)) :
    stringCost d + 1 + r.length ≤ s.length := by
  induction hn : s.length using Nat.strong_induction_on generalizing s d with
  | h n ih =>
    cases s with
    | nil => cases h
    | cons c s =>
      rw [List.length_cons] at hn
      obtain ⟨rfl, rfl⟩ | ⟨l, d', s', rfl, hscan, hcost, hlt⟩ := scanString_cons h
      · rw [stringCost_nil]
        omega
      · have hrest := ih s'.length (by omega) hscan rfl
        rw [stringCost_append]
        omega

theorem length_skipWs_le (s : List UInt8) : (skipWs s).length ≤ s.length :=
  (List.dropWhile_suffix isWs).length_le

theorem length_scanFraction {s r : List UInt8} (h : scanFraction s = some r) :
    r.length ≤ s.length := by
  unfold scanFraction at h
  split at h
  · obtain rfl := Option.some.inj h
    exact le_refl _
  next c s =>
    split_ifs at h
    · obtain rfl := Option.some.inj h
      exact le_refl _
    · obtain rfl := Option.some.inj h
      exact Nat.le_succ_of_le (List.dropWhile_suffix isDigit).length_le

theorem length_scanExponent {s r : List UInt8} (h : scanExponent s = some r) :
    r.length ≤ s.length := by
  unfold scanExponent at h
  split at h
  · obtain rfl := Option.some.inj h
    exact le_refl _
  next c s =>
    have htail : s.tail.length ≤ s.length := s.length_tail ▸ Nat.sub_le _ _
    dsimp only at h
    split_ifs at h
    all_goals obtain rfl := Option.some.inj h
    · exact le_refl _
    · exact Nat.le_succ_of_le ((List.dropWhile_suffix isDigit).length_le.trans htail)
    · exact Nat.le_succ_of_le (List.dropWhile_suffix isDigit).length_le

theorem cost_literal {s rest end_ : List UInt8} (hrest : rest = (unsigned s).dropWhile isDigit)
    (hdigits : (unsigned s).takeWhile isDigit ≠ []) (hend : end_.length ≤ rest.length) :
    cost (literal s rest end_) + end_.length ≤ s.length := by
  have hsplit := congrArg List.length
    (List.takeWhile_append_dropWhile (p := isDigit) (l := unsigned s))
  have hpos := List.length_pos_iff.mpr hdigits
  have htext := Decimal.length_text_value_le
    (fun c hc => List.mem_takeWhile_imp hc) hdigits
  rw [List.length_append, ← hrest] at hsplit
  unfold literal
  by_cases hminus : s.head? = some 45
  · have hlen : s.length = (unsigned s).length + 1 := by
      cases s with
      | nil => cases hminus
      | cons c s => rw [unsigned, if_pos hminus, List.tail_cons, List.length_cons]
    split_ifs
    · rw [cost, List.length_take]
      omega
    · have := Decimal.length_signed_neg_le (Decimal.value ((unsigned s).takeWhile isDigit))
      rw [cost]
      omega
  · have hlen : unsigned s = s := if_neg hminus
    rw [hlen] at hsplit hpos htext ⊢
    split_ifs
    · rw [cost, List.length_take]
      omega
    · rw [cost, Decimal.signed_natCast]
      omega

theorem cost_scanNumber {s r : List UInt8} {v : Json} (h : scanNumber s = some (v, r)) :
    cost v + r.length ≤ s.length := by
  unfold scanNumber at h
  dsimp only at h
  split_ifs at h with hint
  obtain ⟨end_, hend, heq⟩ := Option.map_eq_some_iff.mp h
  obtain ⟨f, hf, he⟩ := Option.bind_eq_some_iff.mp hend
  obtain ⟨rfl, rfl⟩ := Prod.mk.inj heq
  exact cost_literal rfl (not_or.mp hint).1 ((length_scanExponent he).trans (length_scanFraction hf))

theorem cost_scanWord {word s r : List UInt8} {v w : Json} (hword : cost v = word.length)
    (h : scanWord word v s = some (w, r)) : cost w + r.length ≤ s.length := by
  unfold scanWord at h
  split_ifs at h with hpre
  obtain ⟨rfl, rfl⟩ := Prod.mk.inj (Option.some.inj h)
  have := hpre.length_le
  rw [List.length_drop]
  omega

theorem tagCost_scanTag {named : Bool} {s name r : List UInt8}
    (h : scanTag named s = some (name, r)) : tagCost named name + r.length ≤ s.length := by
  unfold scanTag at h
  split_ifs at h with hnamed
  · rw [tagCost, if_pos hnamed]
    unfold scanName at h
    split at h
    · cases h
    next c s =>
      split_ifs at h
      split at h
      · cases h
      next name' s' hscan =>
        split at h
        · cases h
        next d s'' hskip =>
          split_ifs at h
          obtain ⟨rfl, rfl⟩ := Prod.mk.inj (Option.some.inj h)
          have hscanned := stringCost_scanString hscan
          have hskipped := hskip ▸ length_skipWs_le s'
          have := length_skipWs_le s''
          simp only [List.length_cons] at *
          omega
  · obtain ⟨_, rfl⟩ := Prod.mk.inj (Option.some.inj h)
    rw [tagCost, if_neg hnamed, Nat.zero_add]

theorem itemsCost_body {items : List UInt8 → Option (Items × List UInt8)} {named : Bool}
    {s r : List UInt8} {ms : Items}
    (hitems : ∀ ms r, items s = some (ms, r) → 1 ≤ itemsCost named ms ∧
      itemsCost named ms + r.length ≤ s.length)
    (h : body items named s = some (ms, r)) : max 1 (itemsCost named ms) + r.length ≤ s.length := by
  unfold body at h
  split_ifs at h with hhead
  · obtain ⟨rfl, rfl⟩ := Prod.mk.inj (Option.some.inj h)
    cases s with
    | nil => cases hhead
    | cons c s => simp [itemsCost, Nat.add_comm]
  · have := hitems ms r h
    omega

/-- A value has a text of no fewer bytes, and so have items up to the closing bracket. -/
theorem cost_parse (fuel : Nat) :
    (∀ s v r, parseValue fuel s = some (v, r) → cost v + r.length ≤ s.length) ∧
    (∀ named s ms r, parseItems fuel named s = some (ms, r) →
      1 ≤ itemsCost named ms ∧ itemsCost named ms + r.length ≤ s.length) := by
  induction fuel with
  | zero =>
    constructor
    · intro s v r h
      cases h
    · intro named s ms r h
      cases h
  | succ fuel ih =>
    obtain ⟨ihv, ihi⟩ := ih
    constructor
    · intro s v r h
      cases s with
      | nil => cases h
      | cons c s =>
        have hskip := length_skipWs_le s
        rw [parseValue] at h
        split_ifs at h
        · obtain ⟨⟨d, r⟩, hscan, heq⟩ := Option.map_eq_some_iff.mp h
          obtain ⟨rfl, rfl⟩ := Prod.mk.inj heq
          have := stringCost_scanString hscan
          simp only [cost, List.length_cons]
          omega
        · obtain ⟨⟨ms, r⟩, hbody, heq⟩ := Option.map_eq_some_iff.mp h
          obtain ⟨rfl, rfl⟩ := Prod.mk.inj heq
          have := itemsCost_body (ihi true _) hbody
          rw [cost_obj, List.length_cons]
          dsimp only
          omega
        · obtain ⟨⟨ms, r⟩, hbody, heq⟩ := Option.map_eq_some_iff.mp h
          obtain ⟨rfl, rfl⟩ := Prod.mk.inj heq
          have := itemsCost_body (ihi false _) hbody
          rw [cost_arr, List.length_cons]
          dsimp only
          omega
        · exact cost_scanWord rfl h
        · exact cost_scanWord rfl h
        · exact cost_scanWord rfl h
        · exact cost_scanNumber h
    · intro named s ms r h
      rw [parseItems] at h
      split at h
      · cases h
      next name s₁ htag =>
        split at h
        · cases h
        next v s₂ hvalue =>
          split at h
          · cases h
          next d s₃ hskip =>
            have hlen : tagCost named name + (cost v + 1) + s₃.length ≤ s.length := by
              have := tagCost_scanTag htag
              have := ihv _ _ _ hvalue
              have hskipped := hskip ▸ length_skipWs_le s₂
              simp only [List.length_cons] at hskipped
              omega
            split_ifs at h
            · obtain ⟨⟨ms, r⟩, hitems, heq⟩ := Option.map_eq_some_iff.mp h
              obtain ⟨rfl, rfl⟩ := Prod.mk.inj heq
              have := (ihi _ _ _ _ hitems).2
              have := length_skipWs_le s₃
              rw [itemsCost]
              dsimp only
              omega
            · obtain ⟨rfl, rfl⟩ := Prod.mk.inj (Option.some.inj h)
              rw [itemsCost, itemsCost]
              omega

/-- A text is at least as long as what it stands for needs. -/
theorem cost_le_of_parse {text : List UInt8} {v : Json} (h : parse text = some v) :
    cost v ≤ text.length := by
  unfold parse at h
  split at h
  · cases h
  next w rest hvalue =>
    split_ifs at h
    obtain rfl := Option.some.inj h
    have := (cost_parse _).1 _ _ _ hvalue
    have := length_skipWs_le text
    omega

/-! ## Fuel -/

/-- One more unit of fuel changes nothing where there is enough of it. -/
theorem parse_succ (fuel : Nat) :
    (∀ s : List UInt8, 2 * s.length < fuel → parseValue fuel s = parseValue (fuel + 1) s) ∧
    (∀ named (s : List UInt8), 2 * s.length + 1 < fuel →
      parseItems fuel named s = parseItems (fuel + 1) named s) := by
  induction fuel with
  | zero => exact ⟨fun s h => absurd h (Nat.not_lt_zero _), fun _ s h => absurd h (Nat.not_lt_zero _)⟩
  | succ fuel ih =>
    obtain ⟨ihv, ihi⟩ := ih
    constructor
    · intro s hs
      cases s with
      | nil => rfl
      | cons c s =>
        have hbody : ∀ named, body (parseItems fuel named) named (skipWs s) =
            body (parseItems (fuel + 1) named) named (skipWs s) := by
          intro named
          have := length_skipWs_le s
          rw [List.length_cons] at hs
          rw [body, body, ihi named _ (by omega)]
        rw [parseValue, parseValue, hbody true, hbody false]
    · intro named s hs
      rw [parseItems, parseItems]
      cases htag : scanTag named s with
      | none => rfl
      | some tag =>
        obtain ⟨name, s₁⟩ := tag
        have hle := tagCost_scanTag htag
        dsimp only
        rw [← ihv s₁ (by omega)]
        cases hvalue : parseValue fuel s₁ with
        | none => rfl
        | some value =>
          obtain ⟨v, s₂⟩ := value
          have hlt : s₂.length < s₁.length := by
            have := (cost_parse fuel).1 _ _ _ hvalue
            have := one_le_cost v
            omega
          dsimp only
          cases hskip : skipWs s₂ with
          | nil => rfl
          | cons d s₃ =>
            have hskipped := hskip ▸ length_skipWs_le s₂
            have := length_skipWs_le s₃
            rw [List.length_cons] at hskipped
            dsimp only
            rw [ihi named _ (by omega)]

/-- More fuel than twice the number of bytes has no effect. -/
theorem parseValue_fuel {fuel : Nat} {s : List UInt8} (h : 2 * s.length < fuel) :
    parseValue fuel s = parseValue (2 * s.length + 1) s := by
  induction fuel, h using Nat.le_induction with
  | base => rfl
  | succ fuel hle ih => rw [← (parse_succ fuel).1 s hle, ih]

end Json
