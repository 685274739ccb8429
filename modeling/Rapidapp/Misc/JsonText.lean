import Rapidapp.Misc.Json

/-!
# Written JSON texts

What the parser of `Misc/Json.lean` does with a text that was written without white space: one
rule for each kind of value and for each way an item can go on.
-/

namespace Json

open Decimal (isDigit)

/-! ## Strings -/

theorem byteCost_eq_one {c : UInt8} : byteCost c = 1 ↔ c ≠ 34 ∧ c ≠ 92 ∧ ¬ c < 32 := by
  rw [byteCost, ← not_or, ← not_or]
  split_ifs with h <;> simp [h]

theorem scanString_quote (r : List UInt8) : scanString (34 :: r) = some ([], r) := by
  rw [scanString.eq_def]
  rfl

theorem scanString_plain {c : UInt8} (hc : byteCost c = 1) (s : List UInt8) :
    scanString (c :: s) = (scanString s).map (scanned [c]) := by
  obtain ⟨hquote, hescape, hcontrol⟩ := byteCost_eq_one.mp hc
  rw [scanString.eq_def]
  simp only [if_neg hquote, if_neg hcontrol, if_pos hescape]

theorem scanString_escapedQuote (s : List UInt8) :
    scanString (92 :: 34 :: s) = (scanString s).map (scanned [34]) := by
  rw [scanString.eq_def]
  rfl

/-- A string without quotes, backslashes and control characters stands for itself. -/
theorem scanString_of_plain {s : List UInt8} (hs : ∀ c ∈ s, byteCost c = 1) (r : List UInt8) :
    scanString (s ++ 34 :: r) = some (s, r) := by
  induction s with
  | nil => exact scanString_quote r
  | cons c s ih =>
    rw [List.cons_append, scanString_plain (hs c List.mem_cons_self),
      ih fun c hc => hs c (List.mem_cons_of_mem _ hc)]
    rfl

/-! ## Numbers -/

/-- What can follow a number without being taken for a part of it. -/
def EndsNumber (r : List UInt8) : Prop :=
  ∀ c ∈ r.head?, isDigit c = false ∧ c ≠ 46 ∧ c ≠ 101 ∧ c ≠ 69

theorem endsNumber_comma (r : List UInt8) : EndsNumber (44 :: r) := by
  intro c hc
  obtain rfl := Option.some.inj hc
  decide

theorem endsNumber_closing (named : Bool) (r : List UInt8) : EndsNumber (closing named :: r) := by
  intro c hc
  obtain rfl := Option.some.inj hc
  cases named <;> decide

theorem unsigned_signed (n : Int) (r : List UInt8) :
    unsigned (Decimal.signed n ++ r) = Decimal.text n.natAbs ++ r ∧
      ((Decimal.signed n ++ r).head? = some 45 ↔ n < 0) := by
  unfold Decimal.signed
  split_ifs with hn
  · exact ⟨rfl, iff_of_true rfl hn⟩
  · obtain ⟨c, l, htext⟩ := List.exists_cons_of_ne_nil (Decimal.text_ne_nil n.natAbs)
    have hdigit := Decimal.isDigit_of_mem_text (n := n.natAbs) (c := c) (by simp [htext])
    have hminus : c ≠ 45 := by
      intro hc
      rw [hc] at hdigit
      cases hdigit
    rw [htext, unsigned]
    simp [hminus, hn]

theorem scan_fraction_exponent {r : List UInt8} (hr : EndsNumber r) :
    (scanFraction r).bind scanExponent = some r := by
  cases r with
  | nil => rfl
  | cons c r =>
    obtain ⟨_, hdot, he, hE⟩ := hr c rfl
    simp [scanFraction, scanExponent, hdot, he, hE]

theorem scanNumber_signed (n : Int) {r : List UInt8} (hr : EndsNumber r) :
    scanNumber (Decimal.signed n ++ r) = some (.int n, r) := by
  obtain ⟨hunsigned, hminus⟩ := unsigned_signed n r
  obtain ⟨htake, hdrop⟩ := Decimal.takeWhile_digits
    (fun c hc => Decimal.isDigit_of_mem_text hc) (fun c hc => (hr c hc).1)
  have hzeros : ¬ (Decimal.text n.natAbs = [] ∨
      (Decimal.text n.natAbs).head? = some 48 ∧ Decimal.text n.natAbs ≠ [48]) := by
    intro h
    obtain h | ⟨hhead, hne⟩ := h
    · exact Decimal.text_ne_nil _ h
    · obtain ⟨_, htext⟩ | ⟨c, l, htext, hc, _⟩ := Decimal.text_cases n.natAbs
      · exact hne htext
      · rw [htext] at hhead
        exact hc (Option.some.inj hhead)
  have hliteral : literal (Decimal.signed n ++ r) r r = .int n := by
    rw [literal, if_neg (lt_irrefl _), hunsigned, htake, Decimal.value_text]
    simp only [hminus]
    split_ifs with hn
    · exact congrArg Json.int (by omega)
    · exact congrArg Json.int (by omega)
  unfold scanNumber
  rw [hunsigned, htake, hdrop]
  dsimp only
  rw [if_neg hzeros, scan_fraction_exponent hr, Option.map_some, hliteral]

/-! ## Values -/

theorem skipWs_cons {c : UInt8} (hc : isWs c = false) (s : List UInt8) :
    skipWs (c :: s) = c :: s := by
  rw [skipWs, List.dropWhile_cons_of_neg (by simp [hc])]

theorem parseValue_str {s r d : List UInt8} (hscan : scanString s = some (d, r)) (fuel : Nat) :
    parseValue (fuel + 1) (34 :: s) = some (.str d, r) := by
  rw [parseValue, if_pos rfl, hscan]
  rfl

theorem head_signed (n : Int) :
    ∃ c l, Decimal.signed n = c :: l ∧ (c = 45 ∨ isDigit c = true) := by
  unfold Decimal.signed
  split_ifs
  · exact ⟨45, _, rfl, .inl rfl⟩
  · obtain ⟨c, l, htext⟩ := List.exists_cons_of_ne_nil (Decimal.text_ne_nil n.natAbs)
    exact ⟨c, l, htext, .inr (Decimal.isDigit_of_mem_text (n := n.natAbs) (by simp [htext]))⟩

/-- The first byte of a number starts nothing else. -/
theorem ne_of_starts_number {c : UInt8} (hc : c = 45 ∨ isDigit c = true) :
    c ≠ 34 ∧ c ≠ 123 ∧ c ≠ 91 ∧ c ≠ 116 ∧ c ≠ 102 ∧ c ≠ 110 ∧ c ≠ 93 ∧ c ≠ 125 ∧
      isWs c = false := by
  have hrange : 45 ≤ c.toNat ∧ c.toNat ≤ 57 := by
    obtain rfl | hdigit := hc
    · exact ⟨le_refl _, by decide⟩
    · have := Decimal.isDigit_iff.mp hdigit
      omega
  have hne : ∀ d : UInt8, d.toNat < 45 ∨ 57 < d.toNat → c ≠ d := by
    intro d hd hcd
    rw [hcd] at hrange
    omega
  simp only [isWs, Bool.or_eq_false_iff, decide_eq_false_iff_not]
  simp [hne]

theorem parseValue_int (n : Int) {r : List UInt8} (hr : EndsNumber r) (fuel : Nat) :
    parseValue (fuel + 1) (Decimal.signed n ++ r) = some (.int n, r) := by
  have hscan := scanNumber_signed n hr
  obtain ⟨c, l, hsigned, hc⟩ := head_signed n
  obtain ⟨h1, h2, h3, h4, h5, h6, _⟩ := ne_of_starts_number hc
  rw [hsigned, List.cons_append] at hscan ⊢
  rw [parseValue, if_neg h1, if_neg h2, if_neg h3, if_neg h4, if_neg h5, if_neg h6, hscan]

/-! ## Items -/

section Items

variable {named : Bool} {fuel : Nat} {s s₁ s₂ name : List UInt8} {v : Json}

theorem isWs_closing (named : Bool) : isWs (closing named) = false := by
  cases named <;> rfl

/-- The name of a member, when it is followed at once by the colon and the value. -/
theorem scanName_written {c : UInt8} (hscan : scanString s = some (name, 58 :: c :: s₁))
    (hc : isWs c = false) : scanName (34 :: s) = some (name, c :: s₁) := by
  rw [scanName, if_neg (fun h => h rfl), hscan]
  dsimp only
  rw [skipWs_cons (by rfl)]
  dsimp only
  rw [if_pos rfl, skipWs_cons hc]

theorem parseItems_last (htag : scanTag named s = some (name, s₁))
    (hvalue : parseValue fuel s₁ = some (v, closing named :: s₂)) :
    parseItems (fuel + 1) named s = some ([(name, v)], s₂) := by
  have hcomma : closing named ≠ 44 := by cases named <;> decide
  rw [parseItems, htag]
  dsimp only
  rw [hvalue]
  dsimp only
  rw [skipWs_cons (isWs_closing named)]
  dsimp only
  rw [if_neg hcomma, if_pos rfl]

theorem parseItems_comma {c : UInt8} (hc : isWs c = false)
    (htag : scanTag named s = some (name, s₁))
    (hvalue : parseValue fuel s₁ = some (v, 44 :: c :: s₂)) :
    parseItems (fuel + 1) named s =
      (parseItems fuel named (c :: s₂)).map fun r => ((name, v) :: r.1, r.2) := by
  rw [parseItems, htag]
  dsimp only
  rw [hvalue]
  dsimp only
  rw [skipWs_cons (by rfl)]
  dsimp only
  rw [if_pos rfl, skipWs_cons hc]

/-- The bracket that opens. -/
def opening (named : Bool) : UInt8 := if named then 123 else 91

/-- An object or an array of these items. -/
def ofItems (named : Bool) (ms : Items) : Json :=
  if named then .obj ms else .arr (ms.map Prod.snd)

theorem cost_ofItems (named : Bool) (ms : Items) :
    cost (ofItems named ms) = 1 + max 1 (itemsCost named ms) := by
  cases named with
  | true => exact cost_obj ms
  | false => exact cost_arr ms

theorem parseValue_empty (named : Bool) (fuel : Nat) (r : List UInt8) :
    parseValue (fuel + 1) (opening named :: closing named :: r) = some (ofItems named [], r) := by
  cases named with
  | true => rfl
  | false => rfl

theorem parseValue_items {c : UInt8} (hc : isWs c = false) (hclosing : c ≠ closing named)
    {ms : Items} (hitems : parseItems fuel named (c :: s₁) = some (ms, s₂)) :
    parseValue (fuel + 1) (opening named :: c :: s₁) = some (ofItems named ms, s₂) := by
  have hbody : body (parseItems fuel named) named (skipWs (c :: s₁)) = some (ms, s₂) := by
    rw [skipWs_cons hc, body, List.head?_cons, if_neg (fun h => hclosing (Option.some.inj h)),
      hitems]
  cases named with
  | true =>
    rw [opening, if_pos rfl, parseValue, if_neg (by decide), if_pos rfl, hbody]
    rfl
  | false =>
    rw [opening, if_neg Bool.false_ne_true, parseValue, if_neg (by decide), if_neg (by decide),
      if_pos rfl, hbody]
    rfl

end Items

end Json
