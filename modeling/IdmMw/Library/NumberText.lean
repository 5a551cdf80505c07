import Mathlib.Data.Char
import Mathlib.Data.List.Basic
import Mathlib.Tactic

/-!
# Texts of numbers

What `JSON.stringify` writes for a number of the language. A finite number other than zero is given
by the decimal digits that the language prints it with, the shortest ones that are read back as it.

* `Decimal.text`: where the point, the zeros and the exponent stand (`Number::toString`);
* `Decimal.text_injective`: the text gives the sign, the digits and the point back;
* `JsNumber.text_append_inj`: two numbers that are finite and not the negative zero have two texts.
-/

/-! ### Runs of characters -/

section Runs

variable {α : Type} {p : α → Bool} {xs ys r r' : List α}

/-- Nothing of the kind stands at the beginning. -/
def Ends (p : α → Bool) (r : List α) : Prop := ∀ c ∈ r.head?, p c = false

theorem ends_cons {c : α} (h : p c = false) (r : List α) : Ends p (c :: r) := by
  intro c' hc'
  obtain rfl := Option.some.inj hc'
  exact h

theorem ends_nil : Ends p [] := by
  intro c hc
  cases hc

/-- A run of a kind, and what follows it, are read off in one way. -/
theorem append_inj_of_ends (hxs : ∀ c ∈ xs, p c = true) (hys : ∀ c ∈ ys, p c = true)
    (hr : Ends p r) (hr' : Ends p r') (h : xs ++ r = ys ++ r') : xs = ys ∧ r = r' := by
  induction xs generalizing ys with
  | nil =>
    cases ys with
    | nil => exact ⟨rfl, h⟩
    | cons y ys =>
      obtain rfl : r = y :: (ys ++ r') := h
      have hy := hys y List.mem_cons_self
      rw [hr y rfl] at hy
      cases hy
  | cons x xs ih =>
    cases ys with
    | nil =>
      obtain rfl : x :: (xs ++ r) = r' := h
      have hx := hxs x List.mem_cons_self
      rw [hr' x rfl] at hx
      cases hx
    | cons y ys =>
      obtain ⟨rfl, htail⟩ := List.cons.inj h
      obtain ⟨rfl, hrest⟩ := ih (fun c hc => hxs c (List.mem_cons_of_mem _ hc))
        (fun c hc => hys c (List.mem_cons_of_mem _ hc)) htail
      exact ⟨rfl, hrest⟩

/-- The zeros around a list of digits are read off in one way. -/
theorem replicate_append_inj [DecidableEq α] {z : α} {a b a' b' : ℕ} (hxs : xs ≠ [])
    (hys : ys ≠ []) (hhead : xs.head? ≠ some z) (hhead' : ys.head? ≠ some z)
    (hlast : xs.getLast? ≠ some z) (hlast' : ys.getLast? ≠ some z)
    (h : List.replicate a z ++ (xs ++ List.replicate b z) =
      List.replicate a' z ++ (ys ++ List.replicate b' z)) : a = a' ∧ xs = ys := by
  have hzeros : ∀ n, ∀ c ∈ List.replicate n z, (c == z) = true := by
    intro n c hc
    rw [List.eq_of_mem_replicate hc]
    exact beq_self_eq_true z
  have hends : ∀ {zs : List α} (rest : List α), zs ≠ [] → zs.head? ≠ some z →
      Ends (· == z) (zs ++ rest) := by
    intro zs rest hne hz c hc
    rw [List.head?_append_of_ne_nil _ hne] at hc
    exact beq_false_of_ne fun heq => hz (heq ▸ hc)
  obtain ⟨hleading, hrest⟩ := append_inj_of_ends (hzeros a) (hzeros a')
    (hends _ hxs hhead) (hends _ hys hhead') h
  have hlength := congrArg List.length hleading
  rw [List.length_replicate, List.length_replicate] at hlength
  have hreverse := congrArg List.reverse hrest
  simp only [List.reverse_append, List.reverse_replicate] at hreverse
  have hne : ∀ {zs : List α}, zs ≠ [] → zs.reverse ≠ [] := fun hzs => by simpa using hzs
  have htrailing := append_inj_of_ends (hzeros b) (hzeros b')
    (List.append_nil xs.reverse ▸ hends [] (hne hxs) (by rwa [List.head?_reverse]))
    (List.append_nil ys.reverse ▸ hends [] (hne hys) (by rwa [List.head?_reverse])) hreverse
  exact ⟨hlength, List.reverse_injective htrailing.2⟩

end Runs

/-! ### Decimal literals -/

/-- The digits before and after the point, and the exponent, 0 where none is written. -/
structure DecimalLiteral where
  whole : List Char
  fraction : List Char
  exponent : ℤ

namespace DecimalLiteral

def fractionText : List Char → List Char
  | [] => []
  | fraction => '.' :: fraction

def exponentText (e : ℤ) : List Char :=
  if e = 0 then [] else 'e' :: (if e < 0 then '-' else '+') :: Nat.toDigits 10 e.natAbs

def text (l : DecimalLiteral) : List Char :=
  l.whole ++ (fractionText l.fraction ++ exponentText l.exponent)

/-- Only digits stand where digits stand. -/
structure Valid (l : DecimalLiteral) : Prop where
  whole : ∀ c ∈ l.whole, c.isDigit = true
  fraction : ∀ c ∈ l.fraction, c.isDigit = true

/-- The characters of the texts of numbers. -/
def isNumberChar (c : Char) : Bool :=
  c.isDigit || c == '.' || c == 'e' || c == '-' || c == '+'

variable {l l' : DecimalLiteral} {r r' : List Char}

theorem isNumberChar_of_isDigit {c : Char} (h : c.isDigit = true) : isNumberChar c = true := by
  simp [isNumberChar, h]

theorem isNumberChar_of_mem_text (hl : l.Valid) {c : Char} (hc : c ∈ l.text) :
    isNumberChar c = true := by
  unfold text at hc
  rcases List.mem_append.1 hc with hwhole | hc
  · exact isNumberChar_of_isDigit (hl.whole c hwhole)
  rcases List.mem_append.1 hc with hfraction | hexponent
  · cases hf : l.fraction with
    | nil =>
      rw [hf] at hfraction
      cases hfraction
    | cons d ds =>
      rw [hf] at hfraction
      rcases List.mem_cons.1 hfraction with rfl | hmem
      · rfl
      · exact isNumberChar_of_isDigit (hl.fraction c (hf ▸ hmem))
  · unfold exponentText at hexponent
    split_ifs at hexponent
    · cases hexponent
    all_goals
      rcases List.mem_cons.1 hexponent with rfl | hmem
      · rfl
      rcases List.mem_cons.1 hmem with rfl | hmem
      · rfl
      exact isNumberChar_of_isDigit (Nat.isDigit_of_mem_toDigits (by decide) (by decide) hmem)

theorem exponentText_injective : Function.Injective exponentText := by
  have hdigits : ∀ {m n : ℕ}, Nat.toDigits 10 m = Nat.toDigits 10 n → m = n := by
    intro m n h
    have hread := congrArg (fun ds => Nat.ofDigitChars 10 ds 0) h
    simpa using hread
  intro e e' h
  unfold exponentText at h
  split_ifs at h with he he' he' hneg hneg' hneg'
  · rw [he, he']
  · have habs := hdigits (List.cons.inj (List.cons.inj h).2).2
    omega
  · cases (List.cons.inj (List.cons.inj h).2).1
  · cases (List.cons.inj (List.cons.inj h).2).1
  · have habs := hdigits (List.cons.inj (List.cons.inj h).2).2
    omega

theorem ends_exponentText (e : ℤ) : Ends Char.isDigit (exponentText e) := by
  unfold exponentText
  split_ifs
  · exact ends_nil
  all_goals exact ends_cons (by decide) _

theorem exponentText_ne_point (e : ℤ) (ds : List Char) : exponentText e ≠ '.' :: ds := by
  unfold exponentText
  split_ifs <;> simp

/-- A literal is read off its text in one way. -/
theorem text_inj (hl : l.Valid) (hl' : l'.Valid) (h : l.text = l'.text) : l = l' := by
  have hends : ∀ (ds : List Char) (e : ℤ), Ends Char.isDigit (fractionText ds ++ exponentText e) := by
    intro ds e
    cases ds with
    | nil => exact ends_exponentText e
    | cons d ds => exact ends_cons (by decide) _
  obtain ⟨w, f, e⟩ := l
  obtain ⟨w', f', e'⟩ := l'
  obtain ⟨rfl, hrest⟩ := append_inj_of_ends hl.whole hl'.whole (hends f e) (hends f' e') h
  cases f with
  | nil =>
    cases f' with
    | nil => rw [exponentText_injective hrest]
    | cons d' ds' => exact absurd hrest (exponentText_ne_point e _)
  | cons d ds =>
    cases f' with
    | nil => exact absurd hrest.symm (exponentText_ne_point e' _)
    | cons d' ds' =>
      have htail : d :: ds ++ exponentText e = d' :: ds' ++ exponentText e' := (List.cons.inj hrest).2
      obtain ⟨hdigits, he⟩ := append_inj_of_ends hl.fraction hl'.fraction (ends_exponentText e)
        (ends_exponentText e') htail
      rw [exponentText_injective he]
      exact congrArg (fun ds => DecimalLiteral.mk w ds e') hdigits

end DecimalLiteral

/-! ### Finite numbers -/

/-- The number `±0.d₁d₂..d_k * 10 ^ point`, where neither the first digit nor the last is 0. -/
@[ext]
structure Decimal where
  negative : Bool
  digits : List Char
  point : ℤ
  isDigit : ∀ c ∈ digits, c.isDigit = true
  ne_nil : digits ≠ []
  head_ne : digits.head? ≠ some '0'
  getLast_ne : digits.getLast? ≠ some '0'

namespace Decimal

/-- Where the point and the exponent stand. -/
def literal (d : Decimal) : DecimalLiteral :=
  let n := d.point
  let k := d.digits.length
  if k ≤ n ∧ n ≤ 21 then ⟨d.digits ++ List.replicate (n - k).toNat '0', [], 0⟩
  else if 0 < n ∧ n ≤ 21 then ⟨d.digits.take n.toNat, d.digits.drop n.toNat, 0⟩
  else if -6 < n ∧ n ≤ 0 then ⟨['0'], List.replicate (-n).toNat '0' ++ d.digits, 0⟩
  else ⟨d.digits.take 1, d.digits.drop 1, n - 1⟩

/-- `Number::toString`. -/
def text (d : Decimal) : List Char :=
  if d.negative then '-' :: d.literal.text else d.literal.text

variable {d d' : Decimal}

theorem length_pos (d : Decimal) : 0 < d.digits.length := List.length_pos_of_ne_nil d.ne_nil

theorem literal_valid (d : Decimal) : d.literal.Valid := by
  have hzeros : ∀ n, ∀ c ∈ List.replicate n '0', c.isDigit = true := by
    intro n c hc
    rw [List.eq_of_mem_replicate hc]
    rfl
  unfold literal
  dsimp only
  split_ifs
  · refine ⟨?_, by simp⟩
    intro c hc
    rcases List.mem_append.1 hc with hc | hc
    · exact d.isDigit c hc
    · exact hzeros _ c hc
  · exact ⟨fun c hc => d.isDigit c (List.mem_of_mem_take hc),
      fun c hc => d.isDigit c (List.mem_of_mem_drop hc)⟩
  · refine ⟨by simp, ?_⟩
    intro c hc
    rcases List.mem_append.1 hc with hc | hc
    · exact hzeros _ c hc
    · exact d.isDigit c hc
  · exact ⟨fun c hc => d.isDigit c (List.mem_of_mem_take hc),
      fun c hc => d.isDigit c (List.mem_of_mem_drop hc)⟩

/-- In all four forms, the digits stand between zeros, and the zeros before them, the place of the
point and the exponent add up. -/
theorem literal_digits (d : Decimal) : ∃ a b : ℕ,
    d.literal.whole ++ d.literal.fraction =
        List.replicate a '0' ++ (d.digits ++ List.replicate b '0') ∧
      d.point = d.literal.exponent + d.literal.whole.length - a := by
  have hlength := d.length_pos
  unfold literal
  dsimp only
  split_ifs with hinteger hpoint hsmall
  · refine ⟨0, (d.point - d.digits.length).toNat, by simp, ?_⟩
    simp only [List.length_append, List.length_replicate]
    omega
  · refine ⟨0, 0, by simp, ?_⟩
    simp only [List.length_take]
    omega
  · refine ⟨(-d.point).toNat + 1, 0, by simp [List.replicate_succ], ?_⟩
    simp only [List.length_singleton]
    omega
  · refine ⟨0, 0, by simp [-List.drop_one], ?_⟩
    simp only [List.length_take]
    omega

theorem literal_ne_zero (d : Decimal) : d.literal ≠ ⟨['0'], [], 0⟩ := by
  intro h
  obtain ⟨a, b, hdigits, -⟩ := d.literal_digits
  rw [h] at hdigits
  cases hd : d.digits with
  | nil => exact d.ne_nil hd
  | cons c cs =>
    have hmem : c ∈ ['0'] ++ [] := by
      rw [hdigits, hd]
      simp
    refine d.head_ne ?_
    rw [hd, List.mem_singleton.1 hmem]
    rfl

/-- The place of the point and the digits are read off the literal. -/
theorem literal_inj (h : d.literal = d'.literal) : d.digits = d'.digits ∧ d.point = d'.point := by
  obtain ⟨a, b, hdigits, hpoint⟩ := d.literal_digits
  obtain ⟨a', b', hdigits', hpoint'⟩ := d'.literal_digits
  rw [h] at hdigits hpoint
  obtain ⟨ha, hd⟩ := replicate_append_inj d.ne_nil d'.ne_nil d.head_ne d'.head_ne d.getLast_ne
    d'.getLast_ne (hdigits.symm.trans hdigits')
  exact ⟨hd, by omega⟩

theorem literal_whole_ne_nil (d : Decimal) : d.literal.whole ≠ [] := by
  intro h
  have hzero := congrArg List.length h
  have hlength := d.length_pos
  unfold literal at hzero
  dsimp only at hzero
  split_ifs at hzero
  · simp only [List.length_append, List.length_replicate, List.length_nil] at hzero
    omega
  · simp only [List.length_take, List.length_nil] at hzero
    omega
  · simp only [List.length_take, List.length_nil] at hzero
    omega

theorem literal_text_ne_minus (d : Decimal) (cs : List Char) : d.literal.text ≠ '-' :: cs := by
  intro h
  cases hwhole : d.literal.whole with
  | nil => exact d.literal_whole_ne_nil hwhole
  | cons c ds =>
    unfold DecimalLiteral.text at h
    rw [hwhole] at h
    have hdigit := d.literal_valid.whole c (hwhole ▸ List.mem_cons_self)
    rw [(List.cons.inj h).1] at hdigit
    cases hdigit

theorem text_injective : Function.Injective text := by
  intro d d' h
  have hliteral : d.literal.text = d'.literal.text →
      d.digits = d'.digits ∧ d.point = d'.point := fun htext =>
    literal_inj (DecimalLiteral.text_inj d.literal_valid d'.literal_valid htext)
  unfold text at h
  cases hn : d.negative with
  | true =>
    cases hn' : d'.negative with
    | true =>
      rw [hn, hn'] at h
      obtain ⟨hdigits, hpoint⟩ := hliteral (List.cons.inj h).2
      exact Decimal.ext (hn.trans hn'.symm) hdigits hpoint
    | false =>
      rw [hn, hn'] at h
      exact absurd h.symm (d'.literal_text_ne_minus _)
  | false =>
    cases hn' : d'.negative with
    | true =>
      rw [hn, hn'] at h
      exact absurd h (d.literal_text_ne_minus _)
    | false =>
      rw [hn, hn'] at h
      obtain ⟨hdigits, hpoint⟩ := hliteral h
      exact Decimal.ext (hn.trans hn'.symm) hdigits hpoint

theorem isNumberChar_of_mem_text {c : Char} (h : c ∈ d.text) :
    DecimalLiteral.isNumberChar c = true := by
  unfold text at h
  split_ifs at h
  · rcases List.mem_cons.1 h with rfl | hmem
    · rfl
    · exact DecimalLiteral.isNumberChar_of_mem_text d.literal_valid hmem
  · exact DecimalLiteral.isNumberChar_of_mem_text d.literal_valid h

end Decimal

/-! ### Numbers -/

/-- The numbers that `JSON.parse` makes; a text such as `1e999` is read as an infinity. -/
inductive JsNumber
  | zero
  | negativeZero
  | finite (d : Decimal)
  | infinity (negative : Bool)

namespace JsNumber

/-- `JSON.stringify` of a number. -/
def text : JsNumber → List Char
  | zero => ['0']
  | negativeZero => ['0']
  | finite d => d.text
  | infinity _ => "null".toList

/-- Finite, and not the negative zero. -/
def Ordinary : JsNumber → Prop
  | zero => True
  | negativeZero => False
  | finite _ => True
  | infinity _ => False

variable {n n' : JsNumber} {r r' : List Char}

theorem isNumberChar_of_mem_text (hn : n.Ordinary) {c : Char} (h : c ∈ n.text) :
    DecimalLiteral.isNumberChar c = true := by
  cases n with
  | zero =>
    rw [List.mem_singleton.1 h]
    rfl
  | negativeZero => cases hn
  | finite d => exact d.isNumberChar_of_mem_text h
  | infinity negative => cases hn

theorem text_ne_nil (n : JsNumber) : n.text ≠ [] := by
  cases n with
  | finite d =>
    intro h
    have htext : d.text = [] := h
    unfold Decimal.text at htext
    split_ifs at htext
    unfold DecimalLiteral.text at htext
    exact d.literal_whole_ne_nil (List.append_eq_nil_iff.1 htext).1
  | _ => exact List.cons_ne_nil _ _

theorem text_finite_ne_zero (d : Decimal) : d.text ≠ ['0'] := by
  unfold Decimal.text
  split_ifs
  · simp
  · intro h
    have hzero : DecimalLiteral.Valid ⟨['0'], [], 0⟩ := ⟨by simp, by simp⟩
    exact d.literal_ne_zero (DecimalLiteral.text_inj d.literal_valid hzero h)

theorem text_inj (hn : n.Ordinary) (hn' : n'.Ordinary) (h : n.text = n'.text) : n = n' := by
  cases n with
  | zero =>
    cases n' with
    | zero => rfl
    | finite d => exact absurd h.symm (text_finite_ne_zero d)
    | _ => cases hn'
  | finite d =>
    cases n' with
    | zero => exact absurd h (text_finite_ne_zero d)
    | finite d' => rw [Decimal.text_injective h]
    | _ => cases hn'
  | _ => cases hn

/-- A number is read off its text in one way, also before other text. -/
theorem text_append_inj (hn : n.Ordinary) (hn' : n'.Ordinary)
    (hr : Ends DecimalLiteral.isNumberChar r) (hr' : Ends DecimalLiteral.isNumberChar r')
    (h : n.text ++ r = n'.text ++ r') : n = n' ∧ r = r' := by
  obtain ⟨htext, hrest⟩ := append_inj_of_ends (fun _ => isNumberChar_of_mem_text hn)
    (fun _ => isNumberChar_of_mem_text hn') hr hr' h
  exact ⟨text_inj hn hn' htext, hrest⟩

end JsNumber
