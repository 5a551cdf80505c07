import IdmMw.Library.NumberText

/-!
# Texts of JSON values

The values that `JSON.parse` makes, and the text that `JSON.stringify` writes for them. An object is
the list of its entries, in the order in which the language enumerates them.

* `JsValue.children`, `JsValue.induction`, `JsValue.Everywhere`: what is inside a value;
* `quote`, `JsValue.text`: the texts of strings and values;
* `quote_append_inj`, `items_inj`: strings, and lists of items, are read off in one way;
* `JsValue.readOff`, `JsValue.text_inj`: so are the values whose numbers are finite and not the
  negative zero.
-/

/-! ### Values -/

inductive JsValue
  | null
  | bool (b : Bool)
  | num (n : JsNumber)
  | str (s : String)
  | arr (items : List JsValue)
  | obj (entries : List (String × JsValue))

namespace JsValue

/-- The values directly inside. -/
def children : JsValue → List JsValue
  | arr items => items
  | obj entries => entries.map Prod.snd
  | _ => []

mutual

theorem induction {P : JsValue → Prop} (step : ∀ v, (∀ w ∈ v.children, P w) → P v) : ∀ v, P v
  | null => step _ (by simp [children])
  | bool _ => step _ (by simp [children])
  | num _ => step _ (by simp [children])
  | str _ => step _ (by simp [children])
  | arr items => step _ (induction_items step items)
  | obj entries => step _ (induction_entries step entries)

theorem induction_items {P : JsValue → Prop} (step : ∀ v, (∀ w ∈ v.children, P w) → P v) :
    ∀ items : List JsValue, ∀ w ∈ items, P w
  | [] => by simp
  | v :: items => List.forall_mem_cons.2 ⟨induction step v, induction_items step items⟩

theorem induction_entries {P : JsValue → Prop} (step : ∀ v, (∀ w ∈ v.children, P w) → P v) :
    ∀ entries : List (String × JsValue), ∀ w ∈ entries.map Prod.snd, P w
  | [] => by simp
  | (_, v) :: entries =>
    List.forall_mem_cons.2 ⟨induction step v, induction_entries step entries⟩

end

/-- The value, and all that are inside it at any depth, satisfy `p`. -/
inductive Everywhere (p : JsValue → Prop) : JsValue → Prop
  | intro {v : JsValue} (here : p v) (inside : ∀ w ∈ v.children, Everywhere p w) : Everywhere p v

theorem Everywhere.here {p : JsValue → Prop} {v : JsValue} (h : Everywhere p v) : p v := by
  obtain ⟨hv, -⟩ := h
  exact hv

theorem Everywhere.inside {p : JsValue → Prop} {v w : JsValue} (h : Everywhere p v)
    (hw : w ∈ v.children) : Everywhere p w := by
  obtain ⟨-, hinside⟩ := h
  exact hinside w hw

end JsValue

/-! ### Texts -/

/-- `\uXXXX`, for a control character. -/
def unicodeEscape (c : Char) : List Char :=
  ['\\', 'u', '0', '0', Nat.digitChar (c.toNat / 16), Nat.digitChar (c.toNat % 16)]

/-- A character inside the quotes. -/
def escape (c : Char) : List Char :=
  if c = '"' then ['\\', '"']
  else if c = '\\' then ['\\', '\\']
  else if c = '\x08' then ['\\', 'b']
  else if c = '\t' then ['\\', 't']
  else if c = '\n' then ['\\', 'n']
  else if c = '\x0c' then ['\\', 'f']
  else if c = '\r' then ['\\', 'r']
  else if c.toNat < 0x20 then unicodeEscape c
  else [c]

/-- `JSON.stringify` of a string. -/
def quote (s : String) : List Char := '"' :: (s.toList.flatMap escape ++ ['"'])

/-- `join(',')`. -/
def joinComma (texts : List (List Char)) : List Char := [','].intercalate texts

namespace JsValue

mutual

/-- `JSON.stringify`. -/
def text : JsValue → List Char
  | null => "null".toList
  | bool true => "true".toList
  | bool false => "false".toList
  | num n => n.text
  | str s => quote s
  | arr items => '[' :: (joinComma (itemTexts items) ++ [']'])
  | obj entries => '\x7b' :: (joinComma (entryTexts entries) ++ ['\x7d'])

def itemTexts : List JsValue → List (List Char)
  | [] => []
  | v :: items => text v :: itemTexts items

def entryTexts : List (String × JsValue) → List (List Char)
  | [] => []
  | (key, v) :: entries => (quote key ++ ':' :: text v) :: entryTexts entries

end

def entryText (entry : String × JsValue) : List Char := quote entry.1 ++ ':' :: entry.2.text

/-- What a recursion over values does with the lists in them. -/
theorem eq_map_of_cons {α β : Type} {f : α → β} {g : List α → List β} (hnil : g [] = [])
    (hcons : ∀ x xs, g (x :: xs) = f x :: g xs) (xs : List α) : g xs = xs.map f := by
  induction xs with
  | nil => exact hnil
  | cons x xs ih => rw [hcons, ih, List.map_cons]

theorem text_arr (items : List JsValue) :
    (arr items).text = '[' :: (joinComma (items.map text) ++ [']']) := by
  have hitems : itemTexts items = items.map text :=
    eq_map_of_cons rfl (fun _ _ => rfl) items
  rw [text, hitems]

theorem text_obj (entries : List (String × JsValue)) :
    (obj entries).text = '\x7b' :: (joinComma (entries.map entryText) ++ ['\x7d']) := by
  have hentries : entryTexts entries = entries.map entryText :=
    eq_map_of_cons rfl (fun _ _ => rfl) entries
  rw [text, hentries]

end JsValue

example : (JsValue.obj [("a\n", .arr [.num .zero, .str "é"]), ("b", .null)]).text =
    "\x7b\"a\\n\":[0,\"é\"],\"b\":null\x7d".toList := by
  decide

/-! ### Reading strings -/

/-- The value of a hexadecimal digit. -/
def hexValue (c : Char) : ℕ := if c.isDigit then c.toNat - 48 else c.toNat - 87

/-- The first character inside the quotes, and what follows it. -/
def unescape : List Char → Option (Char × List Char)
  | '\\' :: 'u' :: _ :: _ :: c :: d :: r => some (Char.ofNat (16 * hexValue c + hexValue d), r)
  | '\\' :: 'b' :: r => some ('\x08', r)
  | '\\' :: 't' :: r => some ('\t', r)
  | '\\' :: 'n' :: r => some ('\n', r)
  | '\\' :: 'f' :: r => some ('\x0c', r)
  | '\\' :: 'r' :: r => some ('\r', r)
  | '\\' :: c :: r => some (c, r)
  | c :: r => some (c, r)
  | [] => none

theorem hexValue_digitChar : ∀ n < 16, hexValue (Nat.digitChar n) = n := by
  decide

theorem unescape_escape (c : Char) (r : List Char) : unescape (escape c ++ r) = some (c, r) := by
  unfold escape
  split_ifs with hquote hslash hb ht hn hf hr hcontrol
  · rw [hquote]
    rfl
  · rw [hslash]
    rfl
  · rw [hb]
    rfl
  · rw [ht]
    rfl
  · rw [hn]
    rfl
  · rw [hf]
    rfl
  · rw [hr]
    rfl
  · show some (Char.ofNat (16 * hexValue _ + hexValue _), r) = some (c, r)
    rw [hexValue_digitChar _ (by omega), hexValue_digitChar _ (by omega), Nat.div_add_mod,
      Char.ofNat_toNat]
  · show unescape (c :: r) = some (c, r)
    unfold unescape
    split <;> simp_all

/-- The quote ends a string: no character is written so that it begins with one. -/
theorem head_escape (c : Char) : ∃ d ds, escape c = d :: ds ∧ d ≠ '"' := by
  unfold escape
  split_ifs with hquote
  all_goals exact ⟨_, _, rfl, by first | decide | assumption⟩

theorem quote_append_inj {s s' : String} {r r' : List Char} (h : quote s ++ r = quote s' ++ r') :
    s = s' ∧ r = r' := by
  have hbody : ∀ (cs cs' : List Char), cs.flatMap escape ++ '"' :: r =
      cs'.flatMap escape ++ '"' :: r' → cs = cs' ∧ r = r' := by
    intro cs
    induction cs with
    | nil =>
      intro cs' h
      cases cs' with
      | nil => exact ⟨rfl, (List.cons.inj h).2⟩
      | cons c' cs' =>
        obtain ⟨d, ds, hescape, hd⟩ := head_escape c'
        rw [List.flatMap_cons, hescape] at h
        exact absurd (List.cons.inj h).1.symm hd
    | cons c cs ih =>
      intro cs' h
      cases cs' with
      | nil =>
        obtain ⟨d, ds, hescape, hd⟩ := head_escape c
        rw [List.flatMap_cons, hescape] at h
        exact absurd (List.cons.inj h).1 hd
      | cons c' cs' =>
        rw [List.flatMap_cons, List.flatMap_cons, List.append_assoc, List.append_assoc] at h
        have hread := congrArg unescape h
        rw [unescape_escape, unescape_escape] at hread
        obtain ⟨rfl, hrest⟩ := Prod.mk.inj (Option.some.inj hread)
        obtain ⟨rfl, hr⟩ := ih cs' hrest
        exact ⟨rfl, hr⟩
  unfold quote at h
  rw [List.cons_append, List.cons_append, List.append_assoc, List.append_assoc] at h
  obtain ⟨hchars, hr⟩ := hbody _ _ (List.cons.inj h).2
  exact ⟨String.toList_injective hchars, hr⟩

/-! ### Reading lists -/

section Items

open DecimalLiteral (isNumberChar)

variable {α : Type} {f : α → List Char} {close : Char} {x : α} {xs ys : List α} {r r' : List Char}

theorem joinComma_map_cons : joinComma ((x :: xs).map f) = f x ++ xs.flatMap fun y => ',' :: f y := by
  induction xs generalizing x with
  | nil => simp [joinComma, List.intercalate]
  | cons y xs ih =>
    have hrest : joinComma ((x :: y :: xs).map f) = f x ++ ',' :: joinComma ((y :: xs).map f) := by
      simp [joinComma, List.intercalate]
    rw [hrest, ih, List.flatMap_cons, List.cons_append]

/-- Items that are read off in one way, with commas between them and a bracket behind them, are read
off in one way. -/
theorem items_inj (hclose : isNumberChar close = false) (hcomma : close ≠ ',')
    (hread : ∀ x ∈ xs, ∀ y ∈ ys, ∀ s s', Ends isNumberChar s → Ends isNumberChar s' →
      f x ++ s = f y ++ s' → x = y ∧ s = s')
    (hxs : ∀ x ∈ xs, ∃ c cs, f x = c :: cs ∧ c ≠ close)
    (hys : ∀ y ∈ ys, ∃ c cs, f y = c :: cs ∧ c ≠ close)
    (h : joinComma (xs.map f) ++ close :: r = joinComma (ys.map f) ++ close :: r') :
    xs = ys ∧ r = r' := by
  have hends : ∀ (xs : List α) (r : List Char),
      Ends isNumberChar ((xs.flatMap fun y => ',' :: f y) ++ close :: r) := by
    intro xs r
    cases xs with
    | nil => exact ends_cons hclose r
    | cons y xs => exact ends_cons (by decide) _
  have htail : ∀ (xs ys : List α), (∀ x ∈ xs, ∀ y ∈ ys, ∀ s s', Ends isNumberChar s →
      Ends isNumberChar s' → f x ++ s = f y ++ s' → x = y ∧ s = s') →
      (xs.flatMap fun y => ',' :: f y) ++ close :: r =
        (ys.flatMap fun y => ',' :: f y) ++ close :: r' → xs = ys ∧ r = r' := by
    intro xs
    induction xs with
    | nil =>
      intro ys _ h
      cases ys with
      | nil => exact ⟨rfl, (List.cons.inj h).2⟩
      | cons y ys => exact absurd (List.cons.inj h).1 hcomma
    | cons x xs ih =>
      intro ys hread h
      cases ys with
      | nil => exact absurd (List.cons.inj h).1.symm hcomma
      | cons y ys =>
        simp only [List.flatMap_cons, List.cons_append, List.append_assoc] at h
        obtain ⟨rfl, hrest⟩ := hread x List.mem_cons_self y List.mem_cons_self _ _ (hends xs r)
          (hends ys r') (List.cons.inj h).2
        obtain ⟨rfl, hr⟩ := ih ys (fun x hx y hy => hread x (List.mem_cons_of_mem _ hx) y
          (List.mem_cons_of_mem _ hy)) hrest
        exact ⟨rfl, hr⟩
  cases xs with
  | nil =>
    cases ys with
    | nil => exact ⟨rfl, (List.cons.inj h).2⟩
    | cons y ys =>
      obtain ⟨c, cs, hy, hc⟩ := hys y List.mem_cons_self
      rw [joinComma_map_cons, hy] at h
      exact absurd (List.cons.inj h).1.symm hc
  | cons x xs =>
    cases ys with
    | nil =>
      obtain ⟨c, cs, hx, hc⟩ := hxs x List.mem_cons_self
      rw [joinComma_map_cons, hx] at h
      exact absurd (List.cons.inj h).1 hc
    | cons y ys =>
      rw [joinComma_map_cons, joinComma_map_cons, List.append_assoc, List.append_assoc] at h
      obtain ⟨rfl, hrest⟩ := hread x List.mem_cons_self y List.mem_cons_self _ _ (hends xs r)
        (hends ys r') h
      obtain ⟨rfl, hr⟩ := htail xs ys (fun x hx y hy => hread x (List.mem_cons_of_mem _ hx) y
        (List.mem_cons_of_mem _ hy)) hrest
      exact ⟨rfl, hr⟩

end Items

/-! ### Reading values -/

namespace JsValue

open DecimalLiteral (isNumberChar)

/-- A number is finite, and not the negative zero. -/
def OrdinaryNumber : JsValue → Prop
  | num n => n.Ordinary
  | _ => True

/-- All numbers are finite, and none is the negative zero. -/
def Ordinary (v : JsValue) : Prop := Everywhere OrdinaryNumber v

variable {v v' : JsValue} {r r' : List Char}

/-- What a text begins with: the constructor of the value. -/
def kindOfHead (c : Char) : ℕ :=
  if isNumberChar c then 0
  else match c with
    | 'n' => 1
    | 't' => 2
    | 'f' => 3
    | '"' => 4
    | '[' => 5
    | '\x7b' => 6
    | _ => 7

def kind : JsValue → ℕ
  | num _ => 0
  | null => 1
  | bool true => 2
  | bool false => 3
  | str _ => 4
  | arr _ => 5
  | obj _ => 6

theorem kind_ne (v : JsValue) : v.kind ≠ 7 := by
  cases v with
  | bool b => cases b <;> decide
  | _ => exact of_decide_eq_true rfl

theorem head_text (hv : v.OrdinaryNumber) : ∃ c cs, v.text = c :: cs ∧ kindOfHead c = v.kind := by
  cases v with
  | num n =>
    cases htext : n.text with
    | nil => exact absurd htext (JsNumber.text_ne_nil n)
    | cons c cs =>
      refine ⟨c, cs, by rw [text, htext], ?_⟩
      exact if_pos (JsNumber.isNumberChar_of_mem_text hv (htext ▸ List.mem_cons_self))
  | bool b => cases b <;> exact ⟨_, _, rfl, rfl⟩
  | _ => exact ⟨_, _, rfl, rfl⟩

theorem kind_eq (hv : v.OrdinaryNumber) (hv' : v'.OrdinaryNumber) (h : v.text ++ r = v'.text ++ r') :
    v.kind = v'.kind := by
  obtain ⟨c, cs, htext, hc⟩ := head_text hv
  obtain ⟨c', cs', htext', hc'⟩ := head_text hv'
  rw [htext, htext'] at h
  rw [← hc, ← hc', (List.cons.inj h).1]

/-- The value is read off its text in one way, also before other text. -/
def ReadOff (v : JsValue) : Prop :=
  ∀ (v' : JsValue) (r r' : List Char), v.Ordinary → v'.Ordinary → Ends isNumberChar r →
    Ends isNumberChar r' → v.text ++ r = v'.text ++ r' → v = v' ∧ r = r'

theorem arr_append_inj {items items' : List JsValue} (ih : ∀ w ∈ items, w.ReadOff)
    (hv : (arr items).Ordinary) (hv' : (arr items').Ordinary)
    (h : (arr items).text ++ r = (arr items').text ++ r') : items = items' ∧ r = r' := by
  have hstart : ∀ w : JsValue, w.Ordinary → ∃ c cs, w.text = c :: cs ∧ c ≠ ']' := by
    intro w hw
    obtain ⟨c, cs, htext, hc⟩ := head_text hw.here
    refine ⟨c, cs, htext, ?_⟩
    rintro rfl
    exact kind_ne w hc.symm
  rw [text_arr, text_arr] at h
  simp only [List.cons_append, List.append_assoc] at h
  exact items_inj (by decide) (by decide)
    (fun w hw w' hw' s s' => ih w hw w' s s' (hv.inside hw) (hv'.inside hw'))
    (fun w hw => hstart w (hv.inside hw)) (fun w hw => hstart w (hv'.inside hw))
    (List.cons.inj h).2

theorem obj_append_inj {es es' : List (String × JsValue)} (ih : ∀ w ∈ es.map Prod.snd, w.ReadOff)
    (hv : (obj es).Ordinary) (hv' : (obj es').Ordinary)
    (h : (obj es).text ++ r = (obj es').text ++ r') : es = es' ∧ r = r' := by
  have hread : ∀ e ∈ es, ∀ e' ∈ es', ∀ s s', Ends isNumberChar s → Ends isNumberChar s' →
      entryText e ++ s = entryText e' ++ s' → e = e' ∧ s = s' := by
    intro e he e' he' s s' hs hs' h
    have hmem : e.2 ∈ es.map Prod.snd := List.mem_map_of_mem he
    have hmem' : e'.2 ∈ es'.map Prod.snd := List.mem_map_of_mem he'
    unfold entryText at h
    rw [List.append_assoc, List.append_assoc] at h
    obtain ⟨hkey, hrest⟩ := quote_append_inj h
    obtain ⟨hvalue, hs⟩ := ih e.2 hmem e'.2 s s' (hv.inside hmem) (hv'.inside hmem') hs hs'
      (List.cons.inj hrest).2
    exact ⟨Prod.ext hkey hvalue, hs⟩
  have hstart : ∀ e : String × JsValue, ∃ c cs, entryText e = c :: cs ∧ c ≠ '\x7d' :=
    fun e => ⟨'"', _, rfl, by decide⟩
  rw [text_obj, text_obj] at h
  simp only [List.cons_append, List.append_assoc] at h
  exact items_inj (by decide) (by decide) hread (fun e _ => hstart e) (fun e _ => hstart e)
    (List.cons.inj h).2

theorem readOff (v : JsValue) : v.ReadOff := by
  induction v using JsValue.induction with
  | step v ih =>
    intro v' r r' hv hv' hr hr' h
    have hkind := kind_eq hv.here hv'.here h
    cases v with
    | num n =>
      cases v' with
      | num n' =>
        obtain ⟨rfl, hrest⟩ := JsNumber.text_append_inj hv.here hv'.here hr hr' h
        exact ⟨rfl, hrest⟩
      | bool b => cases b <;> cases hkind
      | _ => cases hkind
    | null =>
      cases v' with
      | null => exact ⟨rfl, List.append_cancel_left h⟩
      | bool b => cases b <;> cases hkind
      | _ => cases hkind
    | bool b =>
      cases v' with
      | bool b' =>
        cases b <;> cases b'
        · exact ⟨rfl, List.append_cancel_left h⟩
        · cases hkind
        · cases hkind
        · exact ⟨rfl, List.append_cancel_left h⟩
      | _ => cases b <;> cases hkind
    | str s =>
      cases v' with
      | str s' =>
        obtain ⟨rfl, hrest⟩ := quote_append_inj h
        exact ⟨rfl, hrest⟩
      | bool b => cases b <;> cases hkind
      | _ => cases hkind
    | arr items =>
      cases v' with
      | arr items' =>
        obtain ⟨rfl, hrest⟩ := arr_append_inj ih hv hv' h
        exact ⟨rfl, hrest⟩
      | bool b => cases b <;> cases hkind
      | _ => cases hkind
    | obj es =>
      cases v' with
      | obj es' =>
        obtain ⟨rfl, hrest⟩ := obj_append_inj ih hv hv' h
        exact ⟨rfl, hrest⟩
      | bool b => cases b <;> cases hkind
      | _ => cases hkind

theorem text_inj (hv : v.Ordinary) (hv' : v'.Ordinary) (h : v.text = v'.text) : v = v' :=
  (readOff v v' [] [] hv hv' ends_nil ends_nil (by rw [h])).1

end JsValue
