import Mathlib.Data.List.Infix
import Mathlib.Tactic.Common

/-!
# Patterns of `LIKE`

In a pattern `_` stands for any character and `%` for any text; a backslash takes the next character
as it is.

* `Like.items`: what the characters of a pattern stand for;
* `Like.like`: a text matches a pattern;
* `like_of_prefix`: behind a text without `%` and backslashes, `%` lets its continuations match;
* `like_iff_prefix`: and no others, if the text has no `_` either.
-/

namespace Like

inductive Item
  | anyText
  | anyChar
  | char (c : Char)
  deriving DecidableEq

def items : List Char → List Item
  | [] => []
  | [c] => [if c = '%' then .anyText else if c = '_' then .anyChar else .char c]
  | c :: c' :: pattern =>
    if c = '\\' then .char c' :: items pattern
    else (if c = '%' then .anyText else if c = '_' then .anyChar else .char c) :: items (c' :: pattern)

def admits : List Item → List Char → Bool
  | [], text => text.isEmpty
  | .anyText :: rest, text => text.tails.any (admits rest)
  | .anyChar :: rest, text => match text with
    | [] => false
    | _ :: text => admits rest text
  | .char c :: rest, text => match text with
    | [] => false
    | c' :: text => decide (c = c') && admits rest text

/-- `text LIKE pattern`. -/
def like (text pattern : String) : Bool := admits (items pattern.toList) text.toList

/-! ### A text with `%` behind it -/

/-- A character stands for itself, or for any. -/
def Item.Covers (c : Char) : Item → Prop
  | .anyText => False
  | .anyChar => True
  | .char c' => c' = c

theorem items_append_percent {text : List Char} (h : '\\' ∉ text) :
    items (text ++ ['%']) = text.map (fun c =>
      if c = '%' then .anyText else if c = '_' then .anyChar else .char c) ++ [.anyText] := by
  induction text with
  | nil => rfl
  | cons c text ih =>
    have hc : c ≠ '\\' := fun heq => h (heq ▸ List.mem_cons_self)
    have ih := ih fun hmem => h (List.mem_cons_of_mem _ hmem)
    cases text with
    | nil =>
      show items [c, '%'] = _
      unfold items
      rw [if_neg hc]
      rfl
    | cons c' text =>
      show items (c :: c' :: (text ++ ['%'])) = _
      rw [items, if_neg hc, List.map_cons, List.cons_append, ← ih]
      rfl

theorem admits_anyText (text : List Char) : admits [.anyText] text = true := by
  unfold admits
  rw [List.any_eq_true]
  exact ⟨[], (List.mem_tails _ _).2 List.nil_suffix, rfl⟩

/-- Items that cover a text admit its continuations. -/
theorem admits_of_covers {covering : List Item} {text rest : List Char}
    (h : List.Forall₂ (fun c item => item.Covers c) text covering) :
    admits (covering ++ [.anyText]) (text ++ rest) = true := by
  induction h with
  | nil => exact admits_anyText rest
  | @cons c item text covering hc _ ih =>
    cases item with
    | anyText => exact hc.elim
    | anyChar => exact ih
    | char c' =>
      obtain rfl : c' = c := hc
      show (decide (c' = c') && admits (covering ++ [.anyText]) (text ++ rest)) = true
      rw [ih, decide_eq_true rfl]
      rfl

/-- Without `%`, a text is covered by its own items. -/
theorem covers_self {text : List Char} (h : '%' ∉ text) :
    List.Forall₂ (fun c item => item.Covers c) text (text.map fun c =>
      if c = '%' then Item.anyText else if c = '_' then .anyChar else .char c) := by
  induction text with
  | nil => exact .nil
  | cons c text ih =>
    refine .cons ?_ (ih fun hmem => h (List.mem_cons_of_mem _ hmem))
    show Item.Covers c (if c = '%' then .anyText else if c = '_' then .anyChar else .char c)
    rw [if_neg fun heq : c = '%' => h (heq ▸ List.mem_cons_self)]
    split
    · trivial
    · rfl

theorem like_of_prefix {pre text : String} (hescape : '\\' ∉ pre.toList) (hany : '%' ∉ pre.toList)
    (h : pre.toList <+: text.toList) : like text (pre ++ "%") = true := by
  obtain ⟨rest, hrest⟩ := h
  unfold like
  rw [String.toList_append, ← hrest]
  show admits (items (pre.toList ++ ['%'])) _ = true
  rw [items_append_percent hescape]
  exact admits_of_covers (covers_self hany)

/-- Items for characters that stand for themselves. -/
theorem prefix_of_admits {pre text : List Char}
    (h : admits (pre.map .char ++ [.anyText]) text = true) : pre <+: text := by
  induction pre generalizing text with
  | nil => exact List.nil_prefix
  | cons c pre ih =>
    cases text with
    | nil => cases h
    | cons c' text =>
      have h : (decide (c = c') && admits (pre.map .char ++ [.anyText]) text) = true := h
      rw [Bool.and_eq_true, decide_eq_true_eq] at h
      obtain ⟨rfl, hrest⟩ := h
      exact List.cons_prefix_cons.2 ⟨rfl, ih hrest⟩

/-- Without special characters, `%` lets exactly the continuations match. -/
theorem like_iff_prefix {pre text : String} (hescape : '\\' ∉ pre.toList) (hany : '%' ∉ pre.toList)
    (hone : '_' ∉ pre.toList) : like text (pre ++ "%") = true ↔ pre.toList <+: text.toList := by
  refine ⟨fun h => ?_, like_of_prefix hescape hany⟩
  have hitems : pre.toList.map (fun c =>
      if c = '%' then Item.anyText else if c = '_' then .anyChar else .char c) =
        pre.toList.map .char := by
    refine List.map_congr_left fun c hc => ?_
    rw [if_neg fun heq : c = '%' => hany (heq ▸ hc), if_neg fun heq : c = '_' => hone (heq ▸ hc)]
  unfold like at h
  rw [String.toList_append] at h
  have h : admits (items (pre.toList ++ ['%'])) text.toList = true := h
  rw [items_append_percent hescape, hitems] at h
  exact prefix_of_admits h

end Like
