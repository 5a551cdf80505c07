import Mathlib.Data.List.Infix
import Mathlib.Tactic.Common

/-!
# Replacing parts of a text

* `run`: a sequence of items is matched at the beginning of a text, with backtracking;
* `Pattern.rule`, `literal`: what is matched at a place, and what is written for it;
* `replace`: all matches are replaced, from left to right;
* `Rewritten`: what a replacement may do to a text;
* `Barrier`: a text that no occurrence of a word reaches into. Where all occurrences of a word are
  replaced by a barrier, none is left (`not_infix_replace_literal`), and replacing anything else by
  barriers makes no new one (`Rewritten.within`).
-/

namespace Rewriting

variable {α : Type}

/-! ### Patterns -/

/-- One character, or as many as there are, or fewer if the rest of the pattern needs some. -/
inductive Item (α : Type)
  | one (p : α → Bool)
  | star (p : α → Bool)

/-- The characters that are taken are matched by the star, and `more` is matched behind them. -/
def runStar (p : α → Bool) (more : List α → Option (List (List α))) :
    List α → Option (List (List α))
  | [] => (more []).map ([] :: ·)
  | c :: text =>
    if p c then
      match runStar p more text with
      | some pieces => some ((c :: pieces.headD []) :: pieces.tail)
      | none => (more (c :: text)).map ([] :: ·)
    else (more (c :: text)).map ([] :: ·)

/-- The pieces of the text that the items take, one for each item. -/
def run : List (Item α) → List α → Option (List (List α))
  | [], _ => some []
  | .one _ :: _, [] => none
  | .one p :: items, c :: text => if p c then (run items text).map ([c] :: ·) else none
  | .star p :: items, text => runStar p (run items) text

/-- The pieces are what stands at the beginning of the text. -/
def Splits (n : ℕ) (text : List α) (pieces : List (List α)) : Prop :=
  pieces.length = n ∧ pieces.flatten <+: text

theorem splits_runStar {p : α → Bool} {more : List α → Option (List (List α))} {n : ℕ}
    (hmore : ∀ text pieces, more text = some pieces → Splits n text pieces) :
    ∀ text pieces, runStar p more text = some pieces → Splits (n + 1) text pieces := by
  have hnone : ∀ text pieces, (more text).map ([] :: ·) = some pieces →
      Splits (n + 1) text pieces := by
    intro text pieces h
    obtain ⟨rest, hrest, rfl⟩ := Option.map_eq_some_iff.1 h
    obtain ⟨hlength, hprefix⟩ := hmore text rest hrest
    exact ⟨congrArg (· + 1) hlength, hprefix⟩
  intro text
  induction text with
  | nil => exact hnone []
  | cons c text ih =>
    intro pieces h
    unfold runStar at h
    split at h
    · split at h
      · next rest hrest =>
        obtain rfl := Option.some.inj h
        obtain ⟨hlength, hprefix⟩ := ih rest hrest
        cases rest with
        | nil => simp at hlength
        | cons piece rest => exact ⟨hlength, List.cons_prefix_cons.2 ⟨rfl, hprefix⟩⟩
      · exact hnone _ _ h
    · exact hnone _ _ h

theorem splits_run (items : List (Item α)) :
    ∀ text pieces, run items text = some pieces → Splits items.length text pieces := by
  induction items with
  | nil =>
    intro text pieces h
    obtain rfl := Option.some.inj h
    exact ⟨rfl, List.nil_prefix⟩
  | cons item items ih =>
    intro text pieces h
    cases item with
    | one p =>
      cases text with
      | nil => cases h
      | cons c text =>
        unfold run at h
        split at h
        · obtain ⟨rest, hrest, rfl⟩ := Option.map_eq_some_iff.1 h
          obtain ⟨hlength, hprefix⟩ := ih text rest hrest
          exact ⟨congrArg (· + 1) hlength, List.cons_prefix_cons.2 ⟨rfl, hprefix⟩⟩
        · cases h
    | star p => exact splits_runStar ih text pieces h

/-! ### Replacement -/

/-- How many characters are matched, and what is written for them. -/
structure Match (α : Type) where
  length : ℕ
  written : List α

/-- What matches at a place: before it stands a character, unless it is the beginning. -/
abbrev Rule (α : Type) := Option α → List α → Option (Match α)

/-- The matches are replaced, from left to right, after as many characters as are to be skipped. -/
def replaceFrom (rule : Rule α) : ℕ → Option α → List α → List α
  | _, _, [] => []
  | skip + 1, _, c :: text => replaceFrom rule skip (some c) text
  | 0, previous, c :: text =>
    match rule previous (c :: text) with
    | none => c :: replaceFrom rule 0 (some c) text
    | some found => found.written ++ replaceFrom rule (found.length - 1) (some c) text

def replace (rule : Rule α) (text : List α) : List α := replaceFrom rule 0 none text

/-- The occurrences of a word are replaced. -/
def literal [BEq α] (word inserted : List α) : Rule α := fun _ text =>
  if word.isPrefixOf text then some ⟨word.length, inserted⟩ else none

/-- A pattern with groups for what is kept at its two ends; the first has alternatives. -/
structure Pattern (α : Type) where
  boundary : Option α → List α → Bool
  first : List (List (Item α))
  removed : List (Item α)
  last : List (Item α)
  inserted : List α
  leads : ∀ group ∈ first, ∃ p rest, group = .one p :: rest

def Pattern.rule (pattern : Pattern α) : Rule α := fun previous text =>
  if pattern.boundary previous text then
    pattern.first.findSome? fun group =>
      (run (group ++ pattern.removed ++ pattern.last) text).map fun pieces =>
        ⟨pieces.flatten.length, (pieces.take group.length).flatten ++ pattern.inserted ++
          (pieces.drop (group.length + pattern.removed.length)).flatten⟩
  else none

theorem replaceFrom_skip (rule : Rule α) (n : ℕ) (previous : Option α) (text : List α) :
    ∃ previous', replaceFrom rule n previous text =
      replaceFrom rule 0 previous' (text.drop n) := by
  induction text generalizing n previous with
  | nil => exact ⟨none, by simp [replaceFrom]⟩
  | cons c text ih =>
    cases n with
    | zero => exact ⟨previous, rfl⟩
    | succ n => exact ih n (some c)

/-! ### What a replacement does -/

/-- Parts of the text are replaced, by texts of a kind. -/
inductive Rewritten (P : List α → Prop) : List α → List α → Prop
  | nil : Rewritten P [] []
  | keep (c : α) {text out : List α} : Rewritten P text out → Rewritten P (c :: text) (c :: out)
  | cut {inserted : List α} (hinserted : P inserted) (removed : List α) {text out : List α} :
      Rewritten P text out → Rewritten P (removed ++ text) (inserted ++ out)

theorem Rewritten.append {P : List α → Prop} {text out : List α} (kept : List α)
    (h : Rewritten P text out) : Rewritten P (kept ++ text) (kept ++ out) := by
  induction kept with
  | nil => exact h
  | cons c kept ih => exact .keep c ih

/-- A match is replaced in its middle. -/
def Cuts (P : List α → Prop) (rule : Rule α) : Prop :=
  ∀ previous text found, rule previous text = some found →
    1 ≤ found.length ∧ ∃ before removed after inserted, P inserted ∧
      text = before ++ removed ++ after ++ text.drop found.length ∧
        found.written = before ++ inserted ++ after

theorem rewritten_replaceFrom {P : List α → Prop} {rule : Rule α} (hcuts : Cuts P rule)
    (previous : Option α) (text : List α) :
    Rewritten P text (replaceFrom rule 0 previous text) := by
  induction hn : text.length using Nat.strong_induction_on generalizing previous text with
  | h n ih =>
    cases text with
    | nil => exact .nil
    | cons c text =>
      unfold replaceFrom
      split
      · exact .keep c (ih text.length (by simp at hn; omega) _ text rfl)
      · next found hfound =>
        obtain ⟨hpos, before, removed, after, inserted, hinserted, htext, hwritten⟩ :=
          hcuts _ _ found hfound
        obtain ⟨previous', hskip⟩ := replaceFrom_skip rule (found.length - 1) (some c) text
        have hdrop : text.drop (found.length - 1) = (c :: text).drop found.length := by
          obtain ⟨k, hk⟩ := Nat.exists_eq_add_of_le' hpos
          rw [hk, Nat.add_sub_cancel, List.drop_succ_cons]
        rw [hskip, hwritten]
        conv in (c :: text) => rw [htext, ← hdrop]
        have hrest := ih (text.drop (found.length - 1)).length
          (by simp at hn ⊢; omega) previous' _ rfl
        simpa only [List.append_assoc] using
          Rewritten.append before (.cut hinserted removed (hrest.append after))

theorem cuts_literal [BEq α] [LawfulBEq α] {P : List α → Prop} {word inserted : List α}
    (hword : word ≠ []) (hinserted : P inserted) : Cuts P (literal word inserted) := by
  intro previous text found h
  unfold literal at h
  split at h
  · next hprefix =>
    obtain rfl := Option.some.inj h
    obtain ⟨rest, rfl⟩ := List.isPrefixOf_iff_prefix.1 hprefix
    refine ⟨List.length_pos_iff.2 hword, [], word, [], inserted, hinserted, ?_, by simp⟩
    simp
  · cases h

theorem cuts_rule {P : List α → Prop} (pattern : Pattern α) (hinserted : P pattern.inserted) :
    Cuts P pattern.rule := by
  intro previous text found h
  unfold Pattern.rule at h
  split at h
  · obtain ⟨group, hgroup, h⟩ := List.exists_of_findSome?_eq_some h
    obtain ⟨pieces, hpieces, rfl⟩ := Option.map_eq_some_iff.1 h
    obtain ⟨hlength, rest, hrest⟩ := splits_run _ _ _ hpieces
    refine ⟨?_, (pieces.take group.length).flatten,
      ((pieces.drop group.length).take pattern.removed.length).flatten,
      (pieces.drop (group.length + pattern.removed.length)).flatten, pattern.inserted, hinserted,
      ?_, rfl⟩
    · -- the first item takes a character
      obtain ⟨p, items, rfl⟩ := pattern.leads group hgroup
      cases text with
      | nil => cases hpieces
      | cons c text =>
        change (if p c then (run _ text).map ([c] :: ·) else none) = some pieces at hpieces
        split at hpieces
        · obtain ⟨others, -, rfl⟩ := Option.map_eq_some_iff.1 hpieces
          simp
        · cases hpieces
    · have hpieces : (pieces.take group.length).flatten ++
          ((pieces.drop group.length).take pattern.removed.length).flatten ++
            (pieces.drop (group.length + pattern.removed.length)).flatten = pieces.flatten := by
        rw [← List.flatten_append, ← List.flatten_append, List.append_assoc, ← List.drop_drop,
          List.take_append_drop, List.take_append_drop]
      rw [hpieces, ← hrest]
      simp
  · cases h

/-! ### Barriers -/

/-- No occurrence of the word reaches into the text. -/
def Barrier (word between : List α) : Prop :=
  ∀ before after, word <:+: before ++ between ++ after → word <:+: before ∨ word <:+: after

/-- An occurrence of a word does not go across a character that is not in the word. -/
theorem infix_or_infix_of_not_mem {word before after : List α} {c : α} (hc : c ∉ word)
    (h : word <:+: before ++ c :: after) : word <:+: before ∨ word <:+: after := by
  induction before with
  | nil =>
    rcases List.infix_cons_iff.1 h with hprefix | hinfix
    · cases word with
      | nil => exact Or.inl (List.nil_infix)
      | cons d word => exact absurd ((List.cons_prefix_cons.1 hprefix).1 ▸ List.mem_cons_self) hc
    · exact Or.inr hinfix
  | cons d before ih =>
    rcases List.infix_cons_iff.1 h with hprefix | hinfix
    · have hsep : (d :: before) ++ [c] <+: (d :: before) ++ c :: after := by
        simp
      rcases List.prefix_or_prefix_of_prefix hprefix hsep with hword | hlong
      · rcases List.prefix_concat_iff.1 hword with rfl | hword
        · exact absurd (by simp) hc
        · exact Or.inl hword.isInfix
      · exact absurd (hlong.subset (by simp)) hc
    · rcases ih hinfix with hbefore | hafter
      · exact Or.inl (List.infix_cons hbefore)
      · exact Or.inr hafter

theorem Barrier.cons {word between : List α} {c : α} (hc : c ∉ word) (h : Barrier word between) :
    Barrier word (c :: between) := by
  intro before after hinfix
  rw [List.append_assoc] at hinfix
  rcases infix_or_infix_of_not_mem hc hinfix with hbefore | hrest
  · exact Or.inl hbefore
  · rcases h [] after hrest with hnil | hafter
    · exact Or.inl (hnil.trans List.nil_infix)
    · exact Or.inr hafter

/-- A text between brackets. -/
theorem barrier_of_brackets {word inner : List α} {opening closing : α} (hopening : opening ∉ word)
    (hclosing : closing ∉ word) (hinner : ¬ word <:+: inner) :
    Barrier word (opening :: inner ++ [closing]) := by
  intro before after hinfix
  simp only [List.append_assoc, List.cons_append, List.nil_append] at hinfix
  rcases infix_or_infix_of_not_mem hopening hinfix with hbefore | hrest
  · exact Or.inl hbefore
  · rcases infix_or_infix_of_not_mem hclosing hrest with hin | hafter
    · exact absurd hin hinner
    · exact Or.inr hafter

/-- Where parts are replaced by barriers, no word arises. -/
theorem Rewritten.within {word text out : List α} (h : Rewritten (Barrier word) text out) :
    ∀ before, word <:+: before ++ out → word <:+: before ++ text := by
  induction h with
  | nil => exact fun _ hinfix => hinfix
  | keep c _ ih =>
    intro before hinfix
    have hinfix := ih (before ++ [c]) (by simpa using hinfix)
    simpa using hinfix
  | cut hinserted removed _ ih =>
    intro before hinfix
    rw [← List.append_assoc] at hinfix
    rcases hinserted before _ hinfix with hbefore | hout
    · exact hbefore.trans (List.infix_append_of_infix_left (List.infix_refl _))
    · exact (ih [] hout).trans ⟨before ++ removed, [], by simp⟩

/-- Where all occurrences of a word are replaced by a barrier, none is left. -/
theorem not_infix_replace_literal [BEq α] [LawfulBEq α] {word inserted : List α} (hword : word ≠ [])
    (hbarrier : Barrier word inserted) (text : List α) :
    ¬ word <:+: replace (literal word inserted) text := by
  -- no occurrence begins in what is kept since the last replacement
  suffices h : ∀ n text before previous, text.length = n →
      (∀ i < before.length, ¬ word <+: (before ++ text).drop i) →
        ¬ word <:+: before ++ replaceFrom (literal word inserted) 0 previous text from
    h _ text [] none rfl fun i hi => absurd hi (Nat.not_lt_zero i)
  intro n
  induction n using Nat.strong_induction_on with
  | h n ih =>
    intro text before previous hn hbefore
    have hnot : ¬ word <:+: before := by
      rintro ⟨start, rest, rfl⟩
      refine hbefore start.length ?_ ⟨rest ++ text, by simp⟩
      have := List.length_pos_iff.2 hword
      simp only [List.length_append]
      omega
    cases text with
    | nil =>
      rw [replaceFrom, List.append_nil]
      exact hnot
    | cons c text =>
      unfold replaceFrom literal
      by_cases hprefix : word.isPrefixOf (c :: text) = true
      · rw [if_pos hprefix]
        obtain ⟨previous', hskip⟩ := replaceFrom_skip (literal word inserted) (word.length - 1)
          (some c) text
        change ¬ word <:+: before ++
          (inserted ++ replaceFrom (literal word inserted) (word.length - 1) (some c) text)
        rw [hskip, ← List.append_assoc]
        intro hinfix
        rcases hbarrier before _ hinfix with hin | hin
        · exact hnot hin
        · refine ih (text.drop (word.length - 1)).length (by simp at hn ⊢; omega) _ [] previous'
            rfl (fun i hi => absurd hi (Nat.not_lt_zero i)) hin
      · rw [if_neg hprefix]
        change ¬ word <:+: before ++ c :: replaceFrom (literal word inserted) 0 (some c) text
        have hnext := ih text.length (by simp at hn; omega) text (before ++ [c]) (some c) rfl (by
          intro i hi
          rw [List.append_assoc]
          by_cases hlast : i < before.length
          · exact hbefore i hlast
          · obtain rfl : i = before.length := by
              simp at hi
              omega
            rw [List.drop_left]
            exact fun h => hprefix (List.isPrefixOf_iff_prefix.2 h))
        simpa using hnext

end Rewriting
