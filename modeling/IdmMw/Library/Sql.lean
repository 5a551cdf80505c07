import IdmMw.Library.Transducer
import Mathlib.Algebra.GroupWithZero.Nat

/-!
# Tokens of SQL

How a server splits a statement into tokens: words, quoted names, string constants and symbols.

* `Dialect`: the quotes of names, what names and constants stand for, and whether a constant goes on
  behind a line break;
* `lexing`: a character that closes a quote stands for itself where it is doubled;
* `double`: a text with one of its characters doubled;
* `run_name`, `run_textEnd`: a name and a constant that are written so are one token, whatever they are,
  and what follows them is read as it would be alone;
* `postgres`, `transact`: two dialects.

A word is a run of letters, digits and the characters of parameters; a symbol is one character of an
operator or a separator. Other operators and comments are not read (`none`).
-/

namespace Sql

inductive Token
  | word (text : List Char)
  | name (value : List Char)
  | text (value : List Char)
  | symbol (c : Char)
  deriving DecidableEq

structure Dialect where
  nameOpen : Char
  nameClose : Char
  /-- What a quoted name stands for; `none` where it is not accepted. -/
  name : List Char → Option (List Char)
  /-- What a string constant stands for; `none` where it is not accepted. -/
  text : List Char → Option (List Char)
  /-- Words that a constant may follow directly. -/
  introducers : List (List Char)
  /-- Constants with a line break between them are one. -/
  continued : Bool

inductive State
  | start
  | word (text : List Char)
  | name (value : List Char)
  /-- behind a character that closes a name, if it is not doubled -/
  | nameEnd (value : List Char)
  | text (value : List Char)
  /-- behind a quote that closes a constant, if it is not doubled -/
  | textEnd (value : List Char)
  /-- behind a constant that may go on -/
  | gap (value : List Char) (broken : Bool)
  deriving DecidableEq

def isBreak (c : Char) : Bool := ['\n', '\r'].contains c

def isBlank (c : Char) : Bool := isBreak c || [' ', '\t', '\x0b', '\x0c'].contains c

def isWordChar (c : Char) : Bool := c.isAlphanum || ['_', '@', '$'].contains c

def isSymbol (c : Char) : Bool := ['.', ',', ';', '=', '(', ')', ':', '*'].contains c

variable (d : Dialect)

/-- Between tokens. -/
def begin (c : Char) : Option (List Token × State) :=
  if isBlank c then some ([], .start)
  else if c = d.nameOpen then some ([], .name [])
  else if c = '\'' then some ([], .text [])
  else if isWordChar c then some ([], .word [c])
  else if isSymbol c then some ([.symbol c], .start)
  else none

/-- The token ends before the character. -/
def endWith (token : Option Token) (c : Char) : Option (List Token × State) := do
  let token ← token
  let (out, s) ← begin d c
  some (token :: out, s)

def nameToken (value : List Char) : Option Token := (d.name value).map .name

def textToken (value : List Char) : Option Token := (d.text value).map .text

def lexing : Transducer State Char Token where
  step
    | .start, c => begin d c
    | .word text, c =>
      if isWordChar c then some ([], .word (text ++ [c]))
      else if c = '\'' then
        if d.introducers.contains text then some ([], .text []) else none
      else endWith d (some (.word text)) c
    | .name value, c =>
      if c = d.nameClose then some ([], .nameEnd value) else some ([], .name (value ++ [c]))
    | .nameEnd value, c =>
      if c = d.nameClose then some ([], .name (value ++ [c])) else endWith d (nameToken d value) c
    | .text value, c =>
      if c = '\'' then some ([], .textEnd value) else some ([], .text (value ++ [c]))
    | .textEnd value, c =>
      if c = '\'' then some ([], .text (value ++ [c]))
      else if d.continued && isBlank c then some ([], .gap value (isBreak c))
      else endWith d (textToken d value) c
    | .gap value broken, c =>
      if isBlank c then some ([], .gap value (broken || isBreak c))
      else if c = '\'' && broken then some ([], .text value)
      else endWith d (textToken d value) c
  finish
    | .start => some []
    | .word text => some [.word text]
    | .nameEnd value => (nameToken d value).map ([·])
    | .textEnd value | .gap value _ => (textToken d value).map ([·])
    | .name _ | .text _ => none

/-- The tokens of a statement. -/
def tokens (statement : List Char) : Option (List Token) := (lexing d).run .start statement

/-! ### Quoted values -/

def double (q : Char) (value : List Char) : List Char :=
  value.flatMap fun c => if c = q then [q, q] else [c]

/-- A constant goes on: there are blanks with a line break, and a quote. -/
def goesOn : Bool → List Char → Bool
  | _, [] => false
  | broken, c :: cs => if isBlank c then goesOn (broken || isBreak c) cs else c = '\'' && broken

variable {d}

theorem feed_double_name (value before : List Char) :
    (lexing d).feed (.name before) (double d.nameClose value) =
      some ([], .name (before ++ value)) := by
  induction value generalizing before with
  | nil => simp [double, Transducer.feed]
  | cons c value ih =>
    have hstep : (lexing d).feed (.name before)
        (if c = d.nameClose then [d.nameClose, d.nameClose] else [c]) =
          some ([], .name (before ++ [c])) := by
      by_cases h : c = d.nameClose
      · simp [h, Transducer.feed, lexing]
      · simp [h, Transducer.feed, lexing]
    have hrest := Transducer.feed_append hstep (ih (before ++ [c]))
    simpa [double] using hrest

theorem feed_double_text (value before : List Char) :
    (lexing d).feed (.text before) (double '\'' value) =
      some ([], .text (before ++ value)) := by
  induction value generalizing before with
  | nil => simp [double, Transducer.feed]
  | cons c value ih =>
    have hstep : (lexing d).feed (.text before) (if c = '\'' then ['\'', '\''] else [c]) =
        some ([], .text (before ++ [c])) := by
      by_cases h : c = '\''
      · simp [h, Transducer.feed, lexing]
      · simp [h, Transducer.feed, lexing]
    have hrest := Transducer.feed_append hstep (ih (before ++ [c]))
    simpa [double] using hrest

/-- A quoted name. -/
def quoteName (d : Dialect) (value : List Char) : List Char :=
  d.nameOpen :: double d.nameClose value ++ [d.nameClose]

/-- A string constant. -/
def quoteText (value : List Char) : List Char := '\'' :: double '\'' value ++ ['\'']

theorem feed_quoteName (hblank : isBlank d.nameOpen = false) (value : List Char) :
    (lexing d).feed .start (quoteName d value) = some ([], .nameEnd value) := by
  have hopen : (lexing d).step .start d.nameOpen = some ([], .name []) := by
    simp [lexing, begin, hblank]
  have hclose : (lexing d).feed (.name value) [d.nameClose] = some ([], .nameEnd value) := by
    simp [Transducer.feed, lexing]
  exact Transducer.feed_cons hopen (Transducer.feed_append (feed_double_name value []) hclose)

theorem feed_quoteText {s : State} (hopen : (lexing d).step s '\'' = some ([], .text []))
    (value : List Char) :
    (lexing d).feed s (quoteText value) = some ([], .textEnd value) := by
  have hclose : (lexing d).feed (.text value) ['\''] = some ([], .textEnd value) := by
    simp [Transducer.feed, lexing]
  exact Transducer.feed_cons hopen (Transducer.feed_append (feed_double_text value []) hclose)

/-- A token that has ended is followed by the others. -/
theorem run_endWith {s : State} {token : Token} {rest : List Char}
    (hstep : ∀ c cs, rest = c :: cs → (lexing d).step s c = endWith d (some token) c)
    (hfinish : rest = [] → (lexing d).finish s = some [token]) :
    (lexing d).run s rest = ((lexing d).run .start rest).map (token :: ·) := by
  cases rest with
  | nil =>
    have hlast : (lexing d).finish .start = some [] := rfl
    simp [Transducer.run, Transducer.feed, hfinish rfl, hlast]
  | cons c cs =>
    have hstart : (lexing d).step .start c = begin d c := rfl
    simp only [Transducer.run, Transducer.feed, hstep c cs rfl, hstart, endWith]
    cases begin d c with
    | none => rfl
    | some result =>
      obtain ⟨out, s'⟩ := result
      simp only [Option.bind_eq_bind, Option.bind_some]
      cases (lexing d).feed s' cs with
      | none => rfl
      | some result =>
        obtain ⟨out', s''⟩ := result
        cases hlast : (lexing d).finish s'' with
        | none => simp [hlast]
        | some last => simp [hlast]

/-- A quoted name is one token, and what follows is read as if it were alone. -/
theorem run_name (hblank : isBlank d.nameOpen = false) {value result rest : List Char}
    (hname : d.name value = some result) (hrest : rest.head? ≠ some d.nameClose) :
    tokens d (quoteName d value ++ rest) = (tokens d rest).map (.name result :: ·) := by
  unfold tokens
  rw [Transducer.run_skip (feed_quoteName hblank value)]
  refine run_endWith (fun c cs h => ?_) fun _ => ?_
  · have hne : c ≠ d.nameClose := by
      rintro rfl
      exact hrest (by rw [h]; rfl)
    simp [lexing, hne, nameToken, hname]
  · simp [lexing, nameToken, hname]

/-- A constant that does not go on has ended. -/
theorem run_gap {value result rest : List Char} {broken : Bool}
    (htext : d.text value = some result) (hrest : goesOn broken rest = false) :
    (lexing d).run (.gap value broken) rest =
      ((lexing d).run .start rest).map (.text result :: ·) := by
  induction rest generalizing broken with
  | nil => simp [Transducer.run, Transducer.feed, lexing, textToken, htext]
  | cons c rest ih =>
    by_cases hblank : isBlank c = true
    · have hgap : (lexing d).feed (.gap value broken) [c] =
          some ([], .gap value (broken || isBreak c)) := by
        simp [Transducer.feed, lexing, hblank]
      have hstart : (lexing d).feed .start [c] = some ([], .start) := by
        simp [Transducer.feed, lexing, begin, hblank]
      have hgoes : goesOn (broken || isBreak c) rest = false := by
        rwa [goesOn, if_pos hblank] at hrest
      have hsplit : c :: rest = [c] ++ rest := rfl
      rw [hsplit, Transducer.run_skip hgap, Transducer.run_skip hstart, ih hgoes]
    · have hquote : ¬ (c = '\'' && broken) = true := by
        rw [goesOn, if_neg hblank] at hrest
        exact Bool.eq_false_iff.1 hrest
      refine run_endWith (fun c' cs h => ?_) (by intro h; cases h)
      obtain ⟨rfl, rfl⟩ := List.cons.inj h
      show (if isBlank c = true then _ else if (c = '\'' && broken) = true then _ else _) = _
      rw [if_neg hblank, if_neg hquote, textToken, htext]
      rfl

/-- A constant is one token, and what follows is read as if it were alone. -/
theorem run_textEnd {value result rest : List Char} (htext : d.text value = some result)
    (hquote : rest.head? ≠ some '\'') (hrest : d.continued = true → goesOn false rest = false) :
    (lexing d).run (.textEnd value) rest =
      ((lexing d).run .start rest).map (.text result :: ·) := by
  cases rest with
  | nil => simp [Transducer.run, Transducer.feed, lexing, textToken, htext]
  | cons c rest =>
    have hne : c ≠ '\'' := by
      rintro rfl
      exact hquote rfl
    by_cases hgap : (d.continued && isBlank c) = true
    · obtain ⟨hcontinued, hblank⟩ := Bool.and_eq_true_iff.1 hgap
      have hfirst : (lexing d).feed (.textEnd value) [c] = some ([], .gap value (isBreak c)) := by
        simp [Transducer.feed, lexing, hne, hcontinued, hblank]
      have hstart : (lexing d).feed .start [c] = some ([], .start) := by
        simp [Transducer.feed, lexing, begin, hblank]
      have hgoes : goesOn (isBreak c) rest = false := by
        have h := hrest hcontinued
        rwa [goesOn, if_pos hblank, Bool.false_or] at h
      have hsplit : c :: rest = [c] ++ rest := rfl
      rw [hsplit, Transducer.run_skip hfirst, Transducer.run_skip hstart, run_gap htext hgoes]
    · refine run_endWith (fun c' cs h => ?_) (by intro h; cases h)
      obtain ⟨rfl, rfl⟩ := List.cons.inj h
      show (if c = '\'' then _ else if (d.continued && isBlank c) = true then _ else _) = _
      rw [if_neg hne, if_neg hgap, textToken, htext]
      rfl

theorem feed_plain {text rest : List Char} {out : List Token}
    (h : (lexing d).feed .start text = some (out, .start)) :
    tokens d (text ++ rest) = (tokens d rest).map (out ++ ·) := Transducer.run_append h

/-- What follows does not start with the character. -/
theorem head?_append_ne {q : Char} {text : List Char} (h : text.head?.any (· ≠ q) = true)
    (rest : List Char) : (text ++ rest).head? ≠ some q := by
  cases text with
  | nil => cases h
  | cons c cs => simpa using h

def words (texts : List String) : List Token := texts.map fun text => .word text.toList

/-- Words with blanks between them. -/
def wordTokens (text : List Char) : List Token :=
  ((text.splitOn ' ').filter (· ≠ [])).map .word

/-- Within or before a word. -/
def wordState (text : List Char) : State := if text = [] then .start else .word text

theorem isWordChar_of_isBlank {c : Char} (h : isBlank c = true) : isWordChar c = false := by
  simp only [isBlank, isBreak, Bool.or_eq_true, List.contains_iff_mem, List.mem_cons,
    List.not_mem_nil, or_false] at h
  rcases h with (rfl | rfl) | rfl | rfl | rfl | rfl <;> rfl

theorem step_wordState_blank (text : List Char) : (lexing d).step (wordState text) ' ' =
    some (if text = [] then [] else [.word text], .start) := by
  unfold wordState
  by_cases h : text = []
  · simp [h, lexing, begin, isBlank]
  · simp [h, lexing, endWith, begin, isBlank, isWordChar]

theorem step_wordState_wordChar {c : Char} (hopen : isWordChar d.nameOpen = false)
    (hc : isWordChar c = true) (text : List Char) :
    (lexing d).step (wordState text) c = some ([], wordState (text ++ [c])) := by
  have hblank : isBlank c = false := by
    by_contra h
    rw [isWordChar_of_isBlank (Bool.not_eq_false _ ▸ h)] at hc
    cases hc
  have hname : c ≠ d.nameOpen := by
    rintro rfl
    rw [hopen] at hc
    cases hc
  have hquote : c ≠ '\'' := by
    rintro rfl
    cases hc
  unfold wordState
  by_cases h : text = []
  · simp [h, lexing, begin, hblank, hname, hquote, hc]
  · simp [h, lexing, hc]

theorem splitOn_append_blank {before : List Char} (h : ' ' ∉ before) (after : List Char) :
    (before ++ ' ' :: after).splitOn ' ' = before :: after.splitOn ' ' := by
  refine List.splitOnP_append_cons_of_forall_mem (fun c hc => ?_) ' ' (by simp) after
  have hne : c ≠ ' ' := fun hc' => h (hc' ▸ hc)
  simpa using hne

theorem feed_words {text before : List Char} (hopen : isWordChar d.nameOpen = false)
    (htext : ∀ c ∈ text, isWordChar c = true ∨ c = ' ') (hbefore : ' ' ∉ before) :
    (lexing d).feed (wordState before) (text ++ [' ']) =
      some (wordTokens (before ++ text), .start) := by
  induction text generalizing before with
  | nil =>
    have hone : before.splitOn ' ' = [before] := by
      refine List.splitOn_eq_singleton_of_beq_eq_false fun c hc => ?_
      have hne : c ≠ ' ' := fun hc' => hbefore (hc' ▸ hc)
      simpa using hne
    simp only [List.nil_append, List.append_nil, Transducer.feed, step_wordState_blank, wordTokens,
      hone]
    by_cases h : before = [] <;> simp [h]
  | cons c text ih =>
    have hrest : ∀ c ∈ text, isWordChar c = true ∨ c = ' ' :=
      fun c hc => htext c (List.mem_cons_of_mem _ hc)
    by_cases hc : c = ' '
    · subst hc
      have htail : (lexing d).feed .start (text ++ [' ']) = some (wordTokens text, .start) :=
        ih hrest List.not_mem_nil
      rw [List.cons_append, Transducer.feed_cons (step_wordState_blank before) htail]
      unfold wordTokens
      rw [splitOn_append_blank hbefore]
      by_cases h : before = [] <;> simp [h]
    · have hword : isWordChar c = true := (htext c List.mem_cons_self).resolve_right hc
      have hnot : ' ' ∉ before ++ [c] := by
        simp [hbefore, Ne.symm hc]
      rw [List.cons_append, Transducer.feed_cons (step_wordState_wordChar hopen hword before)
        (ih hrest hnot)]
      simp

/-! ### Two dialects -/

/-- The first characters that take no more bytes. -/
def clip : ℕ → List Char → List Char
  | _, [] => []
  | bytes, c :: cs => if c.utf8Size ≤ bytes then c :: clip (bytes - c.utf8Size) cs else []

theorem clip_eq_self {bytes : ℕ} {value : List Char} (h : (value.map Char.utf8Size).sum ≤ bytes) :
    clip bytes value = value := by
  induction value generalizing bytes with
  | nil => rfl
  | cons c value ih =>
    rw [List.map_cons, List.sum_cons] at h
    rw [clip, if_pos (by omega), ih (by omega)]

/-- PostgreSQL, with `standard_conforming_strings`: a name is not empty and is cut after 63 bytes, and
no token has the character with code zero in it. -/
def postgres : Dialect where
  nameOpen := '"'
  nameClose := '"'
  name value := if value = [] ∨ '\x00' ∈ value then none else some (clip 63 value)
  text value := if '\x00' ∈ value then none else some value
  introducers := []
  continued := true

/-- A backslash before a line break is removed with it. -/
def joinLines : List Char → List Char
  | '\\' :: '\n' :: cs => joinLines cs
  | '\\' :: '\r' :: '\n' :: cs => joinLines cs
  | c :: cs => c :: joinLines cs
  | [] => []

/-- The text has a backslash before a line break. -/
def HasJoint (value : List Char) : Prop :=
  ['\\', '\n'] <:+: value ∨ ['\\', '\r', '\n'] <:+: value

theorem joinLines_eq_self {value : List Char} (h : ¬ HasJoint value) : joinLines value = value := by
  fun_induction joinLines value with
  | case1 cs ih => exact absurd (Or.inl ⟨[], cs, rfl⟩) h
  | case2 cs ih => exact absurd (Or.inr ⟨[], cs, rfl⟩) h
  | case3 c cs h₁ h₂ ih =>
    rw [ih]
    intro hjoint
    apply h
    rcases hjoint with hjoint | hjoint
    · exact Or.inl (hjoint.trans (List.infix_cons_iff.2 (Or.inr (List.infix_refl cs))))
    · exact Or.inr (hjoint.trans (List.infix_cons_iff.2 (Or.inr (List.infix_refl cs))))
  | case4 => rfl

/-- How long a name is: a character outside of the basic plane counts twice. -/
def codeUnits (value : List Char) : ℕ := (value.map fun c => if c.toNat < 0x10000 then 1 else 2).sum

/-- Transact-SQL, with names in brackets: a name has 1 to 128 code units. -/
def transact : Dialect where
  nameOpen := '['
  nameClose := ']'
  name value := if 1 ≤ codeUnits value ∧ codeUnits value ≤ 128 then some value else none
  text value := some (joinLines value)
  introducers := [['N'], ['n']]
  continued := false

end Sql
