import IdmMw.Library.Transducer

/-!
# Words of a shell command

How a POSIX shell splits a command into words and operators.

* `quoting`: single quotes, double quotes and backslashes are removed; a quoted character is marked;
* `splitting`: blanks end a word, and unquoted operator characters make operators, of which the
  longest counts;
* `split`: both. A text with an unquoted character that stands for something else (an expansion, a
  pattern, a comment, an assignment) is not split, and neither is one with an open quote.
* `quote`: a text in single quotes, with its own single quotes taken out of them; it is one word,
  whatever the text is (`split_quote`).
-/

namespace Shell

inductive Token
  | word (text : List Char)
  | operator (text : List Char)
  deriving DecidableEq

/-! ### Quoting -/

/-- A character, or the mark of an opening quote, which begins a word even if nothing follows. -/
inductive Piece
  | plain (c : Char)
  | quoted (c : Char)
  | opened
  deriving DecidableEq

/-- What the reader is inside of. -/
inductive Quote
  | unquoted
  | single
  | double
  | escaped
  | escapedInDouble
  deriving DecidableEq

/-- Characters of expansions, which double quotes do not quote. -/
def isExpansion (c : Char) : Bool := ['$', '\x60'].contains c

def quoting : Transducer Quote Char Piece where
  step
    | .unquoted, c =>
      if c = '\'' then some ([.opened], .single)
      else if c = '"' then some ([.opened], .double)
      else if c = '\\' then some ([], .escaped)
      else some ([.plain c], .unquoted)
    | .single, c => if c = '\'' then some ([], .unquoted) else some ([.quoted c], .single)
    | .double, c =>
      if c = '"' then some ([], .unquoted)
      else if c = '\\' then some ([], .escapedInDouble)
      else if isExpansion c then none
      else some ([.quoted c], .double)
    | .escaped, c => some (if c = '\n' then [] else [.quoted c], .unquoted)
    | .escapedInDouble, c =>
      some (if c = '\n' then [] else if isExpansion c || c == '"' || c == '\\' then [.quoted c]
        else [.quoted '\\', .quoted c], .double)
  finish
    | .unquoted => some []
    | _ => none

/-! ### Splitting -/

/-- What has been read of the next token. -/
inductive Pending
  | nothing
  | word (text : List Char)
  | operator (text : List Char)
  deriving DecidableEq

def Pending.flush : Pending → List Token
  | nothing => []
  | word text => [.word text]
  | operator text => [.operator text]

/-- A word begins or goes on. -/
def Pending.push (text : List Char) : Pending → List Token × Pending
  | nothing => ([], word text)
  | word before => ([], word (before ++ text))
  | operator before => ([.operator before], word text)

def operators : List (List Char) :=
  ["&&".toList, "||".toList, ";;".toList, "&".toList, "|".toList, ";".toList, "(".toList,
    ")".toList, "<".toList, ">".toList, "<<".toList, ">>".toList, "<&".toList, ">&".toList,
    "<>".toList, "<<-".toList, ">|".toList, "\n".toList]

/-- The operator goes on with the character. -/
def Pending.extended (c : Char) : Pending → Option Pending
  | operator before =>
    if operators.contains (before ++ [c]) then some (operator (before ++ [c])) else none
  | _ => none

def isBlank (c : Char) : Bool := [' ', '\t'].contains c

/-- Characters that must be quoted to stand for themselves, or in some places must. -/
def isSpecial (c : Char) : Bool :=
  isExpansion c || ['*', '?', '[', '#', '~', '=', '%', '{', '}', '!'].contains c

def splitting : Transducer Pending Piece Token where
  step
    | pending, .opened => some (pending.push [])
    | pending, .quoted c => some (pending.push [c])
    | pending, .plain c =>
      if isBlank c then some (pending.flush, .nothing)
      else match pending.extended c with
        | some operator => some ([], operator)
        | none =>
          if operators.contains [c] then some (pending.flush, .operator [c])
          else if isSpecial c then none
          else some (pending.push [c])
  finish pending := some pending.flush

/-- The tokens of a command. -/
def split (text : List Char) : Option (List Token) :=
  (quoting.run .unquoted text).bind (splitting.run .nothing)

theorem split_eq_some_iff {text : List Char} {tokens : List Token} :
    split text = some tokens ↔ ∃ pieces out pending,
      quoting.feed .unquoted text = some (pieces, .unquoted) ∧
      splitting.feed .nothing pieces = some (out, pending) ∧ out ++ pending.flush = tokens := by
  simp only [split, Option.bind_eq_some_iff, Transducer.run_eq_some_iff]
  constructor
  · rintro ⟨_, ⟨pieces, q, last, hfeed, hfinish, rfl⟩, out, pending, _, hsplit, hflush, rfl⟩
    cases q with
    | unquoted =>
      obtain rfl : [] = last := Option.some.inj hfinish
      obtain rfl := Option.some.inj hflush
      rw [List.append_nil] at hsplit
      exact ⟨pieces, out, pending, hfeed, hsplit, rfl⟩
    | _ => cases hfinish
  · rintro ⟨pieces, out, pending, hfeed, hsplit, rfl⟩
    exact ⟨pieces, ⟨pieces, .unquoted, [], hfeed, rfl, List.append_nil _⟩,
      out, pending, _, hsplit, rfl, rfl⟩

/-- A blank between two commands keeps their tokens apart. -/
theorem split_append_blank {text text' : List Char} {tokens tokens' : List Token}
    (h : split text = some tokens) (h' : split text' = some tokens') :
    split (text ++ ' ' :: text') = some (tokens ++ tokens') := by
  obtain ⟨pieces, out, pending, hfeed, hsplit, rfl⟩ := split_eq_some_iff.1 h
  obtain ⟨pieces', out', pending', hfeed', hsplit', rfl⟩ := split_eq_some_iff.1 h'
  refine split_eq_some_iff.2 ⟨pieces ++ ([.plain ' '] ++ pieces'),
    out ++ (pending.flush ++ out'), pending', ?_, ?_, ?_⟩
  · exact Transducer.feed_append hfeed (Transducer.feed_cons rfl hfeed')
  · exact Transducer.feed_append hsplit (Transducer.feed_cons rfl hsplit')
  · simp only [List.append_assoc]

/-- Texts joined by blanks. -/
theorem split_intercalate {texts : List (List Char × List Token)}
    (h : ∀ p ∈ texts, split p.1 = some p.2) :
    split ([' '].intercalate (texts.map Prod.fst)) = some (texts.flatMap Prod.snd) := by
  induction texts with
  | nil => rfl
  | cons p texts ih =>
    have hfirst := h p List.mem_cons_self
    have hrest := ih fun p' hp' => h p' (List.mem_cons_of_mem _ hp')
    cases texts with
    | nil => simpa [List.intercalate] using hfirst
    | cons p' texts =>
      have hjoin : [' '].intercalate ((p :: p' :: texts).map Prod.fst) =
          p.1 ++ ' ' :: [' '].intercalate ((p' :: texts).map Prod.fst) := by
        simp [List.intercalate]
      rw [hjoin, List.flatMap_cons]
      exact split_append_blank hfirst hrest

/-! ### Single quotes -/

/-- A single quote is written outside of the quotes: they are closed, it is escaped, they are opened
again. -/
def quoteChar (c : Char) : List Char := if c = '\'' then ['\'', '\\', '\'', '\''] else [c]

def quote (text : List Char) : List Char := '\'' :: text.flatMap quoteChar ++ ['\'']

/-- The pieces of a character within a quoted text. -/
def quotePieces (c : Char) : List Piece := if c = '\'' then [.quoted c, .opened] else [.quoted c]

theorem feed_quoteChar (c : Char) :
    quoting.feed .single (quoteChar c) = some (quotePieces c, .single) := by
  by_cases h : c = '\''
  · subst h
    rfl
  · simp [quoteChar, quotePieces, Transducer.feed, quoting, h]

theorem feed_flatMap_quoteChar (text : List Char) :
    quoting.feed .single (text.flatMap quoteChar) =
      some (text.flatMap quotePieces, .single) := by
  induction text with
  | nil => rfl
  | cons c text ih =>
    rw [List.flatMap_cons, List.flatMap_cons]
    exact Transducer.feed_append (feed_quoteChar c) ih

theorem feed_quotePieces (word : List Char) (c : Char) :
    splitting.feed (.word word) (quotePieces c) = some ([], .word (word ++ [c])) := by
  by_cases h : c = '\''
  · subst h
    simp [quotePieces, Transducer.feed, splitting, Pending.push]
  · simp [quotePieces, Transducer.feed, splitting, Pending.push, h]

theorem feed_flatMap_quotePieces (word text : List Char) :
    splitting.feed (.word word) (text.flatMap quotePieces) = some ([], .word (word ++ text)) := by
  induction text generalizing word with
  | nil => simp [Transducer.feed]
  | cons c text ih =>
    rw [List.flatMap_cons]
    simpa using Transducer.feed_append (feed_quotePieces word c) (ih (word ++ [c]))

/-- A quoted text is one word, and the word is the text. -/
theorem split_quote (text : List Char) : split (quote text) = some [.word text] := by
  refine split_eq_some_iff.2 ⟨.opened :: text.flatMap quotePieces, [], .word text, ?_, ?_, rfl⟩
  · have hclose : quoting.feed .single ['\''] = some ([], .unquoted) := rfl
    simpa [quote] using Transducer.feed_cons (T := quoting) (s := .unquoted) (a := '\'') rfl
      (Transducer.feed_append (feed_flatMap_quoteChar text) hclose)
  · have hopen : splitting.feed .nothing [.opened] = some ([], .word []) := rfl
    exact Transducer.feed_append hopen (feed_flatMap_quotePieces [] text)

example : split ("echo a\\ b 'c d'\"e f\"&&true".toList) =
    some [.word "echo".toList, .word "a b".toList, .word "c de f".toList, .operator "&&".toList,
      .word "true".toList] := by decide

end Shell
