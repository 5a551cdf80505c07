import IdmMw.Library.Url
import Mathlib.Data.List.TakeWhile

/-!
# Texts that go on behind a URL

* `encodeURIComponent`; `percentDecode_percentEncode`: an escaped text is read back;
* `Plain`: a segment that stays as it is; `addSegments_plain`: what plain segments add to a path;
* `isDots_encodeURIComponent`: of the escaped texts, `.` and `..` alone are not plain.
-/

namespace Url

/-! ### Escapes -/

/-- The characters that `encodeURIComponent` leaves as they are. -/
def isUnreserved (c : Char) : Bool := c.isAlphanum || "-_.!~*'()".toList.contains c

def encodeURIComponent (text : List Char) : List Char :=
  percentEncode (fun c => !isUnreserved c) text

theorem hexValue_hexDigit : ∀ n < 16, isHexDigit (hexDigit n) = true ∧
    hexValue (hexDigit n) = n := by decide

theorem percentDecode_escapeByte (b : UInt8) (rest : List Char) :
    percentDecode (escapeByte b ++ rest) = b :: percentDecode rest := by
  have hb := b.toNat_lt
  obtain ⟨hhigh, hhighValue⟩ := hexValue_hexDigit (b.toNat / 16) (by omega)
  obtain ⟨hlow, hlowValue⟩ := hexValue_hexDigit (b.toNat % 16) (by omega)
  show percentDecode ('%' :: hexDigit (b.toNat / 16) :: hexDigit (b.toNat % 16) :: rest) = _
  rw [percentDecode, hhigh, hlow, hhighValue, hlowValue]
  have hvalue : b.toNat / 16 * 16 + b.toNat % 16 = b.toNat := by omega
  rw [hvalue]
  simp

theorem percentDecode_escapes (bytes : List UInt8) (rest : List Char) :
    percentDecode (bytes.flatMap escapeByte ++ rest) = bytes ++ percentDecode rest := by
  induction bytes with
  | nil => rfl
  | cons b bytes ih =>
    rw [List.flatMap_cons, List.append_assoc, percentDecode_escapeByte, ih]
    rfl

theorem percentDecode_cons {c : Char} (hc : c ≠ '%') (rest : List Char) :
    percentDecode (c :: rest) = String.utf8EncodeChar c ++ percentDecode rest := by
  rw [percentDecode]
  rintro a b cs rfl
  exact absurd rfl hc

/-- What is escaped is read back, if the sign of an escape is escaped, too. -/
theorem percentDecode_percentEncode {set : Char → Bool} (hset : set '%' = true)
    (text : List Char) :
    percentDecode (percentEncode set text) = text.flatMap String.utf8EncodeChar := by
  induction text with
  | nil => rfl
  | cons c text ih =>
    unfold percentEncode at ih ⊢
    rw [List.flatMap_cons, List.flatMap_cons]
    by_cases hc : set c = true
    · rw [if_pos hc, percentDecode_escapes, ih]
    · rw [if_neg hc, List.singleton_append, percentDecode_cons, ih]
      rintro rfl
      exact hc hset

/-- The bytes of a text tell the text. -/
theorem eq_of_utf8 {text text' : List Char}
    (h : text.flatMap String.utf8EncodeChar = text'.flatMap String.utf8EncodeChar) :
    text = text' := by
  refine String.ofList_injective (String.toByteArray_inj.1 ?_)
  show text.utf8Encode = text'.utf8Encode
  unfold List.utf8Encode
  rw [h]

theorem percentEncode_eq_self {set : Char → Bool} {text : List Char}
    (h : ∀ c ∈ text, set c = false) : percentEncode set text = text := by
  induction text with
  | nil => rfl
  | cons c text ih =>
    unfold percentEncode at ih ⊢
    rw [List.flatMap_cons, h c List.mem_cons_self,
      ih fun d hd => h d (List.mem_cons_of_mem _ hd)]
    rfl

theorem decode_encodeURIComponent (text : List Char) :
    percentDecode (encodeURIComponent text) = text.flatMap String.utf8EncodeChar :=
  percentDecode_percentEncode rfl text

theorem lt_of_isUnreserved {c : Char} (h : isUnreserved c = true) : c.toNat < 128 := by
  have hval : c.toNat = c.val.toNat := rfl
  unfold isUnreserved Char.isAlphanum Char.isAlpha Char.isUpper Char.isLower Char.isDigit at h
  simp only [Bool.or_eq_true, Bool.and_eq_true, decide_eq_true_eq, List.contains_iff_mem,
    UInt32.le_iff_toNat_le] at h
  rcases h with ((h | h) | h) | h
  · have hZ : 'Z'.val.toNat = 90 := rfl
    omega
  · have hz : 'z'.val.toNat = 122 := rfl
    omega
  · have h9 : '9'.val.toNat = 57 := rfl
    omega
  · have hlist : ("-_.!~*'()".toList.all fun c => c.toNat < 128) = true := by decide
    exact of_decide_eq_true (List.all_eq_true.1 hlist c h)

/-- The characters of escaped texts stay as they are in a path. -/
theorem stays_of_isUnreserved {c : Char} (h : isUnreserved c = true ∨ c = '%') :
    c ≠ '/' ∧ c ≠ '\\' ∧ pathSet c = false := by
  have hsmall : ∀ n < 128, isUnreserved (Char.ofNat n) = true ∨ Char.ofNat n = '%' →
      Char.ofNat n ≠ '/' ∧ Char.ofNat n ≠ '\\' ∧ pathSet (Char.ofNat n) = false := by
    decide +kernel
  have hlt : c.toNat < 128 := by
    rcases h with h | rfl
    · exact lt_of_isUnreserved h
    · decide
  have hc := hsmall c.toNat hlt
  rw [Char.ofNat_toNat] at hc
  exact hc h

/-- The characters of an escaped text. -/
theorem mem_encodeURIComponent {text : List Char} {c : Char} (h : c ∈ encodeURIComponent text) :
    isUnreserved c = true ∨ c = '%' := by
  obtain ⟨c', -, hc⟩ := List.mem_flatMap.1 h
  split at hc
  · obtain ⟨b, -, hb⟩ := List.mem_flatMap.1 hc
    have hdigit : ∀ n < 16, isUnreserved (hexDigit n) = true := by decide
    have hlt := b.toNat_lt
    simp only [escapeByte, List.mem_cons, List.not_mem_nil, or_false] at hb
    rcases hb with rfl | rfl | rfl
    · exact Or.inr rfl
    · exact Or.inl (hdigit _ (by omega))
    · exact Or.inl (hdigit _ (by omega))
  · next hunreserved =>
    obtain rfl := List.mem_singleton.1 hc
    exact Or.inl (by simpa using hunreserved)

theorem encodeURIComponent_ne_nil {text : List Char} (h : text ≠ []) :
    encodeURIComponent text ≠ [] := by
  intro hnil
  have hdecode := decode_encodeURIComponent text
  rw [hnil] at hdecode
  exact h (@eq_of_utf8 text [] hdecode.symm)

/-! ### Segments -/

/-- The segment stands for a directory. -/
def isDots (segment : List Char) : Bool := isSingleDot segment || isDoubleDot segment

/-- The segment is added as it is, wherever it stands. -/
structure Plain (scheme segment : List Char) : Prop where
  slashes : ∀ c ∈ segment, isSlash scheme c = false
  escaped : percentEncode pathSet segment = segment
  dots : isDots segment = false

theorem toLower_cases (c : Char) :
    c.toLower = c ∨ 65 ≤ c.toNat ∧ c.toNat ≤ 90 ∧ c.toLower.toNat = c.toNat + 32 := by
  unfold Char.toLower
  split
  · next hc =>
    refine Or.inr ?_
    have hA : 'A'.val.toNat = 65 := rfl
    have hZ : 'Z'.val.toNat = 90 := rfl
    have hval : c.toNat = c.val.toNat := rfl
    have hlow := UInt32.le_iff_toNat_le.1 hc.1
    have hhigh := UInt32.le_iff_toNat_le.1 hc.2
    refine ⟨by omega, by omega, ?_⟩
    show (c.val + ('a'.val - 'A'.val)).toNat = _
    rw [UInt32.toNat_add]
    have hdiff : ('a'.val - 'A'.val).toNat = 32 := rfl
    omega
  · exact Or.inl rfl

/-- A character that is no letter is the lower case of itself only. -/
theorem eq_of_toLower {c d : Char} (h : c.toLower = d) (hd : d.toNat < 97) : c = d := by
  rcases toLower_cases c with heq | ⟨hlow, -, hval⟩
  · exact heq.symm.trans h
  · rw [h] at hval
    omega

theorem eq_of_toLower_e {c : Char} (h : c.toLower = 'e') : c = 'e' ∨ c = 'E' := by
  rcases toLower_cases c with heq | ⟨-, -, hval⟩
  · exact Or.inl (heq.symm.trans h)
  · rw [h] at hval
    have he : 'e'.toNat = 101 := rfl
    have hE : 'E'.toNat = 69 := rfl
    exact Or.inr (Char.toNat_inj.1 (by omega))

/-- A dot, or an escape of one. -/
theorem dot_of_toLower {segment rest : List Char} (h : segment.map Char.toLower = '.' :: rest ∨
    segment.map Char.toLower = '%' :: '2' :: 'e' :: rest) :
    ∃ more, more.map Char.toLower = rest ∧
      percentDecode segment = String.utf8EncodeChar '.' ++ percentDecode more := by
  rcases h with h | h
  · obtain ⟨c, more, rfl, hc, hmore⟩ := List.map_eq_cons_iff.1 h
    obtain rfl := eq_of_toLower hc (by decide)
    exact ⟨more, hmore, percentDecode_cons (by decide) more⟩
  · obtain ⟨c, tail, rfl, hc, htail⟩ := List.map_eq_cons_iff.1 h
    obtain ⟨c', tail', rfl, hc', htail'⟩ := List.map_eq_cons_iff.1 htail
    obtain ⟨c'', more, rfl, hc'', hmore⟩ := List.map_eq_cons_iff.1 htail'
    obtain rfl := eq_of_toLower hc (by decide)
    obtain rfl := eq_of_toLower hc' (by decide)
    refine ⟨more, hmore, ?_⟩
    rcases eq_of_toLower_e hc'' with rfl | rfl
    · rw [percentDecode]
      rfl
    · rw [percentDecode]
      rfl

/-- A segment that stands for a directory is its dots, or an escape of them. -/
theorem decode_of_isDots {segment : List Char} (h : isDots segment = true) :
    percentDecode segment = ".".toList.flatMap String.utf8EncodeChar ∨
      percentDecode segment = "..".toList.flatMap String.utf8EncodeChar := by
  have hend : ∀ more : List Char, more.map Char.toLower = [] → percentDecode more = [] := by
    intro more hmore
    rw [List.map_eq_nil_iff.1 hmore]
    rfl
  unfold isDots isSingleDot isDoubleDot at h
  simp only [List.any_cons, List.any_nil, Bool.or_false, Bool.or_eq_true, decide_eq_true_eq] at h
  rcases h with h | h
  · obtain ⟨more, hmore, hdecode⟩ := @dot_of_toLower segment [] h
    rw [hdecode, hend more hmore]
    exact Or.inl rfl
  · have hdouble : ∃ rest, (segment.map Char.toLower = '.' :: rest ∨
        segment.map Char.toLower = '%' :: '2' :: 'e' :: rest) ∧
          (rest = ".".toList ∨ rest = "%2e".toList) := by
      rcases h with h | h | h | h
      · exact ⟨_, Or.inl h, Or.inl rfl⟩
      · exact ⟨_, Or.inl h, Or.inr rfl⟩
      · exact ⟨_, Or.inr h, Or.inl rfl⟩
      · exact ⟨_, Or.inr h, Or.inr rfl⟩
    obtain ⟨rest, hfirst, hrest⟩ := hdouble
    obtain ⟨more, hmore, hdecode⟩ := dot_of_toLower hfirst
    obtain ⟨more', hmore', hdecode'⟩ := @dot_of_toLower more [] (by
      rw [hmore]
      exact hrest)
    rw [hdecode, hdecode', hend more' hmore']
    exact Or.inr rfl

/-- Of the escaped texts these two stand for a directory. -/
theorem isDots_encodeURIComponent (text : List Char) :
    isDots (encodeURIComponent text) = true ↔ text = ".".toList ∨ text = "..".toList := by
  constructor
  · intro h
    rcases decode_of_isDots h with hone | htwo
    · exact Or.inl (eq_of_utf8 ((decode_encodeURIComponent text).symm.trans hone))
    · exact Or.inr (eq_of_utf8 ((decode_encodeURIComponent text).symm.trans htwo))
  · rintro (rfl | rfl)
    · decide
    · decide

/-- An escaped text that is no directory is plain. -/
theorem plain_encodeURIComponent {scheme text : List Char}
    (h : text ≠ ".".toList ∧ text ≠ "..".toList) : Plain scheme (encodeURIComponent text) := by
  have hunreserved : ∀ c, isUnreserved c = true ∨ c = '%' →
      isSlash scheme c = false ∧ pathSet c = false := by
    intro c hc
    obtain ⟨hslash, hbackslash, hset⟩ := stays_of_isUnreserved hc
    refine ⟨?_, hset⟩
    simp [isSlash, hslash, hbackslash]
  refine ⟨fun c hc => (hunreserved c (mem_encodeURIComponent hc)).1, ?_, ?_⟩
  · refine percentEncode_eq_self fun c hc => (hunreserved c (mem_encodeURIComponent hc)).2
  · by_contra hne
    rcases (isDots_encodeURIComponent text).1 (by simpa using hne) with heq | heq
    · exact h.1 heq
    · exact h.2 heq

/-- What a segment adds is the same, be it the last one or not. -/
theorem addSegment_plain {scheme segment : List Char} (h : Plain scheme segment)
    (hfile : isFile scheme = false) (before : List (List Char)) (last : Bool) :
    addSegment scheme before segment last = before ++ [segment] := by
  obtain ⟨hsingle, hdouble⟩ := Bool.or_eq_false_iff.1 h.dots
  unfold addSegment
  simp only [h.escaped, hsingle, hdouble, hfile, Bool.false_and, if_false, Bool.false_eq_true]

/-- Segments are added one after the other; what is added behind a plain segment is added to the
path that ends with it. -/
theorem addSegments_append {scheme segment : List Char} (h : Plain scheme segment)
    (hfile : isFile scheme = false) (before texts more : List (List Char)) (hmore : more ≠ []) :
    addSegments scheme before (texts ++ segment :: more) =
      addSegments scheme (addSegments scheme before (texts ++ [segment])) more := by
  induction texts generalizing before with
  | nil =>
    cases more with
    | nil => exact absurd rfl hmore
    | cons next more =>
      show addSegments scheme (addSegment scheme before segment false) (next :: more) =
        addSegments scheme (addSegment scheme before segment true) (next :: more)
      rw [addSegment_plain h hfile, addSegment_plain h hfile]
  | cons text texts ih =>
    have hnext : ∀ tail : List (List Char), tail ≠ [] →
        addSegments scheme before (text :: tail) =
          addSegments scheme (addSegment scheme before text false) tail := by
      intro tail htail
      cases tail with
      | nil => exact absurd rfl htail
      | cons next tail => rfl
    rw [List.cons_append, List.cons_append, hnext _ (by simp), hnext _ (by simp), ih]

theorem addSegments_plain {scheme : List Char} (hfile : isFile scheme = false)
    {texts : List (List Char)} (h : ∀ segment ∈ texts, Plain scheme segment)
    (before : List (List Char)) : addSegments scheme before texts = before ++ texts := by
  induction texts generalizing before with
  | nil => exact (List.append_nil before).symm
  | cons segment texts ih =>
    have hsegment := h segment List.mem_cons_self
    have ih := ih (fun other hother => h other (List.mem_cons_of_mem _ hother)) (before ++ [segment])
    cases texts with
    | nil => exact addSegment_plain hsegment hfile before true
    | cons next texts =>
      show addSegments scheme (addSegment scheme before segment false) (next :: texts) = _
      rw [addSegment_plain hsegment hfile, ih]
      simp

/-- Behind plain segments the others are added to all of these. -/
theorem addSegments_plain_append {scheme : List Char} (hfile : isFile scheme = false)
    {texts more : List (List Char)} (h : ∀ segment ∈ texts, Plain scheme segment) (hmore : more ≠ [])
    (before : List (List Char)) : addSegments scheme before (texts ++ more) =
      addSegments scheme (before ++ texts) more := by
  induction texts generalizing before with
  | nil => rw [List.nil_append, List.append_nil]
  | cons segment texts ih =>
    have hrest := ih (fun other hother => h other (List.mem_cons_of_mem _ hother))
      (before ++ [segment])
    have hfirst := @addSegments_append scheme segment (h segment List.mem_cons_self) hfile before []
      (texts ++ more) (by simp [hmore])
    rw [List.cons_append, ← List.nil_append (segment :: (texts ++ more)), hfirst, List.nil_append]
    show addSegments scheme (addSegment scheme before segment true) (texts ++ more) = _
    rw [addSegment_plain (h segment List.mem_cons_self) hfile, hrest, List.append_assoc]
    rfl

theorem length_shorten {scheme : List Char} (hfile : isFile scheme = false)
    (segments : List (List Char)) : (shorten scheme segments).length = segments.length - 1 := by
  unfold shorten
  split
  · simp [hfile]
  · exact List.length_dropLast

/-- A directory that is named by its dots is no segment. -/
theorem addSegments_dots {scheme dots segment : List Char} (hfile : isFile scheme = false)
    (hdots : dots = ".".toList ∨ dots = "..".toList) {before behind : List (List Char)}
    (hbefore : before ≠ []) (hbehind : ∀ name ∈ behind, Plain scheme name) (hsegment : segment ≠ []) :
    addSegments scheme before (dots :: behind) ≠ before ++ segment :: behind := by
  have hpos := List.length_pos_iff.2 hbefore
  have hshorten := length_shorten hfile before
  intro heq
  cases behind with
  | nil =>
    rcases hdots with rfl | rfl
    · have hadd : addSegment scheme before ".".toList true = before ++ [[]] := rfl
      have hempty := List.append_cancel_left (hadd.symm.trans heq)
      exact hsegment (List.cons.inj hempty).1.symm
    · have hadd : addSegment scheme before "..".toList true = shorten scheme before ++ [[]] := rfl
      have hlength := congrArg List.length (hadd.symm.trans heq)
      simp only [List.length_append, List.length_cons, List.length_nil] at hlength
      omega
  | cons name behind =>
    have hrest := addSegments_plain hfile hbehind
    have hnext : addSegments scheme before (dots :: name :: behind) =
      addSegments scheme (addSegment scheme before dots false) (name :: behind) := rfl
    rw [hnext, hrest] at heq
    have hlength := congrArg List.length heq
    rcases hdots with rfl | rfl
    · have hadd : addSegment scheme before ".".toList false = before := rfl
      rw [hadd] at hlength
      simp only [List.length_append, List.length_cons] at hlength
      omega
    · have hadd : addSegment scheme before "..".toList false = shorten scheme before := rfl
      rw [hadd] at hlength
      simp only [List.length_append, List.length_cons] at hlength
      omega

/-! ### Texts that go on with a slash -/

/-- A text that another follows, without blanks at the start, tabs and line breaks. -/
def cleanStart (text : List Char) : List Char :=
  (text.dropWhile isBlank).filter fun c => !(['\t', '\n', '\r'].contains c)

/-- A text that follows another. -/
def cleanEnd (text : List Char) : List Char :=
  ((text.reverse.dropWhile isBlank).reverse).filter fun c => !(['\t', '\n', '\r'].contains c)

section While

variable {α : Type} {p : α → Bool} {c : α}

theorem dropWhile_append_stop (hc : p c = false) (before after : List α) :
    (before ++ c :: after).dropWhile p = before.dropWhile p ++ c :: after := by
  induction before with
  | nil => exact List.dropWhile_cons_of_neg (by simp [hc])
  | cons d before ih =>
    rw [List.cons_append, List.dropWhile_cons, List.dropWhile_cons]
    split
    · exact ih
    · rfl

theorem takeWhile_append_stop (hc : p c = false) (before after : List α) :
    (before ++ c :: after).takeWhile p = before.takeWhile p := by
  induction before with
  | nil => exact List.takeWhile_cons_of_neg (by simp [hc])
  | cons d before ih =>
    rw [List.cons_append, List.takeWhile_cons, List.takeWhile_cons]
    split
    · rw [ih]
    · rfl

end While

theorem clean_append_slash (text more : List Char) :
    clean (text ++ '/' :: more) = cleanStart text ++ '/' :: cleanEnd more := by
  unfold clean
  rw [dropWhile_append_stop rfl, List.reverse_append, List.reverse_cons, List.append_assoc,
    List.singleton_append, dropWhile_append_stop rfl, List.reverse_append, List.reverse_cons,
    List.reverse_reverse, List.append_assoc, List.singleton_append, List.filter_append,
    List.filter_cons_of_pos rfl]
  rfl

theorem cleanEnd_append {c : Char} (hc : isBlank c = false)
    (hkept : (!(['\t', '\n', '\r'].contains c)) = true) (text more : List Char) :
    cleanEnd (text ++ c :: more) =
      (text.filter fun c => !(['\t', '\n', '\r'].contains c)) ++ c :: cleanEnd more := by
  unfold cleanEnd
  rw [List.reverse_append, List.reverse_cons, List.append_assoc, List.singleton_append,
    dropWhile_append_stop hc, List.reverse_append, List.reverse_cons, List.reverse_reverse,
    List.append_assoc, List.singleton_append, List.filter_append, List.filter_cons, if_pos hkept]

/-- The characters of a scheme. -/
def isSchemeChar (c : Char) : Bool := c.isAlphanum || ['+', '-', '.'].contains c

theorem readScheme_cons (c : Char) (cs : List Char) :
    readScheme (c :: cs) = match cs.dropWhile isSchemeChar with
      | ':' :: rest =>
        if c.isAlpha then some ((c :: cs.takeWhile isSchemeChar).map Char.toLower, rest) else none
      | _ => none := rfl

theorem readScheme_eq_some {text scheme rest : List Char} :
    readScheme text = some (scheme, rest) ↔ ∃ c cs, text = c :: cs ∧ c.isAlpha = true ∧
      cs.dropWhile isSchemeChar = ':' :: rest ∧
        scheme = (c :: cs.takeWhile isSchemeChar).map Char.toLower := by
  cases text with
  | nil =>
    refine iff_of_false (Option.some_ne_none _).symm ?_
    rintro ⟨_, _, h, -⟩
    cases h
  | cons c cs =>
    rw [readScheme_cons]
    constructor
    · intro h
      split at h
      · next rest' hdrop =>
        split at h
        · next halpha =>
          obtain ⟨rfl, rfl⟩ := Prod.mk.inj (Option.some.inj h)
          exact ⟨c, cs, rfl, halpha, hdrop, rfl⟩
        · cases h
      · cases h
    · rintro ⟨c', cs', hcons, halpha, hdrop, rfl⟩
      obtain ⟨rfl, rfl⟩ := List.cons.inj hcons
      rw [hdrop]
      exact if_pos halpha

/-- What follows a text with a scheme does not change the scheme. -/
theorem readScheme_append {text scheme rest : List Char} (h : readScheme text = some (scheme, rest))
    (more : List Char) : readScheme (text ++ more) = some (scheme, rest ++ more) := by
  obtain ⟨c, cs, rfl, halpha, hdrop, rfl⟩ := readScheme_eq_some.1 h
  obtain ⟨before, hbefore⟩ : ∃ before, cs = before ++ ':' :: rest :=
    ⟨cs.takeWhile isSchemeChar, by rw [← hdrop, List.takeWhile_append_dropWhile]⟩
  refine readScheme_eq_some.2 ⟨c, cs ++ more, rfl, halpha, ?_, ?_⟩
  · rw [List.dropWhile_append, hdrop]
    rfl
  · rw [hbefore, List.append_assoc, List.cons_append, takeWhile_append_stop rfl,
      takeWhile_append_stop rfl]

/-- The scheme of a text that goes on with a slash is that of the text. -/
theorem readScheme_of_append_slash {text more scheme rest : List Char}
    (h : readScheme (text ++ '/' :: more) = some (scheme, rest)) :
    ∃ rest', readScheme text = some (scheme, rest') ∧ rest = rest' ++ '/' :: more := by
  obtain ⟨c, cs, hcons, halpha, hdrop, rfl⟩ := readScheme_eq_some.1 h
  cases text with
  | nil =>
    obtain ⟨rfl, -⟩ := List.cons.inj hcons
    exact absurd halpha (by decide)
  | cons c' text =>
    obtain ⟨rfl, hcs⟩ := List.cons.inj hcons
    obtain rfl : text ++ '/' :: more = cs := hcs
    have hslash : isSchemeChar '/' = false := by decide
    rw [dropWhile_append_stop hslash] at hdrop
    cases hrest : text.dropWhile isSchemeChar with
    | nil =>
      rw [hrest] at hdrop
      exact absurd (List.cons.inj hdrop).1 (by decide)
    | cons d rest' =>
      rw [hrest] at hdrop
      obtain ⟨rfl, rfl⟩ := List.cons.inj hdrop
      refine ⟨rest', readScheme_eq_some.2 ⟨c', text, rfl, halpha, hrest, ?_⟩, rfl⟩
      rw [takeWhile_append_stop hslash]

/-! ### Schemes of the web -/

/-- A special scheme, but not the one of files. -/
def isWeb (scheme : List Char) : Bool := isSpecial scheme && !isFile scheme

theorem isFile_of_isWeb {scheme : List Char} (h : isWeb scheme = true) : isFile scheme = false := by
  unfold isWeb at h
  simp only [Bool.and_eq_true, Bool.not_eq_true'] at h
  exact h.2

/-- The text of the authority, behind a scheme of the web. -/
def authorityText (scheme text : List Char) : List Char :=
  (text.dropWhile (isSlash scheme)).takeWhile fun c => !isAuthorityEnd scheme c

/-- What follows the authority. -/
def behindAuthority (scheme text : List Char) : List Char :=
  (text.dropWhile (isSlash scheme)).dropWhile fun c => !isAuthorityEnd scheme c

section Web

variable {toAscii : List UInt8 → Option (List Char)} {text scheme rest : List Char}

theorem parse_web (hscheme : readScheme (clean text) = some (scheme, rest))
    (hweb : isWeb scheme = true) : parse toAscii text none =
      (readAuthority toAscii scheme (authorityText scheme rest)).map fun authority =>
        withPath scheme authority (pathStart scheme (pathText (behindAuthority scheme rest)))
          (behindAuthority scheme rest) := by
  have hfile := isFile_of_isWeb hweb
  have hspecial : isSpecial scheme = true := by
    unfold isWeb at hweb
    exact (Bool.and_eq_true_iff.1 hweb).1
  unfold parse
  rw [hscheme]
  show absolute toAscii scheme rest = _
  unfold absolute behindSlashes authorityBehind
  rw [hfile, hspecial]
  simp only [Bool.false_eq_true, if_false, if_true, Option.map_map]
  rfl

/-- The scheme of a URL is read at its beginning. -/
theorem scheme_of_parse {url : Url} (h : parse toAscii text none = some url) :
    ∃ rest, readScheme (clean text) = some (url.scheme, rest) := by
  have hbehind : ∀ scheme text url, behindSlashes toAscii scheme text = some url →
      url.scheme = scheme := by
    intro scheme text url h
    obtain ⟨authority, -, rfl⟩ := Option.map_eq_some_iff.1 h
    rfl
  unfold parse at h
  cases hscheme : readScheme (clean text) with
  | none =>
    rw [hscheme] at h
    cases h
  | some read =>
    obtain ⟨scheme, rest⟩ := read
    rw [hscheme] at h
    replace h : absolute toAscii scheme rest = some url := h
    suffices heq : url.scheme = scheme from ⟨rest, by rw [heq]⟩
    unfold absolute at h
    split at h
    · next hfile =>
      have hname : scheme = "file".toList := by simpa [isFile] using hfile
      unfold absoluteFile at h
      dsimp only at h
      split at h
      · split at h
        · exact (hbehind _ _ _ h).trans hname.symm
        · obtain rfl := Option.some.inj h
          exact hname.symm
      · obtain rfl := Option.some.inj h
        exact hname.symm
    · split at h
      · exact hbehind _ _ _ h
      · split at h
        · exact hbehind _ _ _ h
        · obtain rfl := Option.some.inj h
          rfl
        · obtain rfl := Option.some.inj h
          rfl

end Web

/-! ### Paths below a path -/

section Below

variable {toAscii : List UInt8 → Option (List Char)} {scheme stem first last rest : List Char}

/-- A text of characters that stay as they are in a path, escapes among them. -/
def Stays (text : List Char) : Prop := ∀ c ∈ text, isUnreserved c = true ∨ c = '%'

theorem Stays.isSlash (h : Stays first) : ∀ c ∈ first, Url.isSlash scheme c = false := by
  intro c hc
  obtain ⟨hslash, hbackslash, -⟩ := stays_of_isUnreserved (h c hc)
  simp [Url.isSlash, hslash, hbackslash]

theorem Stays.isPathEnd (h : Stays first) : ∀ c ∈ first, Url.isPathEnd c = false := by
  intro c hc
  have hset := (stays_of_isUnreserved (h c hc)).2.2
  unfold Url.isPathEnd
  refine Bool.or_eq_false_iff.2 ⟨decide_eq_false ?_, decide_eq_false ?_⟩
  · rintro rfl
    exact absurd hset (by decide)
  · rintro rfl
    exact absurd hset (by decide)

theorem Stays.plain (h : Stays last) (hdots : isDots last = false) : Plain scheme last :=
  ⟨h.isSlash, percentEncode_eq_self fun c hc => (stays_of_isUnreserved (h c hc)).2.2, hdots⟩

theorem stays_encodeURIComponent (text : List Char) : Stays (encodeURIComponent text) :=
  fun _ => mem_encodeURIComponent

/-- A name that is a segment. -/
structure Word (text : List Char) : Prop where
  nonempty : text ≠ []
  unreserved : ∀ c ∈ text, isUnreserved c = true
  dots : isDots text = false

theorem Word.stays (h : Word first) : Stays first := fun c hc => Or.inl (h.unreserved c hc)

/-- The text behind the slashes, up to the first segment. -/
def upTo (scheme rest first : List Char) : List Char :=
  (rest ++ ['/']).dropWhile (isSlash scheme) ++ first

/-- Behind the authority: what there is up to the first segment. -/
def behind (scheme rest first : List Char) : List Char :=
  (upTo scheme rest first).dropWhile fun c => !isAuthorityEnd scheme c

/-- The authority of a text with two more segments ends before the second. -/
theorem parse_below (hfirst : Word first) (hread : readScheme (cleanStart stem) = some (scheme, rest))
    (hweb : isWeb scheme = true) {text more : List Char}
    (htext : clean text = cleanStart stem ++ '/' :: (first ++ '/' :: more)) :
    parse toAscii text none = (readAuthority toAscii scheme
      ((upTo scheme rest first).takeWhile fun c => !isAuthorityEnd scheme c)).map fun authority =>
        withPath scheme authority
          (pathStart scheme (pathText (behind scheme rest first ++ '/' :: more)))
          (behind scheme rest first ++ '/' :: more) := by
  have hscheme : readScheme (clean text) = some (scheme, rest ++ '/' :: (first ++ '/' :: more)) := by
    rw [htext]
    exact readScheme_append hread _
  have hdrop : (rest ++ '/' :: (first ++ '/' :: more)).dropWhile (isSlash scheme) =
      upTo scheme rest first ++ '/' :: more := by
    cases first with
    | nil => exact absurd rfl hfirst.nonempty
    | cons c cs =>
      have hc : isSlash scheme c = false := hfirst.stays.isSlash c List.mem_cons_self
      have happend : rest ++ '/' :: (c :: cs ++ '/' :: more) =
          (rest ++ ['/']) ++ c :: (cs ++ '/' :: more) := by simp
      rw [happend, dropWhile_append_stop hc]
      simp [upTo]
  have htake := @takeWhile_append_stop _ (fun c => !isAuthorityEnd scheme c) '/' rfl
    (upTo scheme rest first) more
  have hbehind := @dropWhile_append_stop _ (fun c => !isAuthorityEnd scheme c) '/' rfl
    (upTo scheme rest first) more
  rw [parse_web hscheme hweb]
  unfold authorityText behindAuthority behind
  rw [hdrop, htake, hbehind]

theorem behind_cases (scheme rest first : List Char) :
    behind scheme rest first = [] ∨ ∃ c more, behind scheme rest first = c :: more ∧
      isAuthorityEnd scheme c = true := by
  cases hbehind : behind scheme rest first with
  | nil => exact Or.inl rfl
  | cons c more =>
    have hhead := List.head?_dropWhile_not (fun c => !isAuthorityEnd scheme c)
      (upTo scheme rest first)
    unfold behind at hbehind
    rw [hbehind] at hhead
    exact Or.inr ⟨c, more, rfl, by simpa using hhead⟩

theorem Stays.not_isBlank (h : Stays first) : ∀ c ∈ first, isBlank c = false := by
  intro c hc
  have hset := (stays_of_isUnreserved (h c hc)).2.2
  unfold isBlank
  refine decide_eq_false fun hle => ?_
  have hsmall : ∀ n ≤ 0x20, pathSet (Char.ofNat n) = true := by decide
  have hpath := hsmall c.toNat hle
  rw [Char.ofNat_toNat, hset] at hpath
  cases hpath

/-- No tab and no line break is in the text. -/
theorem filter_eq_self_of_not_isBlank {text : List Char} (h : ∀ c ∈ text, isBlank c = false) :
    (text.filter fun c => !(['\t', '\n', '\r'].contains c)) = text := by
  refine List.filter_eq_self.2 fun c hc => ?_
  rw [Bool.not_eq_true']
  refine Bool.eq_false_iff.2 fun hcontains => ?_
  have hlist : ['\t', '\n', '\r'].all isBlank = true := by decide
  have hblank := List.all_eq_true.1 hlist c (List.contains_iff_mem.1 hcontains)
  rw [h c hc] at hblank
  cases hblank

theorem cleanEnd_eq_self {text : List Char} (h : ∀ c ∈ text, isBlank c = false) :
    cleanEnd text = text := by
  have hdrop : text.reverse.dropWhile isBlank = text.reverse := by
    cases hreverse : text.reverse with
    | nil => rfl
    | cons c cs =>
      have hmem : c ∈ text := List.mem_reverse.1 (hreverse ▸ List.mem_cons_self)
      exact List.dropWhile_cons_of_neg (by simp [h c hmem])
  unfold cleanEnd
  rw [hdrop, List.reverse_reverse, filter_eq_self_of_not_isBlank h]

theorem clean_below (hfirst : Word first) (hlast : Word last) :
    clean (stem ++ '/' :: (first ++ '/' :: last)) =
      cleanStart stem ++ '/' :: (first ++ '/' :: last) := by
  rw [clean_append_slash, cleanEnd_append rfl rfl, cleanEnd_eq_self hlast.stays.not_isBlank,
    filter_eq_self_of_not_isBlank hfirst.stays.not_isBlank]

theorem clean_child (hfirst : Word first) (hlast : Word last) (tail : List Char) :
    clean (stem ++ '/' :: (first ++ '/' :: (last ++ '/' :: tail))) =
      cleanStart stem ++ '/' :: (first ++ '/' :: (last ++ '/' :: cleanEnd tail)) := by
  rw [clean_append_slash, cleanEnd_append rfl rfl, cleanEnd_append rfl rfl,
    filter_eq_self_of_not_isBlank hfirst.stays.not_isBlank, filter_eq_self_of_not_isBlank hlast.stays.not_isBlank]

theorem pathText_append {before : List Char} (h : ∀ c ∈ before, isPathEnd c = false)
    (after : List Char) : pathText (before ++ after) = before ++ pathText after := by
  unfold pathText
  exact List.takeWhile_append_of_pos fun c hc => by simp [h c hc]

theorem pathText_append_of_end {before : List Char} (h : ∃ c ∈ before, isPathEnd c = true)
    (after : List Char) : pathText (before ++ after) = pathText before := by
  obtain ⟨c, hc, hend⟩ := h
  obtain ⟨start, rest, rfl⟩ := List.append_of_mem hc
  have hstop : (!isPathEnd c) = false := by rw [hend]; rfl
  have hboth := fun more => @takeWhile_append_stop _ (fun c => !isPathEnd c) c hstop start more
  unfold pathText
  rw [List.append_assoc, List.cons_append, hboth, hboth]

/-- The segments behind the last one of a path. -/
theorem pathStart_child {between : List Char} (hfile : isFile scheme = false)
    (hbetween : between = [] ∨ ∃ c more, between = c :: more ∧ isAuthorityEnd scheme c = true)
    (hends : ∀ c ∈ between, isPathEnd c = false) (hlast : Word last)
    (tail : List Char) :
    pathStart scheme (pathText (between ++ '/' :: (last ++ '/' :: tail))) =
      addSegments scheme (pathStart scheme (pathText (between ++ '/' :: last)))
        ((pathText tail).splitOnP (isSlash scheme)) := by
  have hslash : isSlash scheme '/' = true := rfl
  have hpath : ∀ after, pathText (between ++ '/' :: (last ++ after)) =
      between ++ '/' :: (last ++ pathText after) := by
    intro after
    rw [pathText_append hends]
    refine congrArg (between ++ ·) ?_
    have hcons : '/' :: (last ++ after) = ('/' :: last) ++ after := rfl
    rw [hcons, pathText_append]
    · rfl
    · intro c hc
      rcases List.mem_cons.1 hc with rfl | hc
      · rfl
      · exact hlast.stays.isPathEnd c hc
  have hsingle : last.splitOnP (isSlash scheme) = [last] := List.splitOnP_eq_singleton hlast.stays.isSlash
  have hsplit : ∀ more : List Char, (last ++ '/' :: more).splitOnP (isSlash scheme) =
      last :: more.splitOnP (isSlash scheme) := by
    intro more
    rw [List.splitOnP_append_cons _ _ hslash, hsingle]
    rfl
  have hlastOnly := hpath []
  rw [List.append_nil, show pathText [] = [] from rfl, List.append_nil] at hlastOnly
  rw [hpath, hlastOnly]
  have hchild : pathText ('/' :: tail) = '/' :: pathText tail := rfl
  rw [hchild]
  have hne := List.splitOnP_ne_nil (isSlash scheme) (pathText tail)
  rcases hbetween with rfl | ⟨c, more, rfl, hc⟩
  · show readPath scheme [] (last ++ '/' :: pathText tail) =
      addSegments scheme (readPath scheme [] last) _
    unfold readPath
    rw [hsplit, hsingle]
    exact addSegments_append (hlast.stays.plain hlast.dots) hfile [] [] _ hne
  · have hc : isSlash scheme c = true := by
      have hend := hends c List.mem_cons_self
      unfold isAuthorityEnd at hc
      rwa [hend, Bool.or_false] at hc
    have hstart : ∀ text : List Char, pathStart scheme (c :: text) = readPath scheme [] text :=
      fun text => if_pos hc
    rw [List.cons_append, List.cons_append, hstart, hstart]
    unfold readPath
    rw [List.splitOnP_append_cons more (last ++ '/' :: pathText tail) hslash, hsplit,
      List.splitOnP_append_cons more last hslash, hsingle]
    exact addSegments_append (hlast.stays.plain hlast.dots) hfile [] _ _ hne

theorem noQuery_iff {text : List Char} :
    readQuery scheme text = none ∧ readFragment text = none ↔
      ∀ c ∈ text, isPathEnd c = false := by
  constructor
  · rintro ⟨hquery, hfragment⟩ c hc
    unfold isPathEnd
    have hhash : '#' ∉ text := by
      intro hmem
      obtain ⟨before, after, rfl⟩ := List.append_of_mem hmem
      unfold readFragment at hfragment
      have hdrop := @dropWhile_append_stop _ (fun c : Char => decide (c ≠ '#')) '#' rfl before after
      rw [hdrop] at hfragment
      cases hbefore : before.dropWhile fun c : Char => decide (c ≠ '#') with
      | nil =>
        rw [hbefore] at hfragment
        cases hfragment
      | cons d more =>
        rw [hbefore] at hfragment
        cases hfragment
    have hmark : '?' ∉ text := by
      intro hmem
      unfold readQuery at hquery
      cases hdrop : text.dropWhile fun c => !isPathEnd c with
      | nil =>
        have hall := List.dropWhile_eq_nil_iff.1 hdrop '?' hmem
        cases hall
      | cons d more =>
        have hd := List.head?_dropWhile_not (fun c => !isPathEnd c) text
        rw [hdrop] at hquery hd
        have hd : isPathEnd d = true := by simpa using hd
        unfold isPathEnd at hd
        rcases Bool.or_eq_true_iff.1 hd with hd | hd
        · obtain rfl := of_decide_eq_true hd
          cases hquery
        · obtain rfl := of_decide_eq_true hd
          have hmore : '#' ∈ text := (List.dropWhile_suffix _).subset (hdrop ▸ List.mem_cons_self)
          exact hhash hmore
    refine Bool.or_eq_false_iff.2 ⟨decide_eq_false ?_, decide_eq_false ?_⟩
    · rintro rfl
      exact hmark hc
    · rintro rfl
      exact hhash hc
  · intro h
    have hdrop : text.dropWhile (fun c => !isPathEnd c) = [] :=
      List.dropWhile_eq_nil_iff.2 fun c hc => by simp [h c hc]
    have hdrop' : text.dropWhile (fun c : Char => decide (c ≠ '#')) = [] := by
      refine List.dropWhile_eq_nil_iff.2 fun c hc => ?_
      have hend := (Bool.or_eq_false_iff.1 (h c hc)).2
      simpa using hend
    unfold readQuery readFragment
    rw [hdrop, hdrop']
    exact ⟨rfl, rfl⟩

/-- What is behind a path goes to its URL as more segments, unless a query or a fragment stands
before it. -/
theorem parse_child (hfirst : Word first) (hlast : Word last)
    {base : Url} (hweb : isWeb base.scheme = true)
    (hbase : parse toAscii (stem ++ '/' :: (first ++ '/' :: last)) none = some base)
    (tail : List Char) :
    ∃ url, parse toAscii (stem ++ '/' :: (first ++ '/' :: (last ++ '/' :: tail))) none = some url ∧
      url.scheme = base.scheme ∧ url.authority = base.authority ∧ url.path = .segments
        (if base.query = none ∧ base.fragment = none then
          addSegments base.scheme base.path.list
            ((pathText (cleanEnd tail)).splitOnP (isSlash base.scheme))
        else base.path.list) := by
  obtain ⟨text, hscheme⟩ := scheme_of_parse hbase
  rw [clean_below hfirst hlast] at hscheme
  obtain ⟨rest, hread, -⟩ := readScheme_of_append_slash hscheme
  rw [parse_below hfirst hread hweb (clean_below hfirst hlast)] at hbase
  obtain ⟨authority, hauthority, hbase⟩ := Option.map_eq_some_iff.1 hbase
  have hurl := @parse_below toAscii _ _ _ _ hfirst hread hweb _ _ (clean_child hfirst hlast tail)
  rw [hauthority] at hurl
  have hsame : authority = base.authority := congrArg Url.authority hbase
  refine ⟨_, hurl, rfl, hsame, ?_⟩
  have hpath : base.path = .segments (pathStart base.scheme
      (pathText (behind base.scheme rest first ++ '/' :: last))) := congrArg Url.path hbase.symm
  have hquery : base.query = readQuery base.scheme
      (behind base.scheme rest first ++ '/' :: last) := congrArg Url.query hbase.symm
  have hfragment : base.fragment = readFragment
      (behind base.scheme rest first ++ '/' :: last) := congrArg Url.fragment hbase.symm
  show Path.segments _ = Path.segments _
  refine congrArg Path.segments ?_
  rw [hquery, hfragment, hpath]
  by_cases hends : ∀ c ∈ behind base.scheme rest first, isPathEnd c = false
  · have hall : ∀ c ∈ behind base.scheme rest first ++ '/' :: last, isPathEnd c = false := by
      intro c hc
      rcases List.mem_append.1 hc with hc | hc
      · exact hends c hc
      · rcases List.mem_cons.1 hc with rfl | hc
        · rfl
        · exact hlast.stays.isPathEnd c hc
    rw [if_pos (noQuery_iff.2 hall)]
    exact pathStart_child (isFile_of_isWeb hweb) (behind_cases _ _ _) hends hlast _
  · have hend : ∃ c ∈ behind base.scheme rest first, isPathEnd c = true := by
      simpa using hends
    have hnot : ¬ (readQuery base.scheme (behind base.scheme rest first ++ '/' :: last) = none ∧
        readFragment (behind base.scheme rest first ++ '/' :: last) = none) := fun hnone =>
      hends fun c hc => noQuery_iff.1 hnone c (List.mem_append_left _ hc)
    rw [if_neg hnot, pathText_append_of_end hend, pathText_append_of_end hend]
    rfl

/-- A text that goes on behind a path is a URL only if the text up to there is one. -/
theorem exists_base_of_child (hfirst : Word first) (hlast : Word last) {url : Url}
    {tail : List Char} (hweb : isWeb url.scheme = true)
    (hurl : parse toAscii (stem ++ '/' :: (first ++ '/' :: (last ++ '/' :: tail))) none = some url) :
    ∃ base, parse toAscii (stem ++ '/' :: (first ++ '/' :: last)) none = some base ∧
      base.scheme = url.scheme := by
  obtain ⟨text, hscheme⟩ := scheme_of_parse hurl
  rw [clean_child hfirst hlast] at hscheme
  obtain ⟨rest, hread, -⟩ := readScheme_of_append_slash hscheme
  rw [parse_below hfirst hread hweb (clean_child hfirst hlast tail)] at hurl
  obtain ⟨authority, hauthority, -⟩ := Option.map_eq_some_iff.1 hurl
  have hbase := @parse_below toAscii _ _ _ _ hfirst hread hweb _ _
    (@clean_below stem _ _ hfirst hlast)
  rw [hauthority] at hbase
  exact ⟨_, hbase, rfl⟩

/-! ### Segments that are written one after the other -/

theorem splitOnP_segments {first : List Char} {segments : List (List Char)} (hfirst : Stays first)
    (h : ∀ segment ∈ segments, Stays segment) :
    (first ++ segments.flatMap ('/' :: ·)).splitOnP (isSlash scheme) = first :: segments := by
  induction segments generalizing first with
  | nil =>
    rw [List.flatMap_nil, List.append_nil]
    exact List.splitOnP_eq_singleton hfirst.isSlash
  | cons segment segments ih =>
    have hnext := ih (h segment List.mem_cons_self)
      fun other hother => h other (List.mem_cons_of_mem _ hother)
    rw [List.flatMap_cons, List.cons_append,
      List.splitOnP_append_cons_of_forall_mem hfirst.isSlash '/' rfl, hnext]

theorem stays_segments {first : List Char} {segments : List (List Char)} (hfirst : Stays first)
    (h : ∀ segment ∈ segments, Stays segment) {c : Char}
    (hc : c ∈ first ++ segments.flatMap ('/' :: ·)) : isBlank c = false ∧ isPathEnd c = false := by
  rcases List.mem_append.1 hc with hc | hc
  · exact ⟨hfirst.not_isBlank c hc, hfirst.isPathEnd c hc⟩
  · obtain ⟨segment, hsegment, hc⟩ := List.mem_flatMap.1 hc
    rcases List.mem_cons.1 hc with rfl | hc
    · exact ⟨rfl, rfl⟩
    · exact ⟨(h segment hsegment).not_isBlank c hc, (h segment hsegment).isPathEnd c hc⟩

/-- The segments of a path that stands before a query, or at the end. -/
theorem splitOnP_pathText {first : List Char} {segments : List (List Char)} (hfirst : Stays first)
    (h : ∀ segment ∈ segments, Stays segment) {query : List Char}
    (hquery : query = [] ∨ ∃ more, query = '?' :: more) :
    (pathText (cleanEnd (first ++ segments.flatMap ('/' :: ·) ++ query))).splitOnP
      (isSlash scheme) = first :: segments := by
  have hblank : ∀ c ∈ first ++ segments.flatMap ('/' :: ·), isBlank c = false :=
    fun c hc => (stays_segments hfirst h hc).1
  have hend : ∀ c ∈ first ++ segments.flatMap ('/' :: ·), isPathEnd c = false :=
    fun c hc => (stays_segments hfirst h hc).2
  have hpath : pathText (cleanEnd (first ++ segments.flatMap ('/' :: ·) ++ query)) =
      first ++ segments.flatMap ('/' :: ·) := by
    rcases hquery with rfl | ⟨more, rfl⟩
    · have hall := pathText_append hend []
      rw [List.append_nil] at hall ⊢
      rw [cleanEnd_eq_self hblank, hall]
      exact List.append_nil _
    · rw [cleanEnd_append rfl rfl, filter_eq_self_of_not_isBlank hblank, pathText_append hend]
      exact List.append_nil _
  rw [hpath, splitOnP_segments hfirst h]

end Below

end Url
