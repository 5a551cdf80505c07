import Mathlib.Tactic

/-!
# Decoding UTF-8 that may be cut

`decode` reads bytes as UTF-8, with `U+FFFD` for each maximal part of an ill-formed sequence, so that
every list of bytes is read as some text.

* `decode_encode_append`: a character that is whole is read as itself;
* `Garbled`: a text with `U+FFFD` in the place of some of its characters that are no ASCII;
* `garbled_of_flatten`: bytes of a text that are read in pieces give such a text, and
  `decode_pieces_of_whole` the text itself where no piece ends inside a character.
-/

namespace Utf8

/-- `U+FFFD` -/
def replacement : Char := '\uFFFD'

def encode (text : List Char) : List UInt8 := text.flatMap String.utf8EncodeChar

/-- How many bytes follow the first byte of a sequence. -/
def needed (b : UInt8) : ℕ :=
  if 0xC2 ≤ b ∧ b ≤ 0xDF then 1
  else if 0xE0 ≤ b ∧ b ≤ 0xEF then 2
  else if 0xF0 ≤ b ∧ b ≤ 0xF4 then 3
  else 0

/-- Whether a second byte makes no overlong form, no surrogate and nothing above `U+10FFFF`. -/
def isSecond (b second : UInt8) : Bool :=
  (if b = 0xE0 then 0xA0 else if b = 0xF0 then 0x90 else 0x80) ≤ second &&
    second ≤ (if b = 0xED then 0x9F else if b = 0xF4 then 0x8F else 0xBF)

def isContinuation (b : UInt8) : Bool := 0x80 ≤ b && b ≤ 0xBF

/-- How many of the bytes after the first byte of an ill-formed sequence are replaced with it. -/
def continued (b : UInt8) : List UInt8 → ℕ
  | [] => 0
  | second :: bytes =>
    if needed b = 0 || !isSecond b second then 0
    else 1 + ((bytes.take (needed b - 1)).takeWhile isContinuation).length

/-- The text that the bytes are read as. -/
def decode : List UInt8 → List Char
  | [] => []
  | b :: bytes =>
    match (b :: bytes).toByteArray.utf8DecodeChar? 0 with
    | some c => c :: decode (bytes.drop (c.utf8Size - 1))
    | none => replacement :: decode (bytes.drop (continued b bytes))
termination_by bytes => bytes.length
decreasing_by
  · simp only [List.length_drop, List.length_cons]
    omega
  · simp only [List.length_drop, List.length_cons]
    omega

/-! ### Whole characters -/

theorem decode_nil : decode [] = [] := by
  unfold decode
  rfl

theorem encode_cons (c : Char) (text : List Char) :
    encode (c :: text) = String.utf8EncodeChar c ++ encode text := List.flatMap_cons

theorem utf8EncodeChar_ne_nil (c : Char) : String.utf8EncodeChar c ≠ [] := by
  refine List.ne_nil_of_length_pos ?_
  rw [String.length_utf8EncodeChar]
  exact c.utf8Size_pos

/-- A character that is whole is read as itself. -/
theorem decode_encodeChar_append (c : Char) (bytes : List UInt8) :
    decode (String.utf8EncodeChar c ++ bytes) = c :: decode bytes := by
  cases hc : String.utf8EncodeChar c with
  | nil => exact absurd hc (utf8EncodeChar_ne_nil c)
  | cons b tail =>
    have hlength : tail.length = c.utf8Size - 1 := by
      have h := String.length_utf8EncodeChar c
      rw [hc, List.length_cons] at h
      omega
    have hdecode : (b :: (tail ++ bytes)).toByteArray.utf8DecodeChar? 0 = some c := by
      rw [← List.cons_append, ← hc, List.toByteArray_append]
      exact ByteArray.utf8DecodeChar?_utf8EncodeChar_append
    rw [List.cons_append, decode, hdecode]
    show c :: decode ((tail ++ bytes).drop (c.utf8Size - 1)) = _
    rw [← hlength, List.drop_left]

theorem decode_encode_append (text : List Char) (bytes : List UInt8) :
    decode (encode text ++ bytes) = text ++ decode bytes := by
  induction text with
  | nil => rfl
  | cons c text ih =>
    rw [encode_cons, List.append_assoc, decode_encodeChar_append, ih, List.cons_append]

theorem decode_encode (text : List Char) : decode (encode text) = text := by
  have h := decode_encode_append text []
  rwa [decode_nil, List.append_nil, List.append_nil] at h

/-- Pieces that are whole are read as what they are pieces of. -/
theorem decode_pieces_of_whole {text : List Char} {pieces : List (List UInt8)}
    (hwhole : ∀ piece ∈ pieces, ∃ part, piece = encode part)
    (h : pieces.flatten = encode text) : pieces.flatMap decode = text := by
  have hpieces : encode (pieces.flatMap decode) = pieces.flatten := by
    clear h
    induction pieces with
    | nil => rfl
    | cons piece pieces ih =>
      obtain ⟨part, rfl⟩ := hwhole piece List.mem_cons_self
      have hrest := ih fun piece hpiece => hwhole piece (List.mem_cons_of_mem _ hpiece)
      rw [List.flatMap_cons, List.flatten_cons, decode_encode, ← hrest]
      exact List.flatMap_append
  rw [← decode_encode text, ← h, ← hpieces, decode_encode]

/-! ### Parts of characters -/

set_option maxRecDepth 4000 in
theorem needed_of_not_first {b : UInt8} (h : ¬ b.IsUTF8FirstByte) : needed b = 0 := by
  have hall : ∀ n < 256, ¬ (UInt8.ofNat n).IsUTF8FirstByte → needed (UInt8.ofNat n) = 0 := by
    decide
  have hb := hall b.toNat b.toNat_lt
  rw [UInt8.ofNat_toNat] at hb
  exact hb h

/-- A byte that begins no sequence is replaced. -/
theorem decode_stray {b : UInt8} (h : ¬ b.IsUTF8FirstByte) (bytes : List UInt8) :
    decode (b :: bytes) = replacement :: decode bytes := by
  have hdecode : (b :: bytes).toByteArray.utf8DecodeChar? 0 = none := by
    rw [← Option.not_isSome_iff_eq_none]
    intro hsome
    exact h (by simpa using ByteArray.isUTF8FirstByte_of_isSome_utf8DecodeChar? hsome)
  have hcontinued : continued b bytes = 0 := by
    unfold continued
    cases bytes with
    | nil => rfl
    | cons second bytes => simp [needed_of_not_first h]
  rw [decode, hdecode]
  show replacement :: decode (bytes.drop (continued b bytes)) = _
  rw [hcontinued, List.drop_zero]

theorem decode_strays {bytes : List UInt8} (h : ∀ b ∈ bytes, ¬ b.IsUTF8FirstByte) :
    decode bytes = List.replicate bytes.length replacement := by
  induction bytes with
  | nil => exact decode_nil
  | cons b bytes ih =>
    rw [decode_stray (h b List.mem_cons_self), ih fun b hb => h b (List.mem_cons_of_mem _ hb)]
    rfl

/-- Only the first byte of a character begins a sequence. -/
theorem not_first_of_mem_tail {c : Char} {b : UInt8} {tail : List UInt8}
    (hc : String.utf8EncodeChar c = b :: tail) : ∀ b' ∈ tail, ¬ b'.IsUTF8FirstByte := by
  intro b' hb'
  obtain ⟨i, hi, rfl⟩ := List.mem_iff_getElem.1 hb'
  have hlength : i + 1 < (String.utf8EncodeChar c).length := by
    rw [hc, List.length_cons]
    omega
  have hget : (String.utf8EncodeChar c)[i + 1] = tail[i] := by simp [hc]
  rw [← hget, UInt8.isUTF8FirstByte_getElem_utf8EncodeChar]
  omega

/-- The beginning of a character is replaced, as a whole or byte by byte. -/
theorem decode_beginning {c : Char} {b : UInt8} {begun rest : List UInt8}
    (hc : String.utf8EncodeChar c = b :: begun ++ rest) (hrest : rest ≠ []) :
    ∃ n, decode (b :: begun) = List.replicate (n + 1) replacement := by
  have hdecode : (b :: begun).toByteArray.utf8DecodeChar? 0 = none := by
    rw [Option.eq_none_iff_forall_ne_some]
    intro c' hc'
    obtain ⟨bytes, hbytes⟩ := ByteArray.exists_of_utf8DecodeChar?_eq_some hc'
    -- the character would be the whole one, and that is longer
    obtain rfl : c' = c := by
      have hwhole : (String.utf8EncodeChar c).toByteArray.utf8DecodeChar? 0 = some c' := by
        rw [hc, List.toByteArray_append, hbytes, ByteArray.append_assoc]
        exact ByteArray.utf8DecodeChar?_utf8EncodeChar_append
      have hself := ByteArray.utf8DecodeChar?_utf8EncodeChar_append (b := ByteArray.empty) (c := c)
      rw [ByteArray.append_empty, hwhole] at hself
      exact Option.some.inj hself
    have hsize := congrArg ByteArray.size hbytes
    have hlength := congrArg List.length hc
    rw [ByteArray.size_append, List.size_toByteArray, List.size_toByteArray] at hsize
    rw [List.length_append] at hlength
    have hpos := List.length_pos_of_ne_nil hrest
    omega
  have hbegun : ∀ b' ∈ begun, ¬ b'.IsUTF8FirstByte := fun b' hb' =>
    not_first_of_mem_tail hc b' (List.mem_append_left rest hb')
  rw [decode, hdecode]
  show ∃ n, replacement :: decode (begun.drop (continued b begun)) = _
  rw [decode_strays fun b' hb' => hbegun b' (List.mem_of_mem_drop hb')]
  exact ⟨_, rfl⟩

/-! ### Pieces -/

/-- A text with `U+FFFD`, once or more, in the place of some of its characters that take more than one
byte. -/
inductive Garbled : List Char → List Char → Prop
  | nil : Garbled [] []
  | whole {c : Char} {text garbled : List Char} (h : Garbled text garbled) :
      Garbled (c :: text) (c :: garbled)
  | cut {c : Char} {text garbled : List Char} {n : ℕ} (hc : 1 < c.utf8Size)
      (h : Garbled text garbled) :
      Garbled (c :: text) (List.replicate (n + 1) replacement ++ garbled)

/-- What is left of a character that was cut, and the text after it, in pieces of which the first is
read up to some byte. -/
theorem garbled_of_left (pieces : List (List UInt8)) (piece left : List UInt8) (text : List Char)
    (hleft : ∀ b ∈ left, ¬ b.IsUTF8FirstByte)
    (h : piece ++ pieces.flatten = left ++ encode text) :
    ∃ n garbled, decode piece ++ pieces.flatMap decode = List.replicate n replacement ++ garbled ∧
      Garbled text garbled ∧ (left = [] → n = 0) := by
  match pieces, piece, left with
  | [], [], left =>
    obtain ⟨rfl, htext⟩ := List.append_eq_nil_iff.1 h.symm
    cases text with
    | nil => exact ⟨0, [], by rw [decode_nil]; rfl, .nil, fun _ => rfl⟩
    | cons c text =>
      rw [encode_cons, List.append_eq_nil_iff] at htext
      exact absurd htext.1 (utf8EncodeChar_ne_nil c)
  | piece :: pieces, [], left =>
    obtain ⟨n, garbled, heq, hgarbled, hn⟩ := garbled_of_left pieces piece left text hleft h
    exact ⟨n, garbled, by rw [decode_nil, List.flatMap_cons, List.nil_append, heq], hgarbled, hn⟩
  | pieces, b :: piece, b' :: left =>
    obtain ⟨rfl, htail⟩ := List.cons.inj h
    obtain ⟨n, garbled, heq, hgarbled, -⟩ := garbled_of_left pieces piece left text
      (fun b hb => hleft b (List.mem_cons_of_mem _ hb)) htail
    refine ⟨n + 1, garbled, ?_, hgarbled, fun hnil => by cases hnil⟩
    rw [decode_stray (hleft b List.mem_cons_self), List.cons_append, heq]
    rfl
  | pieces, b :: piece, [] =>
    cases text with
    | nil => cases h
    | cons c text =>
      rw [List.nil_append, encode_cons] at h
      rcases List.append_eq_append_iff.1 h with ⟨rest, hrest, hpieces⟩ | ⟨after, hafter, htext⟩
      · cases rest with
        | nil =>
          -- the piece ends with the character
          obtain ⟨n, garbled, heq, hgarbled, hn⟩ := garbled_of_left pieces [] [] text (by simp) hpieces
          obtain rfl := hn rfl
          rw [List.append_nil] at hrest
          have hwhole := decode_encodeChar_append c []
          rw [List.append_nil] at hwhole
          refine ⟨0, c :: garbled, ?_, .whole hgarbled, fun _ => rfl⟩
          rw [← hrest, hwhole, List.cons_append, heq]
          rfl
        | cons first rest =>
          -- the piece ends inside the character
          obtain ⟨k, hk⟩ := decode_beginning hrest (List.cons_ne_nil first rest)
          obtain ⟨n, garbled, heq, hgarbled, -⟩ := garbled_of_left pieces [] (first :: rest) text
            (fun b' hb' => not_first_of_mem_tail hrest b' (List.mem_append_right _ hb')) hpieces
          refine ⟨0, List.replicate (k + n + 1) replacement ++ garbled, ?_, .cut ?_ hgarbled,
            fun _ => rfl⟩
          · rw [decode_nil, List.nil_append] at heq
            rw [hk, heq, ← List.append_assoc, List.replicate_append_replicate, List.replicate_zero,
              List.nil_append, show k + 1 + n = k + n + 1 by omega]
          · have hlength := congrArg List.length hrest
            rw [String.length_utf8EncodeChar, List.length_append, List.length_cons,
              List.length_cons] at hlength
            omega
      · -- the character is whole, and the piece goes on
        obtain ⟨n, garbled, heq, hgarbled, hn⟩ := garbled_of_left pieces after [] text (by simp)
          htext.symm
        obtain rfl := hn rfl
        refine ⟨0, c :: garbled, ?_, .whole hgarbled, fun _ => rfl⟩
        rw [hafter, decode_encodeChar_append, List.cons_append, heq]
        rfl
termination_by (pieces.length, piece.length)
decreasing_by
  · exact Prod.Lex.left _ _ (Nat.lt_succ_self _)
  · exact Prod.Lex.right _ (Nat.lt_succ_self _)
  · exact Prod.Lex.right _ (Nat.succ_pos _)
  · exact Prod.Lex.right _ (Nat.succ_pos _)
  · refine Prod.Lex.right _ ?_
    have hlength := congrArg List.length hafter
    have hpos := List.length_pos_of_ne_nil (utf8EncodeChar_ne_nil c)
    rw [List.length_append] at hlength
    omega

/-- The bytes of a text, read in pieces. -/
theorem garbled_of_flatten {text : List Char} {pieces : List (List UInt8)}
    (h : pieces.flatten = encode text) : Garbled text (pieces.flatMap decode) := by
  obtain ⟨n, garbled, heq, hgarbled, hn⟩ := garbled_of_left pieces [] [] text (by simp) h
  obtain rfl := hn rfl
  rw [decode_nil, List.replicate_zero, List.nil_append, List.nil_append] at heq
  rwa [heq]

/-- A character that stays, or a replacement for it. -/
theorem Garbled.mem {text garbled : List Char} (h : Garbled text garbled) {c : Char} (hc : c ∈ text) :
    c ∈ garbled ∨ replacement ∈ garbled := by
  induction h with
  | nil => cases hc
  | whole h ih =>
    rcases List.mem_cons.1 hc with rfl | hc
    · exact Or.inl List.mem_cons_self
    · exact (ih hc).imp (List.mem_cons_of_mem _) (List.mem_cons_of_mem _)
  | cut hsize h ih =>
    refine Or.inr (List.mem_append_left _ ?_)
    rw [List.mem_replicate]
    exact ⟨Nat.succ_ne_zero _, rfl⟩

end Utf8
