import IdmMw.Diagnostics.LogBuffer
import IdmMw.Library.Split

/-!
# The log stream and its chunks

The bytes of a text, cut into chunks, are written to the `LogBufferStream`: which events are appended.

* `content`, `lineEvent`: an event apart from its identifier, and what a line is read as;
* `appended_eq`: the events are those of the lines of the text that the chunks are decoded to, chunk by
  chunk;
* `Survives`, `independent_iff`: the cuttings that make no difference, and `survives_of_whole`.

A chunk that ends inside a character is decoded by itself, so the character is lost.
-/

namespace IdmMw.LogBufferStream

open RuntimeLogBuffer

variable {js : LogRuntime}

/-! ### The events of lines -/

/-- An event, apart from its identifier. -/
def content (event : BufferedLogEvent) : BufferedLogEvent := { event with id := 0 }

/-- The event of a record that is kept, apart from its identifier. -/
def recordEvent (js : LogRuntime) (value : Json) : Option BufferedLogEvent :=
  (RuntimeLogBuffer.normalize js 0 value).1.toOption

/-- What a line is read as: nothing, a record, or a message. -/
def lineEvent (js : LogRuntime) (line : List Char) : Option BufferedLogEvent :=
  if trimChars line = [] then none
  else some (((js.parse (String.ofList (trimChars line))).bind (recordEvent js)).getD
    (normalizeAt js 0 (plainRecord (trimChars line)) none))

/-- The identifier has no part in the rest of an event. -/
theorem normalize_content (nextId : ℕ) (value : Json) :
    (RuntimeLogBuffer.normalize js nextId value).1.toOption.map content = recordEvent js value := by
  unfold recordEvent RuntimeLogBuffer.normalize
  split
  · rfl
  · split
    · split <;> rfl
    · rfl

theorem append_content (js : LogRuntime) (buffer : RuntimeLogBuffer) (value : Json) :
    (buffer.append js value).1.toOption.map content = recordEvent js value := by
  rw [← normalize_content buffer.nextId value]
  unfold append
  split
  · next h => rw [h]
  · next h => rw [h]

/-- A message is kept. -/
theorem recordEvent_plainRecord (trimmed : List Char) :
    recordEvent js (plainRecord trimmed) = some (normalizeAt js 0 (plainRecord trimmed) none) := rfl

/-- What a line that is no record appends. -/
theorem append_plainRecord_content (buffer : RuntimeLogBuffer) (trimmed : List Char) :
    (match buffer.append js (plainRecord trimmed) with
      | (.ok event, buffer) => ([event], buffer)
      | (.error _, buffer) => ([], buffer) : List BufferedLogEvent × RuntimeLogBuffer).1.map
        content =
    [normalizeAt js 0 (plainRecord trimmed) none] := by
  have happend := append_content js buffer (plainRecord trimmed)
  rw [recordEvent_plainRecord] at happend
  rcases hresult : buffer.append js (plainRecord trimmed) with ⟨e | event, after⟩
  · rw [hresult] at happend
    cases happend
  · rw [hresult] at happend
    exact congrArg (fun event => [event]) (Option.some.inj happend)

/-- What a line appends. -/
theorem appendLine_content (buffer : RuntimeLogBuffer) (line : List Char) :
    (appendLine js buffer line).1.map content = (lineEvent js line).toList := by
  unfold appendLine lineEvent
  split
  · rfl
  · cases hparse : js.parse (String.ofList (trimChars line)) with
    | none => exact append_plainRecord_content buffer (trimChars line)
    | some value =>
      have happend := append_content js buffer value
      rcases hresult : buffer.append js value with ⟨e | event, after⟩
      · rw [hresult] at happend
        simp only [hresult, Option.bind_some, ← happend]
        exact append_plainRecord_content after (trimChars line)
      · rw [hresult] at happend
        simp only [hresult, Option.bind_some, ← happend]
        rfl

theorem appendLines_content (buffer : RuntimeLogBuffer) (lines : List (List Char)) :
    (appendLines js buffer lines).1.map content = lines.filterMap (lineEvent js) := by
  induction lines generalizing buffer with
  | nil => rfl
  | cons line lines ih =>
    unfold appendLines
    dsimp only
    rw [List.map_append, appendLine_content, ih, List.filterMap_cons]
    cases lineEvent js line <;> rfl

/-! ### The events of chunks -/

/-- The lines of a text that are ended. -/
def ended (text : List Char) : List (List Char) := (text.splitOn '\n').dropLast

/-- The chunks append what the lines are read as of the text that they are decoded to. -/
theorem writeAll_content {pending : List Char} (hpending : ended pending = [])
    (buffer : RuntimeLogBuffer) (chunks : List (List UInt8)) :
    (writeAll js ⟨pending⟩ buffer chunks).1.map content =
      (ended (pending ++ chunks.flatMap Utf8.decode)).filterMap (lineEvent js) := by
  induction chunks generalizing pending buffer with
  | nil =>
    rw [List.flatMap_nil, List.append_nil, hpending]
    rfl
  | cons chunk chunks ih =>
    unfold writeAll write
    dsimp only
    have hlast : ended (((pending ++ Utf8.decode chunk).splitOn '\n').getLastD []) = [] := by
      unfold ended
      rw [List.splitOn_getLastD]
      rfl
    rw [List.map_append, appendLines_content, ih hlast, List.flatMap_cons, ← List.append_assoc]
    unfold ended
    rw [List.splitOn_append '\n' (pending ++ Utf8.decode chunk),
      List.dropLast_append_of_ne_nil (List.splitOn_ne_nil _ _), List.filterMap_append]

/-- The chunks, written to a new stream. -/
def appended (js : LogRuntime) (buffer : RuntimeLogBuffer) (chunks : List (List UInt8)) :
    List BufferedLogEvent :=
  (writeAll js ⟨[]⟩ buffer chunks).1

theorem appended_eq (buffer : RuntimeLogBuffer) (chunks : List (List UInt8)) :
    (appended js buffer chunks).map content =
      (ended (chunks.flatMap Utf8.decode)).filterMap (lineEvent js) :=
  writeAll_content rfl buffer chunks

/-! ### Lines with characters that are cut -/

theorem forall₂_modifyHead {α : Type} {R : α → α → Prop} {f g : α → α}
    (hfg : ∀ x y, R x y → R (f x) (g y)) {xs ys : List α} (h : List.Forall₂ R xs ys) :
    List.Forall₂ R (xs.modifyHead f) (ys.modifyHead g) := by
  cases h with
  | nil => exact .nil
  | cons hfirst hrest => exact .cons (hfg _ _ hfirst) hrest

/-- Lines of a text and lines of what is left of it correspond. -/
theorem forall₂_splitOn_of_garbled {text garbled : List Char} (h : Utf8.Garbled text garbled) :
    List.Forall₂ Utf8.Garbled (text.splitOn '\n') (garbled.splitOn '\n') := by
  induction h with
  | nil => exact .cons .nil .nil
  | @whole c text garbled h ih =>
    rw [List.splitOn_cons_eq_if_modifyHead, List.splitOn_cons_eq_if_modifyHead]
    split
    · exact .cons .nil ih
    · exact forall₂_modifyHead (fun _ _ h => .whole h) ih
  | @cut c text garbled n hsize h ih =>
    have hc : ¬ (c == '\n') = true := by
      rw [beq_iff_eq]
      rintro rfl
      exact absurd hsize (by decide)
    have hreplaced : '\n' ∉ List.replicate (n + 1) Utf8.replacement := by
      rw [List.mem_replicate]
      rintro ⟨-, h⟩
      exact absurd h (by decide)
    rw [List.splitOn_cons_eq_if_modifyHead, if_neg hc, List.splitOn_append_of_not_mem hreplaced]
    exact forall₂_modifyHead (fun _ _ h => .cut hsize h) ih

theorem trimChars_eq_nil_iff {line : List Char} :
    trimChars line = [] ↔ ∀ c ∈ line, isSpace c = true := by
  unfold trimChars
  rw [List.reverse_eq_nil_iff, List.dropWhile_eq_nil_iff]
  constructor
  · intro h
    by_cases hnil : line.dropWhile isSpace = []
    · exact List.dropWhile_eq_nil_iff.1 hnil
    · have hhead := List.head?_dropWhile_not isSpace line
      obtain ⟨c, rest, hrest⟩ := List.exists_cons_of_ne_nil hnil
      rw [hrest] at h hhead
      have hspace := h c (List.mem_reverse.2 List.mem_cons_self)
      simp [hspace] at hhead
  · intro h c hc
    exact h c ((List.dropWhile_sublist _).subset (List.mem_reverse.1 hc))

/-- A line that is not blank stays so. -/
theorem isSome_lineEvent_of_garbled {line garbled : List Char} (h : Utf8.Garbled line garbled)
    (hline : (lineEvent js line).isSome = true) : (lineEvent js garbled).isSome = true := by
  have hblank : trimChars line ≠ [] := by
    intro hblank
    rw [lineEvent, if_pos hblank] at hline
    cases hline
  have hkept : trimChars garbled ≠ [] := by
    rw [ne_eq, trimChars_eq_nil_iff]
    intro hspaces
    refine hblank (trimChars_eq_nil_iff.2 fun c hc => ?_)
    rcases h.mem hc with hmem | hmem
    · exact hspaces c hmem
    · exact absurd (hspaces _ hmem) (by decide)
  rw [lineEvent, if_neg hkept]
  rfl

/-- Of two lists whose entries correspond, of which the second keeps what the first keeps, the same is
kept only if the entries agree. -/
theorem forall₂_eq_of_filterMap_eq {α β : Type} {f : α → Option β} {xs ys : List α}
    (h : List.Forall₂ (fun x y => (f x).isSome = true → (f y).isSome = true) xs ys)
    (heq : ys.filterMap f = xs.filterMap f) : List.Forall₂ (fun x y => f y = f x) xs ys := by
  have hle : ∀ {xs ys : List α},
      List.Forall₂ (fun x y => (f x).isSome = true → (f y).isSome = true) xs ys →
      (xs.filterMap f).length ≤ (ys.filterMap f).length := by
    intro xs ys h
    induction h with
    | nil => exact le_rfl
    | @cons x y xs ys hxy _ ih =>
      cases hx : f x with
      | none =>
        rw [List.filterMap_cons_none hx]
        exact ih.trans ((List.sublist_cons_self y ys).filterMap f).length_le
      | some b =>
        obtain ⟨b', hy⟩ := Option.isSome_iff_exists.1 (hxy (by rw [hx]; rfl))
        rw [List.filterMap_cons_some hx, List.filterMap_cons_some hy]
        exact Nat.succ_le_succ ih
  induction h with
  | nil => exact .nil
  | @cons x y xs ys hxy hrest ih =>
    cases hx : f x with
    | none =>
      rw [List.filterMap_cons_none hx] at heq
      cases hy : f y with
      | none =>
        rw [List.filterMap_cons_none hy] at heq
        exact .cons (by rw [hx, hy]) (ih heq)
      | some b =>
        have hlength := hle hrest
        rw [← heq, List.filterMap_cons_some hy, List.length_cons] at hlength
        omega
    | some b =>
      obtain ⟨b', hy⟩ := Option.isSome_iff_exists.1 (hxy (by rw [hx]; rfl))
      rw [List.filterMap_cons_some hx, List.filterMap_cons_some hy] at heq
      obtain ⟨rfl, htail⟩ := List.cons.inj heq
      exact .cons (by rw [hx, hy]) (ih htail)

theorem filterMap_eq_of_forall₂ {α β : Type} {f : α → Option β} {xs ys : List α}
    (h : List.Forall₂ (fun x y => f y = f x) xs ys) : ys.filterMap f = xs.filterMap f := by
  induction h with
  | nil => rfl
  | cons hxy _ ih => rw [List.filterMap_cons, List.filterMap_cons, hxy, ih]

/-! ### Cuttings -/

/-- The bytes of a text, in chunks. -/
structure Cutting (text : List Char) where
  chunks : List (List UInt8)
  flatten_eq : chunks.flatten = Utf8.encode text

variable {text : List Char}

/-- A text that ends in a line break. -/
abbrev terminated (text : List Char) : List Char := text ++ ['\n']

theorem ended_terminated (text : List Char) : ended (terminated text) = text.splitOn '\n' := by
  unfold ended
  rw [List.splitOn_append_cons_self, List.splitOn_nil, List.dropLast_concat]

/-- The chunks append the events that the text appends in one piece: one for each line of it that is
not blank. -/
def Independent (js : LogRuntime) (text : List Char) (cutting : Cutting (terminated text)) : Prop :=
  ∀ buffer : RuntimeLogBuffer,
    (appended js buffer cutting.chunks).map content =
        (appended js buffer [Utf8.encode (terminated text)]).map content ∧
      (appended js buffer cutting.chunks).map content =
        (text.splitOn '\n').filterMap (lineEvent js)

/-- Every line is read as the same, with `U+FFFD` in the place of the characters that are cut. -/
def Survives (js : LogRuntime) (text : List Char) (cutting : Cutting (terminated text)) : Prop :=
  List.Forall₂ (fun line garbled => lineEvent js garbled = lineEvent js line) (text.splitOn '\n')
    (ended (cutting.chunks.flatMap Utf8.decode))

/-- No chunk ends inside a character. -/
def Cutting.IsWhole (cutting : Cutting text) : Prop :=
  ∀ chunk ∈ cutting.chunks, ∃ part, chunk = Utf8.encode part

theorem independent_iff_filterMap {cutting : Cutting (terminated text)} :
    Independent js text cutting ↔
      (ended (cutting.chunks.flatMap Utf8.decode)).filterMap (lineEvent js) =
        (text.splitOn '\n').filterMap (lineEvent js) := by
  unfold Independent
  have hone : [Utf8.encode (terminated text)].flatMap Utf8.decode = terminated text := by
    rw [List.flatMap_singleton, Utf8.decode_encode]
  simp only [appended_eq, hone, ended_terminated, and_self]
  exact ⟨fun h => h RuntimeLogBuffer.empty, fun h _ => h⟩

theorem forall₂_ended (cutting : Cutting (terminated text)) :
    List.Forall₂ Utf8.Garbled (text.splitOn '\n') (ended (cutting.chunks.flatMap Utf8.decode)) := by
  have hlines := forall₂_splitOn_of_garbled (Utf8.garbled_of_flatten cutting.flatten_eq)
  rw [← ended_terminated]
  unfold ended
  rw [List.dropLast_eq_take, List.dropLast_eq_take, hlines.length_eq]
  exact List.forall₂_take _ hlines

/-- Where no character is cut, the lines are the same. -/
theorem survives_of_whole {cutting : Cutting (terminated text)} (h : cutting.IsWhole) :
    Survives js text cutting := by
  unfold Survives
  rw [Utf8.decode_pieces_of_whole h cutting.flatten_eq, ended_terminated]
  exact List.forall₂_same.2 fun _ _ => rfl

/-- The chunks make no difference if and only if each line survives them; it does where no chunk ends
inside a character. -/
theorem independent_iff (js : LogRuntime) (text : List Char) (cutting : Cutting (terminated text)) :
    (Independent js text cutting ↔ Survives js text cutting) ∧
      (cutting.IsWhole → Survives js text cutting) := by
  refine ⟨?_, survives_of_whole⟩
  rw [independent_iff_filterMap]
  constructor
  · refine forall₂_eq_of_filterMap_eq ?_
    exact (forall₂_ended cutting).imp fun _ _ => isSome_lineEvent_of_garbled
  · exact filterMap_eq_of_forall₂

/-! ### A character that is cut -/

/-- A language in which no line is JSON. -/
def plainRuntime : LogRuntime where
  toRuntime := Runtime.ascii
  parse _ := none
  isoText _ := ""

/-- `é` and a line break, cut inside the character. -/
def cutCharacter : Cutting (terminated ['é']) where
  chunks := [[0xC3], [0xA9, 0x0A]]
  flatten_eq := by decide

theorem decode_cutCharacter : cutCharacter.chunks.flatMap Utf8.decode =
    [Utf8.replacement, Utf8.replacement, '\n'] := by
  have hbegun : ([0xC3] : List UInt8).toByteArray.utf8DecodeChar? 0 = none := by decide
  have hfirst : Utf8.decode [0xC3] = [Utf8.replacement] := by
    rw [Utf8.decode, hbegun]
    exact congrArg _ Utf8.decode_nil
  have hsecond : Utf8.decode [0xA9, 0x0A] = [Utf8.replacement, '\n'] := by
    rw [Utf8.decode_stray (by decide)]
    exact congrArg _ (Utf8.decode_encode ['\n'])
  show Utf8.decode [0xC3] ++ (Utf8.decode [0xA9, 0x0A] ++ []) = _
  rw [hfirst, hsecond]
  rfl

theorem cutCharacter_differs : ¬ Independent plainRuntime ['é'] cutCharacter := by
  rw [independent_iff_filterMap, decode_cutCharacter]
  intro h
  have hmessages := congrArg (List.map BufferedLogEvent.msg) h
  exact absurd hmessages (by decide)

end IdmMw.LogBufferStream
