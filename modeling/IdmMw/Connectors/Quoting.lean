import IdmMw.Library.Sql
import IdmMw.Model.MssqlLogin
import IdmMw.Model.PostgresRole

/-!
# Quoted values

The functions that quote a name and a text, for PostgreSQL and for MSSQL.

* `RoundTrip`: every value that is quoted is one token, and what follows it is left as it is;
* `IsName`: the values that a server takes as names; identifiers are among them;
* `tokens_ident`, `tokens_bracket`: such a name is one token;
* `tokens_literal`: so is a constant, of which PostgreSQL has none with a character of code zero, and
  of which MSSQL joins the lines.
-/

namespace IdmMw

/-- A value that is quoted is one token, and what follows it is left as it is. -/
def RoundTrip (d : Sql.Dialect) (quote : String → String) (token : List Char → Sql.Token)
    (close : Char) (accepted : String → Prop) (follows : List Char → Prop) : Prop :=
  ∀ value, accepted value → ∀ rest : List Char, rest.head? ≠ some close → follows rest →
    Sql.tokens d ((quote value).toList ++ rest) =
      (Sql.tokens d rest).map (token value.toList :: ·)

namespace SqlAccounts

theorem val_of_isAlphanum {c : Char} (h : c.isAlphanum = true) :
    c.val ≤ 127 ∧ c ≠ '\x00' ∧ c ≠ '\\' := by
  refine ⟨?_, ?_, ?_⟩
  · unfold Char.isAlphanum Char.isAlpha Char.isUpper Char.isLower Char.isDigit at h
    simp only [Bool.or_eq_true, Bool.and_eq_true, decide_eq_true_eq] at h
    rcases h with (h | h) | h
    · exact UInt32.le_trans h.2 (by decide)
    · exact UInt32.le_trans h.2 (by decide)
    · exact UInt32.le_trans h.2 (by decide)
  · rintro rfl
    cases h
  · rintro rfl
    cases h

/-- What an identifier is made of. -/
theorem ascii_of_isIdentifier {bound : ℕ} {value : List Char}
    (h : isIdentifier bound value = true) :
    1 ≤ value.length ∧ value.length ≤ bound + 1 ∧
      ∀ c ∈ value, c.val ≤ 127 ∧ c ≠ '\x00' ∧ c ≠ '\\' := by
  cases value with
  | nil => cases h
  | cons c cs =>
    simp only [isIdentifier, Bool.and_eq_true, Bool.or_eq_true, List.all_eq_true,
      decide_eq_true_eq, beq_iff_eq, List.contains_iff_mem, List.mem_cons, List.not_mem_nil,
      or_false] at h
    obtain ⟨⟨hc, hlength⟩, hcs⟩ := h
    refine ⟨by simp, by simpa using hlength, fun c' hc' => ?_⟩
    rcases List.mem_cons.1 hc' with rfl | hc'
    · rcases hc with halpha | rfl
      · exact val_of_isAlphanum (by simp [Char.isAlphanum, halpha])
      · decide
    · rcases hcs c' hc' with halnum | rfl | rfl | rfl | rfl | rfl
      · exact val_of_isAlphanum halnum
      all_goals decide

theorem isWordChar_of_isUpper {c : Char} (h : c.isUpper = true) : Sql.isWordChar c = true := by
  unfold Sql.isWordChar Char.isAlphanum Char.isAlpha
  rw [h]
  rfl

theorem wordChars_of_isPermissionName {permission : List Char}
    (h : isPermissionName permission = true) :
    ∀ c ∈ permission, Sql.isWordChar c = true ∨ c = ' ' := by
  cases permission with
  | nil => cases h
  | cons c cs =>
    simp only [isPermissionName, Bool.and_eq_true, Bool.or_eq_true, List.all_eq_true,
      beq_iff_eq] at h
    intro c' hc'
    rcases List.mem_cons.1 hc' with rfl | hc'
    · exact Or.inl (isWordChar_of_isUpper h.1.1)
    · rcases h.2 c' hc' with ((hupper | hdigit) | rfl) | rfl
      · exact Or.inl (isWordChar_of_isUpper hupper)
      · exact Or.inl (by simp [Sql.isWordChar, Char.isAlphanum, hdigit])
      · exact Or.inl (by decide)
      · exact Or.inr rfl

/-- Characters of one byte. -/
theorem sum_map_eq_length {size : Char → ℕ} {value : List Char} (h : ∀ c ∈ value, size c = 1) :
    (value.map size).sum = value.length := by
  rw [List.map_congr_left h, List.map_const', List.sum_replicate, smul_eq_mul, mul_one]

end SqlAccounts

/-! ### PostgreSQL -/

namespace PostgresRoleConnectorService

theorem toList_ident (value : String) :
    (ident value).toList = Sql.quoteName Sql.postgres value.toList := String.toList_ofList

theorem toList_literal (value : String) : (literal value).toList = Sql.quoteText value.toList :=
  String.toList_ofList

/-- What can be a name. -/
def IsName (value : String) : Prop :=
  value ≠ "" ∧ (value.toList.map Char.utf8Size).sum ≤ 63 ∧ '\x00' ∉ value.toList

theorem IsName.name_eq {value : String} (h : IsName value) :
    Sql.postgres.name value.toList = some value.toList := by
  obtain ⟨hempty, hbytes, hzero⟩ := h
  have hne : value.toList ≠ [] := fun hnil => hempty (String.toList_eq_nil_iff.1 hnil)
  show (if _ then none else some (Sql.clip 63 value.toList)) = _
  rw [if_neg (by simp [hne, hzero]), Sql.clip_eq_self hbytes]

theorem isName_of_isIdentifier {value : String}
    (h : SqlAccounts.isIdentifier 62 value.toList = true) : IsName value := by
  obtain ⟨-, hlength, hascii⟩ := SqlAccounts.ascii_of_isIdentifier h
  refine ⟨?_, ?_, fun hzero => (hascii _ hzero).2.1 rfl⟩
  · rintro rfl
    cases h
  · rw [SqlAccounts.sum_map_eq_length fun c hc => Char.utf8Size_eq_one_iff.2 (hascii c hc).1]
    exact hlength

theorem tokens_ident {value : String} (h : IsName value) {rest : List Char}
    (hrest : rest.head? ≠ some '"') :
    Sql.tokens Sql.postgres ((ident value).toList ++ rest) =
      (Sql.tokens Sql.postgres rest).map (.name value.toList :: ·) := by
  rw [toList_ident]
  exact Sql.run_name rfl h.name_eq hrest

theorem tokens_literal {value : String} (h : '\x00' ∉ value.toList) {rest : List Char}
    (hquote : rest.head? ≠ some '\'') (hrest : Sql.goesOn false rest = false) :
    Sql.tokens Sql.postgres ((literal value).toList ++ rest) =
      (Sql.tokens Sql.postgres rest).map (.text value.toList :: ·) := by
  have hopen : (Sql.lexing Sql.postgres).step .start '\'' = some ([], .text []) := rfl
  rw [toList_literal, Sql.tokens, Transducer.run_skip (Sql.feed_quoteText hopen value.toList)]
  exact Sql.run_textEnd (if_neg h) hquote fun _ => hrest

end PostgresRoleConnectorService

/-! ### MSSQL -/

namespace MssqlLoginConnectorService

theorem toList_bracket (value : String) :
    (bracket value).toList = Sql.quoteName Sql.transact value.toList := String.toList_ofList

theorem toList_literal (value : String) :
    (literal value).toList = ['N'] ++ Sql.quoteText value.toList := String.toList_ofList

/-- What can be a name. -/
def IsName (value : String) : Prop :=
  1 ≤ Sql.codeUnits value.toList ∧ Sql.codeUnits value.toList ≤ 128

theorem isName_of_isIdentifier {value : String}
    (h : SqlAccounts.isIdentifier 127 value.toList = true) : IsName value := by
  obtain ⟨hempty, hlength, hascii⟩ := SqlAccounts.ascii_of_isIdentifier h
  have hunits : Sql.codeUnits value.toList = value.toList.length := by
    refine SqlAccounts.sum_map_eq_length fun c hc => if_pos ?_
    have hle := UInt32.le_iff_toNat_le.1 (hascii c hc).1
    change c.val.toNat < 0x10000
    have hmax : (127 : UInt32).toNat = 127 := rfl
    omega
  unfold IsName
  omega

/-- No line break of an identifier is joined. -/
theorem joinLines_of_isIdentifier {value : String}
    (h : SqlAccounts.isIdentifier 127 value.toList = true) :
    Sql.joinLines value.toList = value.toList := by
  obtain ⟨-, -, hascii⟩ := SqlAccounts.ascii_of_isIdentifier h
  refine Sql.joinLines_eq_self fun hjoint => ?_
  have hmem : '\\' ∈ value.toList := by
    rcases hjoint with hjoint | hjoint
    · exact hjoint.subset (by simp)
    · exact hjoint.subset (by simp)
  exact (hascii _ hmem).2.2 rfl

theorem tokens_bracket {value : String} (h : IsName value) {rest : List Char}
    (hrest : rest.head? ≠ some ']') :
    Sql.tokens Sql.transact ((bracket value).toList ++ rest) =
      (Sql.tokens Sql.transact rest).map (.name value.toList :: ·) := by
  rw [toList_bracket]
  exact Sql.run_name rfl (if_pos h) hrest

theorem tokens_literal (value : String) {rest : List Char} (hquote : rest.head? ≠ some '\'') :
    Sql.tokens Sql.transact ((literal value).toList ++ rest) =
      (Sql.tokens Sql.transact rest).map (.text (Sql.joinLines value.toList) :: ·) := by
  have hN : (Sql.lexing Sql.transact).feed .start ['N'] = some ([], .word ['N']) := rfl
  have hopen : (Sql.lexing Sql.transact).step (.word ['N']) '\'' = some ([], .text []) := rfl
  rw [toList_literal, List.append_assoc, Sql.tokens, Transducer.run_skip hN,
    Transducer.run_skip (Sql.feed_quoteText hopen value.toList)]
  exact Sql.run_textEnd rfl hquote (by intro h; cases h)

end MssqlLoginConnectorService

end IdmMw
