import IdmMw.Model.FleetRows

/-!
# What redaction keeps of a row

* `redactSecrets_scalar`: a value that is no object stays;
* `toJson_redactSecrets_ne`: a date does not stay, whatever its text;
* `lookup_redactEntries`: the columns of a redacted row;
* `shown_column_iff`: of a profile, every column stays but the two dates;
* `not_keeps`: so no profile is shown as it is stored.
-/

namespace IdmMw.RowValue

open FleetRows

/-- A value that is no date, no array and no object. -/
def isScalar : RowValue → Bool
  | .date _ | .arr _ | .obj _ => false
  | _ => true

theorem redactSecrets_scalar {value : RowValue} (h : isScalar value = true) :
    value.redactSecrets = value := by
  cases value with
  | date time => cases h
  | arr items => cases h
  | obj entries => cases h
  | _ => rfl

/-- A date becomes an object without properties, and its JSON is a text. -/
theorem toJson_redactSecrets_ne (isoText : ℤ → String) (time : ℤ) :
    (RowValue.date time).redactSecrets.toJson isoText ≠ (RowValue.date time).toJson isoText := by
  intro h
  cases h

/-- A column that is no secret is shown redacted by itself. -/
theorem lookup_redactEntries {key : String} (hkey : isSecretKey key = false)
    (entries : List (String × RowValue)) :
    (redactEntries entries).lookup key = (entries.lookup key).map redactSecrets := by
  induction entries with
  | nil => rfl
  | cons entry entries ih =>
    obtain ⟨key', item⟩ := entry
    rw [redactEntries]
    by_cases h : key' = key
    · subst h
      rw [OrderedMap.lookup_cons_self, OrderedMap.lookup_cons_self, hkey]
      rfl
    · rw [OrderedMap.lookup_cons_of_ne h, OrderedMap.lookup_cons_of_ne h, ih]

/-! ### Profiles -/

/-- Every column of the row that is not recognised as secret is shown as it is stored. -/
def Keeps (isoText : ℤ → String) (row : CredentialProfileRow) (shown : RowValue) : Prop :=
  ∀ column value, (column, value) ∈ row.columns → isSecretKey column = false →
    (shown.get? column).map (toJson isoText) = some (value.toJson isoText)

/-- No column of a profile is recognised as secret. -/
theorem isSecretKey_column {row : CredentialProfileRow} {column : String} {value : RowValue}
    (h : (column, value) ∈ row.columns) : isSecretKey column = false := by
  have hnames : ∀ column ∈ ["id", "targetSystemId", "name", "mode", "username", "privateKeyRef",
      "passwordRef", "enabled", "createdAt", "updatedAt"], isSecretKey column = false := by
    decide
  have hcolumn : column ∈ row.columns.map Prod.fst := List.mem_map_of_mem h
  exact hnames column hcolumn

theorem lookup_columns {row : CredentialProfileRow} {column : String} {value : RowValue}
    (h : (column, value) ∈ row.columns) : row.columns.lookup column = some value := by
  have hdistinct : OrderedMap.Distinct row.columns := by
    show ["id", "targetSystemId", "name", "mode", "username", "privateKeyRef", "passwordRef",
      "enabled", "createdAt", "updatedAt"].Nodup
    decide
  exact hdistinct.lookup_of_mem h

@[simp] theorem isScalar_str (s : String) : isScalar (.str s) = true := rfl

@[simp] theorem isScalar_bool (b : Bool) : isScalar (.bool b) = true := rfl

@[simp] theorem isScalar_ofOption (value : Option String) : isScalar (ofOption value) = true := by
  cases value <;> rfl

/-- The columns are scalars, but for the two dates. -/
theorem column_cases {row : CredentialProfileRow} {column : String} {value : RowValue}
    (h : (column, value) ∈ row.columns) :
    isScalar value = true ∧ column ≠ "createdAt" ∧ column ≠ "updatedAt" ∨
      (∃ time, value = .date time) ∧ (column = "createdAt" ∨ column = "updatedAt") := by
  have hscalars : ∀ entry ∈ row.columns.take 8,
      isScalar entry.2 = true ∧ entry.1 ≠ "createdAt" ∧ entry.1 ≠ "updatedAt" := by
    simp [CredentialProfileRow.columns]
  rw [← List.take_append_drop 8 row.columns, List.mem_append] at h
  rcases h with h | h
  · exact Or.inl (hscalars _ h)
  · obtain h | h : (column, value) = ("createdAt", .date row.createdAt) ∨
        (column, value) = ("updatedAt", .date row.updatedAt) := by
      simpa [CredentialProfileRow.columns] using h
    · obtain ⟨rfl, rfl⟩ := Prod.mk.inj h
      exact Or.inr ⟨⟨_, rfl⟩, Or.inl rfl⟩
    · obtain ⟨rfl, rfl⟩ := Prod.mk.inj h
      exact Or.inr ⟨⟨_, rfl⟩, Or.inr rfl⟩

/-- A column of a profile is shown as it is stored if and only if it is no date. -/
theorem shown_column_iff (isoText : ℤ → String) {row : CredentialProfileRow} {column : String}
    {value : RowValue} (h : (column, value) ∈ row.columns) :
    ((RowValue.obj row.columns).redactSecrets.get? column).map (toJson isoText) =
      some (value.toJson isoText) ↔ column ≠ "createdAt" ∧ column ≠ "updatedAt" := by
  have hlookup : (RowValue.obj row.columns).redactSecrets.get? column = some value.redactSecrets := by
    show (redactEntries row.columns).lookup column = _
    rw [lookup_redactEntries (isSecretKey_column h), lookup_columns h]
    rfl
  rw [hlookup, Option.map_some, Option.some_inj]
  rcases column_cases h with ⟨hscalar, hcolumn⟩ | ⟨⟨time, rfl⟩, hcolumn⟩
  · exact iff_of_true (by rw [redactSecrets_scalar hscalar]) hcolumn
  · refine iff_of_false (toJson_redactSecrets_ne isoText time) ?_
    rintro ⟨hcreated, hupdated⟩
    rcases hcolumn with rfl | rfl
    · exact hcreated rfl
    · exact hupdated rfl

/-- The dates of a profile are not shown. -/
theorem not_keeps_redactSecrets (isoText : ℤ → String) (row : CredentialProfileRow) :
    ¬ Keeps isoText row (RowValue.obj row.columns).redactSecrets := by
  intro h
  have hmem : ("createdAt", RowValue.date row.createdAt) ∈ row.columns := by
    simp [CredentialProfileRow.columns]
  exact ((shown_column_iff isoText hmem).1 (h _ _ hmem (isSecretKey_column hmem))).1 rfl

/-- No profile is shown as it is stored: in a list, when it has been created or updated, or with a
host. -/
theorem not_keeps (isoText : ℤ → String) (fromJson : Option Column → RowValue)
    (row : CredentialProfileRow) :
    (∀ (items : List CredentialProfileRow) (i : ℕ), items[i]? = some row →
        ∃ shown, (listCredentialProfiles items)[i]? = some shown ∧ ¬ Keeps isoText row shown) ∧
      ¬ Keeps isoText row (createCredentialProfile row) ∧
      ¬ Keeps isoText row (updateCredentialProfile row) ∧
      ∀ (items : List HostRow) (i : ℕ) (host : HostRow), items[i]? = some host →
        host.credentialProfile = some row →
        ∃ shown profile, (listHosts fromJson items)[i]? = some shown ∧
          shown.get? "credentialProfile" = some profile ∧ ¬ Keeps isoText row profile := by
  have hnot := not_keeps_redactSecrets isoText row
  refine ⟨fun items i hitem => ⟨_, ?_, hnot⟩, hnot, hnot,
    fun items i host hhost hprofile => ⟨shownHost fromJson host, _, ?_, ?_, hnot⟩⟩
  · unfold listCredentialProfiles
    rw [List.getElem?_map, hitem, Option.map_some]
  · unfold listHosts
    rw [List.getElem?_map, hhost, Option.map_some]
  · unfold shownHost
    rw [hprofile]
    rfl

/-- A profile, with the moment when it was made. -/
def deployProfile : CredentialProfileRow where
  id := "profile"
  targetSystemId := "linux-prod"
  name := "deploy"
  mode := "env"
  username := "deploy"
  privateKeyRef := some "env:DEPLOY_KEY"
  passwordRef := none
  enabled := true
  createdAt := 1767225600000
  updatedAt := 1767225600000

theorem deployProfile_not_kept :
    ¬ Keeps (fun _ => "2026-01-01T00:00:00.000Z") deployProfile
      (createCredentialProfile deployProfile) :=
  not_keeps_redactSecrets _ deployProfile

end IdmMw.RowValue
