import IdmMw.Encryption.RoundTrip
import IdmMw.Model.Rotation

/-!
# The encrypted columns

The database as the rotation and the start-up check see it: the columns that `JsonHelper.toJson`
writes, and the encryption state.

* `Slot`, `Storage` and `Storage.cell`, and `StorageEnv`: how requests are answered. A statement
  that fails may have been executed all the same, if only its answer was lost;
* `Column.Seals`: a column holds an envelope of a value under a key;
* `Column.UnderActive`: under the active key of an application, as whatever it writes.
-/

namespace IdmMw

open Async

/-! ### The database -/

/-- A column of a row, of those that hold encrypted JSON. -/
inductive Slot
  | auditPayload (id : String)
  | auditResponse (id : String)
  | dlqPayload (id : String)
  | targetConfig (id : String)
  | hostMetadata (id : String)
  deriving DecidableEq

/-- The rotation walks the table of the column. -/
def Slot.Rotated : Slot → Prop
  | hostMetadata _ => False
  | _ => True

/-- The rows, by their ids, with the columns that hold encrypted JSON, and the encryption state. The
response of an audit log row and the metadata of a host may be NULL. -/
structure Storage where
  auditLog : String → Option (Column × Option Column)
  dlqItem : String → Option Column
  targetSystem : String → Option Column
  linuxHost : String → Option (Option Column)
  state : Option EncryptionStateRow

namespace Storage

/-- The database before the first start. -/
def empty : Storage := ⟨fun _ => none, fun _ => none, fun _ => none, fun _ => none, none⟩

/-- What a column holds; `none` where there is no such row or the column is NULL. -/
def cell (s : Storage) : Slot → Option Column
  | .auditPayload id => (s.auditLog id).map Prod.fst
  | .auditResponse id => (s.auditLog id).bind Prod.snd
  | .dlqPayload id => s.dlqItem id
  | .targetConfig id => s.targetSystem id
  | .hostMetadata id => (s.linuxHost id).join

/-- The key that the encryption state names. -/
def activeKeyId (s : Storage) : Option String := s.state.map fun row => row.activeKeyId

/-- The row that `createEncryptionState` inserts. -/
def newState (activeKeyId : String) : EncryptionStateRow :=
  ⟨true, activeKeyId, some (.text (.arr [])), "completed"⟩

/-- The table has no row. -/
def IsEmpty (s : Storage) : Table → Prop
  | .auditLog => ∀ id, s.auditLog id = none
  | .dlqItem => ∀ id, s.dlqItem id = none
  | .targetSystem => ∀ id, s.targetSystem id = none

/-- Set a row that exists. -/
def setRow {α : Type} (table : String → Option α) (id : String) (row : α) : String → Option α :=
  Function.update table id ((table id).map fun _ => row)

/-- What an executed request makes of the database. An update changes an existing row, and an insert
does not replace one. -/
def exec (s : Storage) : StorageReq → Storage
  | .stateInsert activeKeyId => { s with state := some (s.state.getD (newState activeKeyId)) }
  | .stateMark rotationStatus previousKeyIds =>
    { s with state := s.state.map fun row =>
        { row with rotationStatus := rotationStatus, previousKeyIds := some previousKeyIds } }
  | .stateComplete activeKeyId previousKeyIds =>
    { s with state := s.state.map fun row =>
        { row with
          activeKeyId := activeKeyId
          rotationStatus := "completed"
          previousKeyIds := some previousKeyIds } }
  | .auditLogUpdate id payload response =>
    { s with auditLog := setRow s.auditLog id (payload, response) }
  | .dlqItemUpdate id payload => { s with dlqItem := setRow s.dlqItem id payload }
  | .targetSystemUpdate id config => { s with targetSystem := setRow s.targetSystem id config }
  | _ => s

/-- What an answer says about the database. -/
def Shows (s : Storage) : (r : StorageReq) → StorageAns r → Prop
  | .stateFind, .ok row => row = s.state
  | .stateFind, .error e => PrismaService.isMissingEncryptionStateTable e = true → s.state = none
  | .stateInsert _, .ok _ => s.state = none
  | .countRows table, .ok n => n = 0 ↔ s.IsEmpty table
  | .auditLogFindMany, .ok rows => ∀ id payload response, ⟨id, payload, response⟩ ∈ rows ↔
      s.auditLog id = some (payload, response)
  | .dlqItemFindMany, .ok rows => ∀ id payload, (id, payload) ∈ rows ↔ s.dlqItem id = some payload
  | .targetSystemFindMany, .ok rows => ∀ id config, (id, config) ∈ rows ↔
      s.targetSystem id = some config
  | .auditLogUpdate id _ _, .ok _ => s.auditLog id ≠ none
  | .dlqItemUpdate id _, .ok _ => s.dlqItem id ≠ none
  | .targetSystemUpdate id _, .ok _ => s.targetSystem id ≠ none
  | _, _ => True

end Storage

/-- A statement that changes the database failed. -/
def StorageReq.Failed : (r : StorageReq) → StorageAns r → Prop
  | .stateInsert _, .error _ => True
  | .stateMark _ _, .error _ => True
  | .stateComplete _ _, .error _ => True
  | .auditLogUpdate _ _ _, .error _ => True
  | .dlqItemUpdate _ _, .error _ => True
  | .targetSystemUpdate _ _, .error _ => True
  | _, _ => False

/-- How a request may be answered: it is executed, or it fails. -/
def StorageEnv (s : Storage) (r : StorageReq) (a : StorageAns r) (s' : Storage) : Prop :=
  s.Shows r a ∧ s' = s.exec r ∨ r.Failed a ∧ s' = s

/-- Answering the requests of `t`, the database goes from `s` to `s'`. -/
def Storage.Leads (s : Storage) (t : StorageTrace) (s' : Storage) : Prop :=
  (Monitor.guarded (fun _ => True) StorageEnv).Leads s t s'

/-- The encryption state names the active key. -/
def EncryptionService.Names (encryption : EncryptionService) (s : Storage) : Prop :=
  ∃ kid, encryption.activeKeyId = .ok kid ∧ s.activeKeyId = some kid

/-- The request leaves the database alone. -/
def StorageReq.Reads (r : StorageReq) : Prop := ∀ s a s', StorageEnv s r a s' → s' = s

/-! ### What an update changes -/

section Updates

variable {α : Type} {table : String → Option α} {id id' : String} {row row' : α}

@[simp] theorem Storage.setRow_of_ne (h : id' ≠ id) :
    Storage.setRow table id row id' = table id' := by simp [Storage.setRow, h]

@[simp] theorem Storage.setRow_self (h : table id = some row') :
    Storage.setRow table id row id = some row := by simp [Storage.setRow, h]

theorem Storage.setRow_of_none (h : table id = none) : Storage.setRow table id row = table := by
  unfold Storage.setRow
  rw [h, Option.map_none, ← h, Function.update_eq_self]

end Updates

section Reads

variable {α : Type} {p : StorageProg α} {I : Storage → Prop} {s : Storage}

theorem service_reads (r : Req) : (StorageReq.service r).Reads := by
  rintro s a s' (⟨-, rfl⟩ | ⟨hfailed, -⟩)
  · rfl
  · exact hfailed.elim

/-- The requests that only ask. -/
theorem reads_of_not_written {r : StorageReq} (hexec : ∀ s : Storage, s.exec r = s) : r.Reads := by
  rintro s a s' (⟨-, rfl⟩ | ⟨-, rfl⟩)
  · exact hexec s
  · rfl

/-- A program that only asks leaves the database alone. -/
theorem reads_wp (h : p.Issues StorageReq.Reads) (hI : I s) :
    p.wp (.guarded I StorageEnv) (fun s' _ => s' = s) s := by
  refine Issues.wp h (I := fun s' => s' = s) ?_ rfl
  rintro _ r rfl hr
  exact ⟨hI, fun a s' hnext => hr _ a s' hnext⟩

/-- A question to the database. -/
theorem ask_wp {r : StorageReq} {k : StorageAns r → StorageProg α}
    {Q : Storage → Except JsError α → Prop} (hr : ∀ s : Storage, s.exec r = s) (hI : I s)
    (h : ∀ a, s.Shows r a ∨ r.Failed a → (k a).wp (.guarded I StorageEnv) Q s) :
    (Async.await r k).wp (.guarded I StorageEnv) Q s := by
  refine ⟨hI, ?_⟩
  rintro a s' (⟨hshows, rfl⟩ | ⟨hfailed, rfl⟩)
  · rw [hr]
    exact h a (Or.inl hshows)
  · exact h a (Or.inr hfailed)

theorem ofService_wp {p : Prog α} {Q : Storage → Except JsError α → Prop} (hI : I s)
    (h : ∀ t x, p.Runs t x → Q s x) : (ofService p).wp (.guarded I StorageEnv) Q s :=
  wp_embed (fun _ => hI) (fun r a s' hnext => service_reads r s a s' hnext) h

end Reads

/-! ### Envelopes in columns -/

/-- A ciphertext is not accepted under another key than its own. -/
def Cipher.RejectsOtherKeys (cipher : Cipher) : Prop :=
  ∀ key key' iv text v, key ≠ key' →
    cipher.decrypt key' iv (cipher.encrypt key iv text).1 (cipher.encrypt key iv text).2 ≠ .ok v

theorem Cipher.sealing_rejectsOtherKeys : Cipher.sealing.RejectsOtherKeys := by
  intro key key' iv text v hne h
  simp only [Cipher.sealing] at h
  split at h
  · rw [if_neg hne] at h
    cases h
  · cases h

/-- The column holds an envelope of `v` under the key with the name `kid`. -/
def Column.Seals (cipher : Cipher) (column : Column) (v : Json) (kid key : String) : Prop :=
  ∃ iv stored, stored = EncryptionService.envelope kid iv (cipher.encrypt key iv v.stringify).1
      (cipher.encrypt key iv v.stringify).2 ∧
    (column = .native stored ∨ column = .text stored.stringify)

/-- The column holds an envelope of `v` under the active key of the application. -/
def Column.UnderActive (app : App) (v : Json) (column : Column) : Prop :=
  ∃ kid key, app.encryption.activeKeyId = .ok kid ∧ app.encryption.requireKey kid = .ok key ∧
    column.Seals app.encryption.cipher v kid key

section Columns

variable {app : App} {column : Column} {v w : Json} {kid key : String} {t : Trace}

theorem fromJson_seals (hcorrect : app.encryption.cipher.Correct)
    (h : column.Seals app.encryption.cipher v kid key)
    (hkey : app.encryption.requireKey kid = .ok key) : JsonHelper.fromJson app column = .ok v := by
  obtain ⟨iv, stored, rfl, rfl | rfl⟩ := h <;>
    exact decryptFromStorage_envelope hcorrect hkey

/-- A column that can be read was sealed under the key that the keyring has by this name. -/
theorem Column.Seals.of_fromJson (hcorrect : app.encryption.cipher.Correct)
    (hrejects : app.encryption.cipher.RejectsOtherKeys)
    (h : column.Seals app.encryption.cipher v kid key)
    (hread : JsonHelper.fromJson app column = .ok w) :
    app.encryption.requireKey kid = .ok key ∧ w = v := by
  have hkey : app.encryption.requireKey kid = .ok key := by
    obtain ⟨iv, stored, rfl, hcolumn⟩ := h
    have hstored : JsonHelper.fromJson app column = app.encryption.decryptFromStorage
        (EncryptionService.envelope kid iv (app.encryption.cipher.encrypt key iv v.stringify).1
          (app.encryption.cipher.encrypt key iv v.stringify).2) := by
      rcases hcolumn with rfl | rfl <;> rfl
    rw [hstored] at hread
    simp only [EncryptionService.decryptFromStorage, EncryptionService.envelope?_envelope,
      EncryptionService.decryptObject] at hread
    split at hread
    · cases hread
    · next key' hkey' =>
      by_cases hne : key = key'
      · rw [hkey', hne]
      · split at hread
        · cases hread
        · next hdecrypt => exact absurd hdecrypt (hrejects _ _ _ _ _ hne)
  refine ⟨hkey, ?_⟩
  rw [fromJson_seals hcorrect h hkey] at hread
  exact (Except.ok.inj hread).symm

/-- What an application with encryption writes. -/
theorem toJson_underActive (henabled : app.encryption.isEnabled = true)
    (h : (JsonHelper.toJson app v).Runs t (.ok column)) : column.UnderActive app v := by
  rcases toJson_stored h with ⟨hdisabled, -, -⟩ | ⟨-, kid, key, iv, hkid, hkey, hcolumn⟩
  · rw [henabled] at hdisabled
    cases hdisabled
  · refine ⟨kid, key, hkid, hkey, iv, _, rfl, ?_⟩
    rw [Except.ok.inj hcolumn]
    unfold App.column
    split
    · exact Or.inr rfl
    · exact Or.inl rfl

theorem Column.UnderActive.fromJson (hcorrect : app.encryption.cipher.Correct)
    (h : column.UnderActive app v) : JsonHelper.fromJson app column = .ok v := by
  obtain ⟨kid, key, -, hkey, hseals⟩ := h
  exact fromJson_seals hcorrect hseals hkey

end Columns

end IdmMw
