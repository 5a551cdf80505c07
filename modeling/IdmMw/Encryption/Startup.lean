import IdmMw.Encryption.Rotation

/-!
# Starting after any history

`PrismaService` starts by a row that names one key. Whatever processes have made of the database, a
start-up that is accepted should find the key of everything that is stored in its keyring
(`KeysPresent`).

* `validateEncryptionState_wp`: what a start-up may change, and what it has checked once it is
  accepted;
* `Episode`, `History`: start-ups, servers and rotations, one after the other, each stopped anywhere;
* `Summarised`: the encryption state names the key of every column that the rotation walks;
* `keysPresent`: it does, unless a rotation was left halfway or a server wrote under another key, and
  no rotation was completed since.
-/

namespace IdmMw

open Async EncryptionRotationService PrismaService

/-! ### The check -/

/-- A start-up changes nothing, or it creates the encryption state of an empty database. -/
def Started (encryption : EncryptionService) (db s : Storage) : Prop :=
  s = db ∨ db.state = none ∧ (∀ slot, slot.Rotated → db.cell slot = none) ∧
    ∃ kid, encryption.activeKeyId = .ok kid ∧ s = db.exec (.stateInsert kid)

/-- What an accepted start-up knows: it has the key that the encryption state names, which is its
active key unless it starts in rotation mode, or there is no encryption state and it does not
encrypt. -/
def Admitted (start : StartConfig) (s : Storage) : Prop :=
  if start.encryption.isEnabled = true then
    ∃ kid key, s.activeKeyId = some kid ∧ start.encryption.requireKey kid = .ok key ∧
      (start.isRotationMode = false → start.encryption.activeKeyId = .ok kid)
  else s.state = none

/-- The encryption state, if there is one, says that encryption is enabled. -/
def Storage.Enabled (s : Storage) : Prop := ∀ row, s.state = some row → row.enabled = true

variable {start : StartConfig} {encryption : EncryptionService} {db s s' : Storage} {slot : Slot}
  {c : Column} {cipher : Cipher} {app : App} {t : StorageTrace} {I : Storage → Prop}

theorem Storage.activeKeyId_of_none (h : s.state = none) : s.activeKeyId = none := by
  rw [Storage.activeKeyId, h, Option.map_none]

theorem Storage.cell_eq_none (h : ∀ table, s.IsEmpty table) (hslot : slot.Rotated) :
    s.cell slot = none := by
  cases slot with
  | auditPayload id => simp [Storage.cell, h .auditLog id]
  | auditResponse id => simp [Storage.cell, h .auditLog id]
  | dlqPayload id => exact h .dlqItem id
  | targetConfig id => exact h .targetSystem id
  | hostMetadata id => exact hslot.elim

theorem requireKey_of_mem {keyring : Keyring} {kid : String}
    (hkeyring : encryption.keyring = .ok keyring) (h : kid ∈ keyring.entries.map Prod.fst) :
    ∃ key, encryption.requireKey kid = .ok key := by
  have hlookup : (keyring.entries.lookup kid).isSome = true := by
    obtain ⟨entry, hentry, rfl⟩ := List.mem_map.1 h
    exact List.lookup_isSome_iff.2 ⟨entry, hentry, beq_self_eq_true _⟩
  obtain ⟨key, hkey⟩ := Option.isSome_iff_exists.1 hlookup
  refine ⟨key, ?_⟩
  unfold EncryptionService.requireKey
  rw [hkeyring]
  simp only [hkey]

theorem requireKey_of_validateConfiguration {kid : String} (henabled : encryption.isEnabled = true)
    (h : encryption.validateConfiguration = .ok ()) (hactive : encryption.activeKeyId = .ok kid) :
    ∃ key, encryption.requireKey kid = .ok key := by
  unfold EncryptionService.validateConfiguration at h
  rw [if_pos henabled, hactive] at h
  cases hkeyring : encryption.keyring with
  | error message =>
    rw [hkeyring] at h
    cases h
  | ok keyring =>
    simp only [hkeyring] at h
    split at h
    · next hmem => exact requireKey_of_mem hkeyring hmem
    · cases h

theorem checkState_eq_ok {kid : String} {row : EncryptionStateRow}
    (h : checkState start kid row = .ok ()) :
    (∃ key, start.encryption.requireKey row.activeKeyId = .ok key) ∧
      (start.isRotationMode = false → row.activeKeyId = kid) := by
  unfold checkState at h
  split at h
  · cases hkeyring : start.encryption.keyring with
    | error message =>
      rw [hkeyring] at h
      cases h
    | ok keyring =>
      simp only [hkeyring] at h
      split at h
      · cases h
      · next hmem =>
        refine ⟨requireKey_of_mem hkeyring (not_not.1 hmem), fun hmode => ?_⟩
        by_contra hne
        rw [if_pos ⟨hne, hmode⟩] at h
        cases h
  · cases h

/-- No request disables encryption. -/
theorem StorageEnv.enabled {r : StorageReq} {a : StorageAns r} (h : StorageEnv s r a s')
    (hs : s.Enabled) : s'.Enabled := by
  rcases h with ⟨-, rfl⟩ | ⟨-, rfl⟩
  · intro row hrow
    cases r with
    | stateInsert kid =>
      obtain rfl : s.state.getD (Storage.newState kid) = row := Option.some.inj hrow
      cases hstate : s.state with
      | none => rfl
      | some row => exact hs row hstate
    | stateMark status ids =>
      obtain ⟨row', hrow', rfl⟩ := Option.map_eq_some_iff.1 hrow
      exact hs row' hrow'
    | stateComplete kid ids =>
      obtain ⟨row', hrow', rfl⟩ := Option.map_eq_some_iff.1 hrow
      exact hs row' hrow'
    | _ => exact hs row hrow
  · exact hs

theorem Storage.Leads.enabled (h : s.Leads t s') (hs : s.Enabled) : s'.Enabled :=
  Monitor.Leads.invariant h (fun _ _ _ _ hnext hs => hnext.enabled hs) hs

/-- The encryption state is loaded as it is; a missing table has no row. -/
theorem loadEncryptionState_wp (required : Bool) (hI : I s) :
    (loadEncryptionState required).wp (.guarded I StorageEnv)
      (fun s' x => s' = s ∧ ∀ row, x = .ok row → row = s.state) s := by
  refine wp_tryCatch.2 (ask_wp (fun _ => rfl) hI ?_)
  rintro (e | row) (hshows | hfailed)
  · show (if _ then _ else _ : StorageProg (Option EncryptionStateRow)).wp _ _ s
    by_cases hmissing : isMissingEncryptionStateTable e = true
    · cases required with
      | true =>
        rw [if_neg (by simp), if_pos (by simp [hmissing])]
        exact ⟨rfl, by rintro row ⟨⟩⟩
      | false =>
        rw [if_pos (by simp [hmissing])]
        exact ⟨rfl, fun row hrow => (Except.ok.inj hrow).symm.trans (hshows hmissing).symm⟩
    · rw [if_neg (by simp [hmissing]), if_neg (by simp [hmissing])]
      exact ⟨rfl, by rintro row ⟨⟩⟩
  · exact hfailed.elim
  · exact ⟨rfl, fun row' hrow => (Except.ok.inj hrow).symm.trans hshows⟩
  · exact hfailed.elim

theorem countRows_wp {table : Table} {Q : Storage → Except JsError ℕ → Prop} (hI : I s)
    (herror : ∀ e, Q s (.error e)) (hok : ∀ n, (n = 0 ↔ s.IsEmpty table) → Q s (.ok n)) :
    (.await (.countRows table) .settle : StorageProg ℕ).wp (.guarded I StorageEnv) Q s := by
  refine ask_wp (fun _ => rfl) hI ?_
  rintro (e | n) (hshows | hfailed)
  · exact herror e
  · exact herror e
  · exact hok n hshows
  · exact hfailed.elim

/-- Encryption is enabled on empty tables only. -/
theorem ensureStrictlyEmptyForEncryption_wp (hI : I s) :
    ensureStrictlyEmptyForEncryption.wp (.guarded I StorageEnv)
      (fun s' x => s' = s ∧ (x = .ok () → ∀ table, s.IsEmpty table)) s := by
  have herror : ∀ e : JsError, s = s ∧ (.error e = Except.ok () → ∀ table, s.IsEmpty table) :=
    fun e => ⟨rfl, by rintro ⟨⟩⟩
  refine wp_bind.2 (countRows_wp hI herror fun auditLogs haudit => ?_)
  refine wp_bind.2 (countRows_wp hI herror fun dlqItems hdlq => ?_)
  refine wp_bind.2 (countRows_wp hI herror fun targetSystems htarget => ?_)
  refine wp_bind.2 (ofService_wp hI fun _ now _ => ?_)
  cases now with
  | error e => exact herror e
  | ok now =>
    refine wp_bind.2 (ask_wp (fun _ => rfl) hI ?_)
    rintro (e | keys) -
    · exact herror e
    rw [wp_settle]
    dsimp only
    split
    · exact herror _
    · next hnone =>
      refine ⟨rfl, fun _ table => ?_⟩
      -- no table was filtered out, so that every count is zero
      have hcounts : auditLogs = 0 ∧ dlqItems = 0 ∧ targetSystems = 0 ∧ keys = 0 := by
        have hfilter := List.length_eq_zero_iff.1 (Nat.eq_zero_of_not_pos hnone)
        have hzero := List.filter_eq_nil_iff.1 (List.map_eq_nil_iff.1 hfilter)
        simpa using hzero
      obtain ⟨h₁, h₂, h₃, -⟩ := hcounts
      cases table with
      | auditLog => exact haudit.1 h₁
      | dlqItem => exact hdlq.1 h₂
      | targetSystem => exact htarget.1 h₃

variable (start db) in
/-- Wherever it is stopped, the start-up has changed as much as `Started` says. If it is accepted,
its keyring has the key of the encryption state. -/
theorem validateEncryptionState_wp (hdb : db.Enabled) :
    (validateEncryptionState start).wp (.guarded (Started start.encryption db) StorageEnv)
      (fun s x => Started start.encryption db s ∧ (x = .ok () → Admitted start s)) db := by
  have hsame : Started start.encryption db db := Or.inl rfl
  have herror : ∀ e : JsError, Started start.encryption db db ∧
      (.error e = Except.ok () → Admitted start db) := fun e => ⟨hsame, by rintro ⟨⟩⟩
  refine wp_bind.2 (wp_ofExcept.2 ?_)
  by_cases henabled : start.encryption.isEnabled = true
  · rw [if_pos henabled]
    cases hvalid : start.encryption.validateConfiguration with
    | error e => exact herror e
    | ok u =>
      refine wp_bind.2 (wp_mono (loadEncryptionState_wp _ hsame) ?_)
      rintro s (e | row) ⟨rfl, hrow⟩
      · exact herror e
      obtain rfl := hrow row rfl
      dsimp only
      rw [if_pos henabled]
      refine wp_bind.2 (wp_ofExcept.2 ?_)
      cases hactive : start.encryption.activeKeyId with
      | error e => exact herror e
      | ok activeKeyId =>
        cases hstate : s.state with
        | none =>
          refine wp_bind.2 (wp_mono (ensureStrictlyEmptyForEncryption_wp hsame) ?_)
          rintro _ (e | u) ⟨rfl, hempty⟩
          · exact herror e
          refine ⟨hsame, ?_⟩
          rintro x s' (⟨-, rfl⟩ | ⟨hfailed, rfl⟩)
          · refine ⟨Or.inr ⟨hstate, fun slot => Storage.cell_eq_none (hempty rfl), activeKeyId,
              hactive, rfl⟩, fun _ => ?_⟩
            obtain ⟨key, hkey⟩ := requireKey_of_validateConfiguration henabled hvalid hactive
            rw [Admitted, if_pos henabled]
            exact ⟨activeKeyId, key, by simp [Storage.activeKeyId, Storage.exec, hstate,
              Storage.newState], hkey, fun _ => hactive⟩
          · cases x with
            | error e => exact herror e
            | ok u => exact hfailed.elim
        | some row =>
          refine wp_ofExcept.2 ⟨hsame, fun hcheck => ?_⟩
          obtain ⟨⟨key, hkey⟩, hmode⟩ := checkState_eq_ok hcheck
          rw [Admitted, if_pos henabled]
          exact ⟨row.activeKeyId, key, by rw [Storage.activeKeyId, hstate, Option.map_some], hkey,
            fun h => hmode h ▸ hactive⟩
  · rw [if_neg henabled]
    refine wp_bind.2 (wp_mono (loadEncryptionState_wp _ hsame) ?_)
    rintro s (e | row) ⟨rfl, hrow⟩
    · exact herror e
    obtain rfl := hrow row rfl
    dsimp only
    rw [if_neg henabled]
    cases hstate : s.state with
    | none => exact ⟨hsame, fun _ => by rw [Admitted, if_neg henabled]; exact hstate⟩
    | some row =>
      rw [if_pos (by rw [Option.map_some, hdb row hstate])]
      exact herror _

/-! ### Histories -/

/-- What a process has made of the database. -/
structure Episode where
  before : Storage
  encryption : EncryptionService
  after : Storage

/-- What a server writes: it sets columns by `toJson`, or to NULL with or without their rows. -/
def Serves (app : App) (s s' : Storage) : Prop :=
  s'.state = s.state ∧ ∀ slot, s'.cell slot = s.cell slot ∨ s'.cell slot = none ∨
    ∃ v t c, (JsonHelper.toJson app v).Runs t (.ok c) ∧ s'.cell slot = some c

/-- The processes of an installation: a start-up, whether it is accepted, fails or dies; a server
that was accepted, up to its end; a rotation, whether it is completed, fails or dies. -/
inductive Episode.Happens (cipher : Cipher) : Episode → Prop
  | startUp {start : StartConfig} {t : StorageTrace} {p : StorageProg Unit} {s s' : Storage}
      (hf : (validateEncryptionState start).Follows t p) (hl : s.Leads t s') :
      Happens cipher ⟨s, start.encryption, s'⟩
  | server {start : StartConfig} {app : App} {t : StorageTrace} {s m s' : Storage}
      (hcipher : app.encryption.cipher = cipher) (hsame : start.encryption = app.encryption)
      (hrun : (validateEncryptionState start).Runs t (.ok ())) (hl : s.Leads t m)
      (hw : Serves app m s') : Happens cipher ⟨s, app.encryption, s'⟩
  | rotation {app : App} {rotation : RotationConfig} {t : StorageTrace} {p : StorageProg Unit}
      {s s' : Storage} (hcipher : app.encryption.cipher = cipher)
      (hf : (rotateToActiveKey app rotation).Follows t p) (hl : s.Leads t s') :
      Happens cipher ⟨s, app.encryption, s'⟩

/-- The episodes from the first start on, the last one first, and the database they lead to. -/
inductive History (cipher : Cipher) : List Episode → Storage → Prop
  | nil : History cipher [] .empty
  | cons {e : Episode} {es : List Episode} (h : History cipher es e.before)
      (he : e.Happens cipher) : History cipher (e :: es) e.after

/-- The encryption state came to name the key of the process. -/
def Episode.Completes (e : Episode) : Prop :=
  ¬ e.encryption.Names e.before ∧ e.encryption.Names e.after

/-- The process has left the columns alone that a rotation walks, or its key is the one that the
encryption state names in the end, or there is no encryption state. -/
def Episode.Clean (e : Episode) : Prop :=
  (∀ slot, slot.Rotated → e.after.cell slot = e.before.cell slot) ∨ e.encryption.Names e.after ∨
    e.after.state = none

/-- After the last completed rotation every episode was clean. -/
def Settled : List Episode → Prop
  | [] => True
  | e :: es => e.Completes ∨ e.Clean ∧ Settled es

/-- The key id of whatever is stored in the rotated tables is in the keyring. If this is the key of
that name, the column can be decrypted. -/
def KeysPresent (encryption : EncryptionService) (s : Storage) : Prop :=
  ∀ slot c, slot.Rotated → s.cell slot = some c →
    ∃ v kid key, c.Seals encryption.cipher v kid key ∧
      ∃ key', encryption.requireKey kid = .ok key' ∧
        (key' = key → ∀ app : App, app.encryption = encryption → JsonHelper.fromJson app c = .ok v)

/-- The encryption state names the key of every column that the rotation walks. -/
def Summarised (cipher : Cipher) (s : Storage) : Prop :=
  ∀ kid slot c, s.activeKeyId = some kid → slot.Rotated → s.cell slot = some c →
    ∃ v key, c.Seals cipher v kid key

/-! ### What an episode keeps -/

theorem Started.cell_eq (h : Started encryption db s) (slot : Slot) :
    s.cell slot = db.cell slot := by
  rcases h with rfl | ⟨-, -, kid, -, rfl⟩
  · rfl
  · rfl

theorem Started.summarised (h : Started encryption db s) (hdb : Summarised cipher db) :
    Summarised cipher s := by
  rcases h with rfl | ⟨-, hnone, kid, -, rfl⟩
  · exact hdb
  · intro kid' slot c _ hslot hc
    exact absurd ((hnone slot hslot).symm.trans hc) (by simp)

/-- The start-up that created the encryption state found no column. -/
theorem Started.summarised_of_names (h : Started encryption db s) (hdb : ¬ encryption.Names db)
    (hs : encryption.Names s) : Summarised cipher s := by
  rcases h with rfl | ⟨-, hnone, kid, -, rfl⟩
  · exact absurd hs hdb
  · intro kid' slot c _ hslot hc
    exact absurd ((hnone slot hslot).symm.trans hc) (by simp)

/-- A column that was written while the encryption state names the active key. -/
theorem Column.UnderActive.seals_of_names {v : Json} {kid : String} (h : c.UnderActive app v)
    (hnames : app.encryption.Names s) (hkid : s.activeKeyId = some kid) :
    ∃ v key, c.Seals app.encryption.cipher v kid key := by
  obtain ⟨kid', key, hactive, -, hseals⟩ := h
  obtain ⟨kid'', hactive', hkid'⟩ := hnames
  obtain rfl : kid' = kid'' := Except.ok.inj (hactive.symm.trans hactive')
  obtain rfl : kid' = kid := Option.some.inj (hkid'.symm.trans hkid)
  exact ⟨v, key, hseals⟩

/-- Without an encryption state there is nothing to summarise. -/
theorem summarised_of_none (h : s.state = none) : Summarised cipher s := by
  intro kid slot c hkid
  rw [Storage.activeKeyId_of_none h] at hkid
  cases hkid

theorem Serves.activeKeyId (h : Serves app s s') : s'.activeKeyId = s.activeKeyId := by
  rw [Storage.activeKeyId, Storage.activeKeyId, h.1]

theorem Serves.summarised (h : Serves app s s') (henabled : app.encryption.isEnabled = true)
    (hs : Summarised app.encryption.cipher s)
    (hclean : (∀ slot, slot.Rotated → s'.cell slot = s.cell slot) ∨ app.encryption.Names s') :
    Summarised app.encryption.cipher s' := by
  intro kid slot c hkid hslot hc
  have hkid' : s.activeKeyId = some kid := h.activeKeyId ▸ hkid
  rcases hclean with hleft | hnames
  · exact hs kid slot c hkid' hslot ((hleft slot hslot).symm.trans hc)
  · rcases h.2 slot with hsame | hnone | ⟨v, t, c', hr, hc'⟩
    · exact hs kid slot c hkid' hslot (hsame.symm.trans hc)
    · exact absurd (hnone.symm.trans hc) (by simp)
    · obtain rfl : c' = c := Option.some.inj (hc'.symm.trans hc)
      exact (toJson_underActive henabled hr).seals_of_names hnames hkid

theorem Consistent.summarised (h : Consistent app db s)
    (hepisode : Episode.Completes ⟨db, app.encryption, s⟩ ∨
      Episode.Clean ⟨db, app.encryption, s⟩ ∧ Summarised app.encryption.cipher db) :
    Summarised app.encryption.cipher s := by
  intro kid slot c hkid hslot hc
  rcases h with ⟨hsame, hprogress⟩ | ⟨hnames, hprogress⟩
  · rcases hepisode with ⟨hbefore, kid', hactive, hkid'⟩ | ⟨hclean, hdb⟩
    · exact absurd ⟨kid', hactive, hsame ▸ hkid'⟩ hbefore
    · have hkept : s.cell slot = db.cell slot → ∃ v key, c.Seals app.encryption.cipher v kid key :=
        fun hcell => hdb kid slot c (hsame ▸ hkid) hslot (hcell ▸ hc)
      rcases hclean with hleft | hnames | hnone
      · exact hkept (hleft slot hslot)
      · rcases hprogress.rest slot with hcell | ⟨-, c₀, v, c', -, -, hc', hactive⟩
        · exact hkept hcell
        · obtain rfl : c' = c := Option.some.inj (hc'.symm.trans hc)
          exact hactive.seals_of_names hnames hkid
      · exact summarised_of_none hnone kid slot c hkid hslot hc
  · obtain ⟨c₀, v, c', -, -, hc', hactive⟩ := hprogress.renewed slot hslot
      (hprogress.eq_none.not.1 (by simp [hc]))
    obtain rfl : c' = c := Option.some.inj (hc'.symm.trans hc)
    exact hactive.seals_of_names hnames hkid

/-- An episode that completes a rotation makes the summary right, and a clean one keeps it so. -/
theorem Episode.Happens.summarised {e : Episode} (h : e.Happens cipher) (hcorrect : cipher.Correct)
    (henabled : e.before.Enabled)
    (hepisode : e.Completes ∨ e.Clean ∧ Summarised cipher e.before) :
    Summarised cipher e.after := by
  cases h with
  | @startUp start t p s s' hf hl =>
    have hstarted : Started start.encryption s s' :=
      hf.guarded (validateEncryptionState_wp start s henabled) (fun _ _ hx => hx.1) hl.guarded
    rcases hepisode with ⟨hbefore, hafter⟩ | ⟨-, hs⟩
    · exact hstarted.summarised_of_names hbefore hafter
    · exact hstarted.summarised hs
  | @server start app t s m s' hcipher hsame hrun hl hw =>
    subst hcipher
    obtain ⟨hstarted, hadmitted⟩ :=
      wp_runs (validateEncryptionState_wp start s henabled) hrun hl.guarded
    replace hadmitted := hadmitted rfl
    rw [Admitted, hsame] at hadmitted
    rw [hsame] at hstarted
    by_cases hencrypts : app.encryption.isEnabled = true
    · have hnames : app.encryption.Names s' → app.encryption.Names m :=
        fun ⟨kid, hactive, hkid⟩ => ⟨kid, hactive, hw.activeKeyId ▸ hkid⟩
      rcases hepisode with ⟨hbefore, hafter⟩ | ⟨hclean, hs⟩
      · exact hw.summarised hencrypts (hstarted.summarised_of_names hbefore (hnames hafter))
          (Or.inr hafter)
      · rcases hclean with hleft | hafter | hnone
        · refine hw.summarised hencrypts (hstarted.summarised hs) (Or.inl fun slot hslot => ?_)
          rw [hstarted.cell_eq slot]
          exact hleft slot hslot
        · exact hw.summarised hencrypts (hstarted.summarised hs) (Or.inr hafter)
        · exact summarised_of_none hnone
    · -- a server that does not encrypt runs where there is no encryption state
      rw [if_neg hencrypts] at hadmitted
      exact summarised_of_none (hw.1.trans hadmitted)
  | @rotation app rotation t p s s' hcipher hf hl =>
    subst hcipher
    have hconsistent : Consistent app s s' :=
      hf.guarded (rotateToActiveKey_wp s hcorrect) (fun _ _ hx => hx.1) hl.guarded
    exact hconsistent.summarised hepisode

/-- A server that starts normally is clean. -/
theorem Serves.clean {m : Storage} (h : Serves app m s') (hs : s.Enabled)
    (hsame : start.encryption = app.encryption)
    (hrun : (validateEncryptionState start).Runs t (.ok ())) (hleads : s.Leads t m)
    (hmode : start.isRotationMode = false) : Episode.Clean ⟨s, app.encryption, s'⟩ := by
  obtain ⟨-, hadmitted⟩ := wp_runs (validateEncryptionState_wp start s hs) hrun hleads.guarded
  replace hadmitted := hadmitted rfl
  rw [Admitted, hsame] at hadmitted
  split at hadmitted
  · obtain ⟨kid, -, hkid, -, hactive⟩ := hadmitted
    exact Or.inr (Or.inl ⟨kid, hactive hmode, h.activeKeyId.trans hkid⟩)
  · exact Or.inr (Or.inr (h.1.trans hadmitted))

/-- A rotation that resolves is clean. -/
theorem rotateToActiveKey_clean {rotation : RotationConfig}
    (hcorrect : app.encryption.cipher.Correct)
    (hrun : (rotateToActiveKey app rotation).Runs t (.ok ())) (hleads : db.Leads t s) :
    Episode.Clean ⟨db, app.encryption, s⟩ := by
  obtain ⟨-, hend⟩ := wp_runs (rotateToActiveKey_wp db hcorrect) hrun hleads.guarded
  rcases (hend rfl).2 with ⟨-, rfl⟩ | ⟨-, hnames, -⟩
  · exact Or.inl fun _ _ => rfl
  · exact Or.inr (Or.inl hnames)

theorem Episode.Happens.enabled {e : Episode} (h : e.Happens cipher) (hs : e.before.Enabled) :
    e.after.Enabled := by
  cases h with
  | startUp hf hl => exact hl.enabled hs
  | server hcipher hsame hrun hl hw =>
    intro row hrow
    exact hl.enabled hs row (hw.1 ▸ hrow)
  | rotation hcipher hf hl => exact hl.enabled hs

theorem History.enabled {es : List Episode} (h : History cipher es s) : s.Enabled := by
  induction h with
  | nil => rintro row ⟨⟩
  | cons h he ih => exact he.enabled ih

theorem History.summarised {es : List Episode} (h : History cipher es s)
    (hcorrect : cipher.Correct) (hsettled : Settled es) : Summarised cipher s := by
  induction h with
  | nil => rintro kid slot c ⟨⟩
  | cons h he ih =>
    refine he.summarised hcorrect h.enabled ?_
    exact hsettled.imp_right fun ⟨hclean, hes⟩ => ⟨hclean, ih hes⟩

/-! ### The law -/

/-- After any history that is settled, a start-up with encryption that is accepted has the keys of
all that the rotation walks. -/
theorem keysPresent {es : List Episode} (hcorrect : cipher.Correct) (h : History cipher es s)
    (hsettled : Settled es) (hcipher : start.encryption.cipher = cipher)
    (henabled : start.encryption.isEnabled = true)
    (hrun : (validateEncryptionState start).Runs t (.ok ())) (hleads : s.Leads t s') :
    KeysPresent start.encryption s' := by
  subst hcipher
  obtain ⟨hstarted, hadmitted⟩ :=
    wp_runs (validateEncryptionState_wp start s h.enabled) hrun hleads.guarded
  have hsummarised := hstarted.summarised (h.summarised hcorrect hsettled)
  have hkey := hadmitted rfl
  rw [Admitted, if_pos henabled] at hkey
  obtain ⟨kid, key', hkid, hkey', -⟩ := hkey
  intro slot c hslot hc
  obtain ⟨v, key, hseals⟩ := hsummarised kid slot c hkid hslot hc
  refine ⟨v, kid, key, hseals, key', hkey', ?_⟩
  rintro rfl app happ
  rw [← happ] at hcorrect hseals hkey'
  exact fromJson_seals hcorrect hseals hkey'

/-! ### A rotation that dies -/

/-- The start-up that finds an empty database. -/
def firstStartTrace : StorageTrace :=
  [⟨.stateFind, .ok none⟩, ⟨.countRows .auditLog, .ok 0⟩, ⟨.countRows .dlqItem, .ok 0⟩,
    ⟨.countRows .targetSystem, .ok 0⟩, ⟨.service .now, (0 : ℤ)⟩,
    ⟨.countActiveIdempotencyKeys 0, .ok 0⟩, ⟨.stateInsert "k1", .ok ()⟩]

theorem firstStart_runs :
    (validateEncryptionState ⟨App.sealed.encryption, none⟩).Runs firstStartTrace (.ok ()) :=
  ⟨_, _, rfl, _, _, rfl, _, _, rfl, _, _, rfl, _, _, rfl, _, _, rfl, _, _, rfl, rfl, rfl⟩

theorem firstStart_leads :
    Storage.empty.Leads firstStartTrace (Storage.empty.exec (.stateInsert "k1")) := by
  have hempty : ∀ table, (0 = 0 ↔ Storage.empty.IsEmpty table) := by
    intro table
    cases table <;> simp [Storage.IsEmpty, Storage.empty]
  exact ⟨_, Or.inl ⟨rfl, rfl⟩, _, Or.inl ⟨hempty _, rfl⟩, _, Or.inl ⟨hempty _, rfl⟩,
    _, Or.inl ⟨hempty _, rfl⟩, _, Or.inl ⟨trivial, rfl⟩, _, Or.inl ⟨trivial, rfl⟩,
    _, Or.inl ⟨rfl, rfl⟩, rfl⟩

/-- The first server creates the encryption state and writes a configuration under `k1`. -/
theorem oneTarget_happens :
    Episode.Happens Cipher.sealing ⟨.empty, App.sealed.encryption, oneTarget⟩ := by
  refine @Episode.Happens.server _ ⟨App.sealed.encryption, none⟩ App.sealed firstStartTrace _
    (Storage.empty.exec (.stateInsert "k1")) _ rfl rfl firstStart_runs firstStart_leads
    ⟨rfl, fun slot => ?_⟩
  by_cases hslot : slot = .targetConfig "target-1"
  · subst hslot
    exact Or.inr (Or.inr ⟨_, _, _, sealed_toJson, by simp [oneTarget, Storage.cell]⟩)
  · refine Or.inl ?_
    cases slot with
    | targetConfig id =>
      have hid : id ≠ "target-1" := by simpa using hslot
      simp [oneTarget, Storage.cell, Storage.exec, Storage.empty, hid]
    | _ => rfl

/-- The rotation has written the configuration under `k2`, and has not recorded that. -/
noncomputable def halfway : Storage :=
  (oneTarget.exec (.stateMark "running" (keyIdsText ["k1"]))).exec
    (.targetSystemUpdate "target-1" (sealedColumn "k2" "secret-2"))

/-- The requests of the rotation up to there. -/
noncomputable def halfwayTrace : StorageTrace :=
  walkTrace (targetRows (sealedColumn "k1" "secret-1") (sealedColumn "k2" "secret-2"))

theorem halfwayTrace_leads : oneTarget.Leads halfwayTrace halfway :=
  walkTrace_leads rfl rfl rfl
    (targetRows_leads "running" (keyIdsText ["k1"]) (sealedColumn "k2" "secret-2"))

theorem halfway_cell :
    halfway.cell (.targetConfig "target-1") = some (sealedColumn "k2" "secret-2") := by
  simp [halfway, Storage.cell, Storage.exec, Storage.setRow, oneTarget]

/-- After the completed rotation a server with `k2` alone has the key of the configuration. -/
theorem keysPresent_rotated : ∃ es s t s',
    History Cipher.sealing es s ∧ Settled es ∧
      (validateEncryptionState ⟨App.rotated.encryption, none⟩).Runs t (.ok ()) ∧ s.Leads t s' ∧
      s'.cell (.targetConfig "target-1") = some (sealedColumn "k2" "secret-2") ∧
      KeysPresent App.rotated.encryption s' := by
  have hrotation : Episode.Happens Cipher.sealing ⟨oneTarget, App.rotating.encryption,
      halfway.exec (.stateComplete "k2" (keyIdsText ["k1"]))⟩ :=
    .rotation rfl (follows_settle.2 (rotationTrace_runs targetRows_runs))
      (rotationTrace_leads halfwayTrace_leads)
  have hhistory := (History.nil.cons oneTarget_happens).cons hrotation
  have hsettled : Settled [⟨oneTarget, App.rotating.encryption,
      halfway.exec (.stateComplete "k2" (keyIdsText ["k1"]))⟩,
      ⟨.empty, App.sealed.encryption, oneTarget⟩] := by
    refine Or.inl ⟨?_, "k2", rfl, rfl⟩
    rintro ⟨kid, hactive, hkid⟩
    obtain rfl := Except.ok.inj hactive
    exact absurd hkid (by decide)
  have hrun : (validateEncryptionState ⟨App.rotated.encryption, none⟩).Runs
      [⟨.stateFind, .ok (halfway.exec (.stateComplete "k2" (keyIdsText ["k1"]))).state⟩] (.ok ()) :=
    ⟨_, _, rfl, rfl, rfl⟩
  have hleads : (halfway.exec (.stateComplete "k2" (keyIdsText ["k1"]))).Leads
      [⟨.stateFind, .ok (halfway.exec (.stateComplete "k2" (keyIdsText ["k1"]))).state⟩] _ :=
    ⟨_, Or.inl ⟨rfl, rfl⟩, rfl⟩
  exact ⟨_, _, _, _, hhistory, hsettled, hrun, hleads, halfway_cell,
    keysPresent Cipher.sealing_correct hhistory hsettled rfl rfl hrun hleads⟩

/-- The settings after the new key was withdrawn. -/
noncomputable def withdrawn : StartConfig :=
  ⟨{ App.sealed.encryption with keyring := .ok ⟨[("k1", "secret-1")], by decide, by decide⟩ }, none⟩

/-- The rotation died before its completion. A server with `k1` alone is accepted, and cannot decrypt
the configuration. -/
theorem not_keysPresent : ∃ es s t s' start,
    History Cipher.sealing es s ∧ start.encryption.cipher = Cipher.sealing ∧
      start.encryption.isEnabled = true ∧ (validateEncryptionState start).Runs t (.ok ()) ∧
      s.Leads t s' ∧ ¬ KeysPresent start.encryption s' := by
  obtain ⟨p, hp⟩ := Runs.follows (rotationTrace_runs targetRows_runs)
  have hhistory := (History.nil.cons oneTarget_happens).cons
    (.rotation rfl hp halfwayTrace_leads)
  refine ⟨_, halfway, [⟨.stateFind, .ok halfway.state⟩], halfway, withdrawn, hhistory, rfl, rfl,
    ⟨_, _, rfl, rfl, rfl⟩, ⟨_, Or.inl ⟨rfl, rfl⟩, rfl⟩, fun hpresent => ?_⟩
  obtain ⟨v, kid, key, ⟨iv, stored, rfl, hcolumn⟩, key', hkey', -⟩ :=
    hpresent (.targetConfig "target-1") _ trivial halfway_cell
  -- the envelope tells its key id
  obtain rfl : "k2" = kid := by
    rcases hcolumn with hnative | htext
    · have henvelope := Column.native.inj hnative
      simp only [EncryptionService.envelope, Json.obj.injEq, List.cons.injEq, Prod.mk.injEq,
        Json.str.injEq, true_and] at henvelope
      exact henvelope.1
    · cases htext
  cases hkey'

end IdmMw
