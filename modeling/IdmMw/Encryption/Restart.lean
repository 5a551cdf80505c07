import IdmMw.Encryption.AtRest

/-!
# Starting again

A server that was accepted is stopped, and started again with the same settings. In the meantime
processes with these settings have made any number of statements, those of rotations among them.

* `validateEncryptionState_admitted`: a start-up that fits the encryption state is accepted;
* `rotateToActiveKey_names`: a rotation that resolves has made the encryption state name its key;
* `Database.Step.admitted`: no statement makes it unfit for the settings it is made with;
* `Database.restart_accepted`, `Database.accepted_after_rotation`: the laws.
-/

namespace IdmMw

open Async EncryptionRotationService PrismaService

variable {start : StartConfig} {encryption : EncryptionService} {app : App} {s s' : Storage}
  {t : StorageTrace} {x : Except JsError Unit}

/-! ### The check passes -/

theorem mem_of_requireKey {kid key : String} (h : encryption.requireKey kid = .ok key) :
    ∃ keyring, encryption.keyring = .ok keyring ∧ kid ∈ keyring.entries.map Prod.fst := by
  obtain ⟨keyring, hkeyring, hlookup⟩ := EncryptionService.requireKey_eq_ok h
  obtain ⟨before, after, heq, -⟩ := List.lookup_eq_some_iff.1 hlookup
  refine ⟨keyring, hkeyring, ?_⟩
  rw [heq]
  simp

theorem validateConfiguration_of_valid (h : encryption.isEnabled = true → encryption.Valid) :
    encryption.validateConfiguration = .ok () := by
  unfold EncryptionService.validateConfiguration
  split
  · next henabled =>
    obtain ⟨kid, key, hactive, hkey⟩ := h henabled
    obtain ⟨keyring, hkeyring, hmem⟩ := mem_of_requireKey hkey
    rw [hkeyring, hactive]
    exact if_pos hmem
  · rfl

theorem checkState_of_requireKey {kid key : String} {row : EncryptionStateRow}
    (henabled : row.enabled = true)
    (hkey : start.encryption.requireKey row.activeKeyId = .ok key)
    (hmode : start.isRotationMode = false → row.activeKeyId = kid) :
    checkState start kid row = .ok () := by
  obtain ⟨keyring, hkeyring, hmem⟩ := mem_of_requireKey hkey
  unfold checkState
  rw [if_pos henabled, hkeyring]
  dsimp only
  rw [if_neg (not_not.2 hmem), if_neg fun ⟨hne, hrotation⟩ => hne (hmode hrotation)]

/-- The encryption state is read in one request. -/
theorem loadEncryptionState_runs {required : Bool} {y : Except JsError (Option EncryptionStateRow)}
    (hrun : (loadEncryptionState required).Runs t y) (hl : s.Leads t s') :
    s' = s ∧ y = .ok s.state ∨ ∃ e, ⟨.stateFind, .error e⟩ ∈ t := by
  obtain ⟨a, t, rfl, hrun⟩ := hrun
  cases a with
  | error e => exact Or.inr ⟨e, List.mem_cons_self⟩
  | ok row =>
    obtain ⟨rfl, rfl⟩ := hrun
    obtain ⟨m, ⟨hshows, rfl⟩ | ⟨hfailed, -⟩, rfl⟩ := hl
    · exact Or.inl ⟨rfl, congrArg Except.ok hshows⟩
    · exact hfailed.elim

/-- Where the encryption state fits the settings, the start-up changes nothing, and is accepted
unless the encryption state cannot be read. -/
theorem validateEncryptionState_admitted
    (hvalid : start.encryption.isEnabled = true → start.encryption.Valid) (hs : s.Enabled)
    (h : Admitted start s) (hrun : (validateEncryptionState start).Runs t x) (hl : s.Leads t s') :
    s' = s ∧ x = .ok () ∨ ∃ e, ⟨.stateFind, .error e⟩ ∈ t := by
  unfold validateEncryptionState at hrun
  dsimp only at hrun
  rw [validateConfiguration_of_valid hvalid, ite_self] at hrun
  replace hrun : (loadEncryptionState start.encryption.isEnabled >>= _).Runs t x := hrun
  rcases runs_bind.1 hrun with ⟨e, -, hload⟩ | ⟨row, t₁, t₂, rfl, hload, hrest⟩
  · exact Or.inr ((loadEncryptionState_runs hload hl).resolve_left (by rintro ⟨-, ⟨⟩⟩))
  · obtain ⟨m, hl₁, hl₂⟩ := Monitor.Leads.of_append hl
    rcases loadEncryptionState_runs hload hl₁ with ⟨rfl, hrow⟩ | ⟨e, he⟩
    · refine Or.inl ?_
      obtain rfl := Except.ok.inj hrow
      by_cases henabled : start.encryption.isEnabled = true
      · rw [Admitted, if_pos henabled] at h
        obtain ⟨kid, key, hkid, hkey, hmode⟩ := h
        obtain ⟨state, hstate, rfl⟩ := Option.map_eq_some_iff.1 hkid
        obtain ⟨active, -, hactive, -⟩ := hvalid henabled
        have hcheck : checkState start active state = .ok () :=
          checkState_of_requireKey (hs state hstate) hkey fun hrotation =>
            Except.ok.inj ((hmode hrotation).symm.trans hactive)
        rw [if_pos henabled, hactive, hstate] at hrest
        obtain ⟨rfl, rfl⟩ := hrest
        exact ⟨hl₂, hcheck⟩
      · rw [Admitted, if_neg henabled] at h
        rw [if_neg henabled, h] at hrest
        obtain ⟨rfl, rfl⟩ := hrest
        exact ⟨hl₂, rfl⟩
    · exact Or.inr ⟨e, List.mem_append_left _ he⟩

/-! ### A rotation that resolves -/

/-- Nothing deletes the encryption state. -/
theorem StorageEnv.state_ne_none {r : StorageReq} {a : StorageAns r} (h : StorageEnv s r a s')
    (hs : s.state ≠ none) : s'.state ≠ none := by
  rcases h with ⟨-, rfl⟩ | ⟨-, rfl⟩
  · cases r with
    | stateInsert kid => exact Option.some_ne_none _
    | stateMark status ids => exact mt Option.map_eq_none_iff.1 hs
    | stateComplete kid ids => exact mt Option.map_eq_none_iff.1 hs
    | _ => exact hs
  · exact hs

theorem Storage.Leads.state_ne_none (h : s.Leads t s') (hs : s.state ≠ none) : s'.state ≠ none :=
  Monitor.Leads.invariant (I := fun s => s.state ≠ none) h
    (fun _ _ _ _ hnext hs => hnext.state_ne_none hs) hs

theorem loadState_runs {state : EncryptionStateRow} (hrun : loadState.Runs t (.ok state))
    (hl : s.Leads t s') : s' = s ∧ s.state = some state := by
  obtain ⟨row, t₁, t₂, rfl, hfind, hrow⟩ := runs_bind_ok.1 hrun
  obtain ⟨a, rfl, rfl⟩ := runs_request.1 hfind
  cases row with
  | none => cases hrow.2
  | some row =>
    obtain ⟨rfl, hrow⟩ := hrow
    obtain rfl := Except.ok.inj hrow
    obtain ⟨m, ⟨hshows, rfl⟩ | ⟨hfailed, -⟩, rfl⟩ := hl
    · exact ⟨rfl, hshows.symm⟩
    · exact hfailed.elim

/-- When the completion resolves, the encryption state names the active key. -/
theorem completeRotation_names {state : EncryptionStateRow}
    (hrun : (completeRotation app state).Runs t (.ok ())) (hl : s.Leads t s')
    (hs : s.state ≠ none) : app.encryption.Names s' := by
  obtain ⟨ids, -, hrun⟩ := runs_check_ok.1 hrun
  obtain ⟨kid, hactive, hrun⟩ := runs_check_ok.1 hrun
  obtain ⟨a, rfl, rfl⟩ := runs_request.1 hrun
  obtain ⟨m, ⟨-, rfl⟩ | ⟨hfailed, -⟩, rfl⟩ := hl
  · obtain ⟨row, hrow⟩ := Option.ne_none_iff_exists'.1 hs
    exact ⟨kid, hactive, by simp [Storage.activeKeyId, Storage.exec, hrow]⟩
  · exact hfailed.elim

theorem rotate_names {rotation : RotationConfig} {state : EncryptionStateRow}
    (hrun : (rotate app rotation state).Runs t (.ok ())) (hl : s.Leads t s')
    (hs : s.state ≠ none) : app.encryption.Names s' := by
  obtain ⟨u, t₁, t₂, rfl, -, h₂⟩ := runs_bind_ok.1 hrun
  obtain ⟨u, t₃, t₄, rfl, -, h₄⟩ := runs_bind_ok.1 h₂
  rcases runs_tryCatch.1 h₄ with ⟨u, -, htables⟩ | ⟨e, t₅, t₆, rfl, -, hfailed⟩
  · obtain ⟨u, t₅, t₆, rfl, -, h₆⟩ := runs_bind_ok.1 htables
    obtain ⟨u, t₇, t₈, rfl, -, h₈⟩ := runs_bind_ok.1 h₆
    obtain ⟨u, t₉, t₁₀, rfl, -, hcomplete⟩ := runs_bind_ok.1 h₈
    -- whatever was walked before, the completion finds the encryption state
    rw [← List.append_assoc, ← List.append_assoc, ← List.append_assoc, ← List.append_assoc] at hl
    obtain ⟨m, hl₁, hl₂⟩ := Monitor.Leads.of_append hl
    exact completeRotation_names hcomplete hl₂ (Storage.Leads.state_ne_none hl₁ hs)
  · obtain ⟨u, t₇, t₈, rfl, -, hthrow⟩ := runs_bind_ok.1 hfailed
    cases hthrow.2

/-- When a rotation resolves, the encryption state names the active key. -/
theorem rotateToActiveKey_names {rotation : RotationConfig}
    (hrun : (rotateToActiveKey app rotation).Runs t (.ok ())) (hl : s.Leads t s') :
    app.encryption.isEnabled = true ∧ app.encryption.Names s' := by
  obtain ⟨u, henabled, hrun⟩ := runs_check_ok.1 hrun
  obtain ⟨u, -, hrun⟩ := runs_check_ok.1 hrun
  obtain ⟨state, t₁, t₂, rfl, hload, hnext⟩ := runs_bind_ok.1 hrun
  obtain ⟨nextKeyId, hactive, hrotate⟩ := runs_check_ok.1 hnext
  obtain ⟨m, hl₁, hl₂⟩ := Monitor.Leads.of_append hl
  obtain ⟨rfl, hstate⟩ := loadState_runs hload hl₁
  constructor
  · by_contra hdisabled
    rw [if_neg hdisabled] at henabled
    cases henabled
  · split at hrotate
    · next hsame =>
      obtain ⟨rfl, -⟩ := hrotate
      obtain rfl := hl₂
      exact ⟨nextKeyId, hactive, by rw [Storage.activeKeyId, hstate, Option.map_some, hsame]⟩
    · exact rotate_names hrotate hl₂ (by rw [hstate]; exact Option.some_ne_none _)

/-! ### What statements keep -/

namespace Database

variable {db db' : Database}

/-- The encryption state goes on naming its key, or it comes to name the active key of the
application. -/
theorem Step.activeKeyId (h : Step app db db') :
    db'.storage.activeKeyId = db.storage.activeKeyId ∨ app.encryption.Names db'.storage := by
  obtain ⟨statement, hmade, hexecutes⟩ := h
  cases hexecutes with
  | rotation h =>
    rename_i r a s
    have hrotates : r.Rotates app := by
      cases hmade with
      | rotate h => exact (rotateToActiveKey_issues _).of_makes h
    rcases h with ⟨-, rfl⟩ | ⟨-, rfl⟩
    · cases r with
      | stateInsert kid => exact hrotates.elim
      | stateMark status ids => exact Or.inl (Option.map_map _ _ _)
      | stateComplete kid ids =>
        cases hstate : db.storage.state with
        | none => exact Or.inl (by simp [Storage.activeKeyId, Storage.exec, hstate])
        | some row =>
          exact Or.inr ⟨kid, hrotates, by simp [Storage.activeKeyId, Storage.exec, hstate]⟩
      | _ => exact Or.inl rfl
    · exact Or.inl rfl
  | _ => exact Or.inl rfl

/-- No statement makes the encryption state unfit for the settings it is made with. -/
theorem Step.admitted (h : Step app db db') (hsame : start.encryption = app.encryption)
    (hdb : Admitted start db.storage) : Admitted start db'.storage := by
  unfold Admitted at hdb ⊢
  split
  · next henabled =>
    rw [if_pos henabled] at hdb
    rcases h.activeKeyId with hkept | ⟨kid, hactive, hkid⟩
    · rwa [hkept]
    · rw [hsame] at henabled ⊢
      obtain ⟨kid', key, hactive', hkey⟩ := app.encryption_valid henabled
      obtain rfl := Except.ok.inj (hactive.symm.trans hactive')
      exact ⟨kid, key, hkid, hkey, fun _ => hactive⟩
  · next hdisabled =>
    rw [if_neg hdisabled] at hdb
    obtain ⟨statement, hmade, hexecutes⟩ := h
    exact (hexecutes.state_eq_none hmade.stores.2).2 hdb

theorem admitted_of_steps (hsteps : Relation.ReflTransGen (Step app) db db')
    (hsame : start.encryption = app.encryption) (hdb : Admitted start db.storage) :
    Admitted start db'.storage := by
  induction hsteps with
  | refl => exact hdb
  | tail _ hstep ih => exact hstep.admitted hsame ih

theorem enabled_of_steps (hsteps : Relation.ReflTransGen (Step app) db db')
    (hdb : db.storage.Enabled) : db'.storage.Enabled := by
  induction hsteps with
  | refl => exact hdb
  | tail _ hstep ih =>
    obtain ⟨statement, -, hexecutes⟩ := hstep
    exact hexecutes.enabled ih

/-! ### The laws -/

/-- Settings that fitted the encryption state go on being accepted. -/
theorem accepted_of_admitted (hsame : start.encryption = app.encryption)
    (hdb : Admitted start db.storage) (henabled : db.storage.Enabled)
    (hsteps : Relation.ReflTransGen (Step app) db db')
    (hrun : (validateEncryptionState start).Runs t x) (hl : db'.storage.Leads t s') :
    s' = db'.storage ∧ x = .ok () ∨ ∃ e, ⟨.stateFind, .error e⟩ ∈ t := by
  refine validateEncryptionState_admitted ?_ (enabled_of_steps hsteps henabled)
    (admitted_of_steps hsteps hsame hdb) hrun hl
  rw [hsame]
  exact app.encryption_valid

/-- A server that was accepted can start again: whatever statements have been made with its settings
since, rotations among them, the same start-up changes nothing and is accepted, unless the
encryption state cannot be read. -/
theorem restart_accepted {t' : StorageTrace} (h : db.Reachable)
    (hsame : start.encryption = app.encryption)
    (hrun : (validateEncryptionState start).Runs t (.ok ())) (hl : db.storage.Leads t s)
    (hsteps : Relation.ReflTransGen (Step app) { db with storage := s } db')
    (hagain : (validateEncryptionState start).Runs t' x) (hl' : db'.storage.Leads t' s') :
    s' = db'.storage ∧ x = .ok () ∨ ∃ e, ⟨.stateFind, .error e⟩ ∈ t' := by
  obtain ⟨-, hadmitted⟩ :=
    wp_runs (validateEncryptionState_wp start db.storage h.isSealed.enabled) hrun hl.guarded
  exact accepted_of_admitted hsame (hadmitted rfl) (hl.enabled h.isSealed.enabled) hsteps hagain hl'

/-- After a rotation that resolved, and whatever statements have been made with its settings since,
a start-up with these settings is accepted in either mode, unless the encryption state cannot be
read. -/
theorem accepted_after_rotation {rotation : RotationConfig} {t' : StorageTrace}
    (h : db.Reachable) (hrotation : (rotateToActiveKey app rotation).Runs t (.ok ()))
    (hl : db.storage.Leads t s)
    (hsteps : Relation.ReflTransGen (Step app) { db with storage := s } db')
    (hsame : start.encryption = app.encryption)
    (hrun : (validateEncryptionState start).Runs t' x) (hl' : db'.storage.Leads t' s') :
    s' = db'.storage ∧ x = .ok () ∨ ∃ e, ⟨.stateFind, .error e⟩ ∈ t' := by
  obtain ⟨henabled, kid, hactive, hkid⟩ := rotateToActiveKey_names hrotation hl
  obtain ⟨kid', key, hactive', hkey⟩ := app.encryption_valid henabled
  obtain rfl := Except.ok.inj (hactive.symm.trans hactive')
  have hadmitted : Admitted start s := by
    rw [Admitted, hsame, if_pos henabled]
    exact ⟨kid, key, hkid, hkey, fun _ => hactive⟩
  exact accepted_of_admitted hsame hadmitted (hl.enabled h.isSealed.enabled) hsteps hrun hl'

/-- The first server starts again, after it has created a target system. -/
theorem restart_accepted_oneTarget : ∃ t s t' s' x,
    (validateEncryptionState ⟨App.sealed.encryption, none⟩).Runs t (.ok ()) ∧
      Storage.empty.Leads t s ∧ Step App.sealed ⟨s, fun _ => ""⟩ ⟨oneTarget, fun _ => ""⟩ ∧
      (validateEncryptionState ⟨App.sealed.encryption, none⟩).Runs t' x ∧ oneTarget.Leads t' s' ∧
      (s' = oneTarget ∧ x = .ok () ∨ ∃ e, ⟨.stateFind, .error e⟩ ∈ t') := by
  have hagain : (validateEncryptionState ⟨App.sealed.encryption, none⟩).Runs
      [⟨.stateFind, .ok oneTarget.state⟩] (.ok ()) := ⟨_, _, rfl, rfl, rfl⟩
  have hleads : oneTarget.Leads [⟨.stateFind, .ok oneTarget.state⟩] oneTarget :=
    ⟨_, Or.inl ⟨rfl, rfl⟩, rfl⟩
  exact ⟨_, _, _, _, _, firstStart_runs, firstStart_leads, oneTarget_step, hagain, hleads,
    restart_accepted .empty rfl firstStart_runs firstStart_leads (.single oneTarget_step) hagain
      hleads⟩

/-- The configuration of the first server is rotated to `k2`, and a server with both keys starts. -/
theorem accepted_after_rotation_oneTarget : ∃ t s t' s' x,
    (rotateToActiveKey App.rotating someRotation).Runs t (.ok ()) ∧ oneTarget.Leads t s ∧
      (validateEncryptionState ⟨App.rotating.encryption, none⟩).Runs t' x ∧ s.Leads t' s' ∧
      (s' = s ∧ x = .ok () ∨ ∃ e, ⟨.stateFind, .error e⟩ ∈ t') := by
  have hrotation := rotationTrace_runs targetRows_runs
  have hleads := rotationTrace_leads halfwayTrace_leads
  have hrun : (validateEncryptionState ⟨App.rotating.encryption, none⟩).Runs
      [⟨.stateFind, .ok (halfway.exec (.stateComplete "k2" (keyIdsText ["k1"]))).state⟩] (.ok ()) :=
    ⟨_, _, rfl, rfl, rfl⟩
  have hleads' : (halfway.exec (.stateComplete "k2" (keyIdsText ["k1"]))).Leads
      [⟨.stateFind, .ok (halfway.exec (.stateComplete "k2" (keyIdsText ["k1"]))).state⟩] _ :=
    ⟨_, Or.inl ⟨rfl, rfl⟩, rfl⟩
  exact ⟨_, _, _, _, _, hrotation, hleads, hrun, hleads',
    accepted_after_rotation oneTarget_reachable hrotation hleads .refl rfl hrun hleads'⟩

end Database

end IdmMw
