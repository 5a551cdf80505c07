import IdmMw.Encryption.Walk

/-!
# A rotation that resolves

When `rotateToActiveKey` has resolved, the new key alone should decrypt everything that is stored, to
what it was before (`RotationComplete`).

* `Written`: the databases that writes of encrypted JSON lead to, under any active keys;
* `OnlyActive`: a keyring that has the new key only;
* `rotationComplete_iff`: the rotation does not walk the metadata of the hosts, and it does nothing
  at all where the encryption state names the new key already. What it does not walk has to be under
  the new key before.
-/

namespace IdmMw

open Async EncryptionRotationService

/-! ### The law -/

/-- Some columns are set by an application that encrypts, or to NULL with or without their rows. What
a rotation writes is written so, too. -/
def Writes (cipher : Cipher) (s s' : Storage) : Prop :=
  ∃ app : App, app.encryption.cipher = cipher ∧ app.encryption.isEnabled = true ∧
    ∀ slot, s'.cell slot = s.cell slot ∨ s'.cell slot = none ∨
      ∃ v t c, (JsonHelper.toJson app v).Runs t (.ok c) ∧ s'.cell slot = some c

/-- The databases that can be reached, with any encryption state. -/
inductive Written (cipher : Cipher) : Storage → Prop
  | empty : Written cipher .empty
  | write {s s' : Storage} (h : Written cipher s) (hw : Writes cipher s s') : Written cipher s'

/-- The keyring of the reader has the active key of the application, and no other. -/
structure OnlyActive (app reader : App) : Prop where
  cipher : reader.encryption.cipher = app.encryption.cipher
  keyring : ∃ kid key keyring, app.encryption.activeKeyId = .ok kid ∧
    app.encryption.requireKey kid = .ok key ∧ reader.encryption.keyring = .ok keyring ∧
    keyring.entries = [(kid, key)]

/-- The columns are there as before, and the reader decrypts them to what they held. -/
def RotationComplete (app reader : App) (db s : Storage) : Prop :=
  ∀ slot, (s.cell slot = none ↔ db.cell slot = none) ∧
    ∀ c₀ v kid key, db.cell slot = some c₀ → c₀.Seals app.encryption.cipher v kid key →
      ∃ c, s.cell slot = some c ∧ JsonHelper.fromJson reader c = .ok v

variable {app reader : App} {db s : Storage} {slot : Slot} {c : Column} {v w : Json}
  {kid key : String}

/-! ### What is written -/

/-- Whatever is stored is sealed. -/
theorem Written.seals {cipher : Cipher} (h : Written cipher s) (hc : s.cell slot = some c) :
    ∃ v kid key, c.Seals cipher v kid key := by
  induction h generalizing slot c with
  | empty => cases slot <;> cases hc
  | write h hw ih =>
    obtain ⟨app, rfl, henabled, hcells⟩ := hw
    rcases hcells slot with hsame | hnone | ⟨v, t, c', hr, hc'⟩
    · exact ih (hsame ▸ hc)
    · rw [hnone] at hc
      cases hc
    · obtain rfl : c' = c := Option.some.inj (hc'.symm.trans hc)
      obtain ⟨kid, key, -, -, hseals⟩ := toJson_underActive henabled hr
      exact ⟨v, kid, key, hseals⟩

/-! ### Reading with the new key alone -/

theorem OnlyActive.requireKey_iff (h : OnlyActive app reader) :
    reader.encryption.requireKey kid = .ok key ↔
      app.encryption.activeKeyId = .ok kid ∧ app.encryption.requireKey kid = .ok key := by
  obtain ⟨kid', key', keyring, hactive, hkey', hkeyring, hentries⟩ := h.keyring
  unfold EncryptionService.requireKey at hkey' ⊢
  rw [hkeyring, hactive]
  simp only [hentries, List.lookup_cons, List.lookup_nil]
  by_cases hkid : kid = kid'
  · subst hkid
    rw [hkey']
    simp
  · have hne : (kid == kid') = false := by simpa using hkid
    simp [hne, Ne.symm hkid]

theorem OnlyActive.fromJson (h : OnlyActive app reader) (hcorrect : app.encryption.cipher.Correct)
    (hc : c.UnderActive app v) : JsonHelper.fromJson reader c = .ok v := by
  obtain ⟨kid, key, hactive, hkey, hseals⟩ := hc
  rw [← h.cipher] at hcorrect hseals
  exact fromJson_seals hcorrect hseals (h.requireKey_iff.2 ⟨hactive, hkey⟩)

/-- What the reader can read is under the active key. -/
theorem OnlyActive.underActive (h : OnlyActive app reader)
    (hcorrect : app.encryption.cipher.Correct) (hrejects : app.encryption.cipher.RejectsOtherKeys)
    (hseals : c.Seals app.encryption.cipher v kid key)
    (hread : JsonHelper.fromJson reader c = .ok w) : c.UnderActive app v ∧ w = v := by
  have hsealed := hseals
  rw [← h.cipher] at hcorrect hrejects hsealed
  obtain ⟨hkey, hw⟩ := hsealed.of_fromJson hcorrect hrejects hread
  obtain ⟨hactive, hkey'⟩ := h.requireKey_iff.1 hkey
  exact ⟨⟨kid, key, hactive, hkey', hseals⟩, hw⟩

/-! ### The rotation -/

/-- Once the rotation has resolved, the new key alone decrypts everything exactly if whatever the
rotation does not walk was under the new key before: the metadata of hosts, and all columns if the
encryption state names the new key already. -/
theorem rotationComplete_iff {rotation : RotationConfig} {t : StorageTrace}
    (hcorrect : app.encryption.cipher.Correct) (hrejects : app.encryption.cipher.RejectsOtherKeys)
    (hdb : Written app.encryption.cipher db) (hreader : OnlyActive app reader)
    (hrun : (rotateToActiveKey app rotation).Runs t (.ok ())) (hleads : db.Leads t s) :
    RotationComplete app reader db s ↔
      ∀ slot c, ¬ slot.Rotated ∨ NothingToDo app db → db.cell slot = some c →
        ∃ v, c.UnderActive app v := by
  obtain ⟨-, hend⟩ := wp_runs (rotateToActiveKey_wp db hcorrect) hrun hleads.guarded
  obtain ⟨-, hend⟩ := hend rfl
  -- a column that is left alone
  have hleft : ∀ {slot c v kid key}, db.cell slot = some c → s.cell slot = db.cell slot →
      c.Seals app.encryption.cipher v kid key →
      ((∃ c', s.cell slot = some c' ∧ JsonHelper.fromJson reader c' = .ok v) ↔
        ∃ w, c.UnderActive app w) := by
    intro slot c v kid key hc hsame hseals
    rw [hsame, hc]
    constructor
    · rintro ⟨c', hc', hread⟩
      cases hc'
      exact ⟨v, (hreader.underActive hcorrect hrejects hseals hread).1⟩
    · rintro ⟨w, hactive⟩
      have hread := hreader.fromJson hcorrect hactive
      obtain ⟨-, rfl⟩ := hreader.underActive hcorrect hrejects hseals hread
      exact ⟨c, rfl, hread⟩
  have hunwalked : ∀ {slot}, ¬ slot.Rotated ∨ NothingToDo app db → s.cell slot = db.cell slot := by
    intro slot hslot
    rcases hend with ⟨-, rfl⟩ | ⟨hsomething, -, hprogress⟩
    · rfl
    · rcases hprogress.rest slot with hsame | ⟨hrotated, -⟩
      · exact hsame
      · exact absurd hrotated (hslot.resolve_right hsomething)
  constructor
  · intro hcomplete slot c hslot hc
    obtain ⟨v, kid, key, hseals⟩ := hdb.seals hc
    exact (hleft hc (hunwalked hslot) hseals).1 ((hcomplete slot).2 c v kid key hc hseals)
  · intro hactive slot
    constructor
    · rcases hend with ⟨-, rfl⟩ | ⟨-, -, hprogress⟩
      · exact Iff.rfl
      · exact hprogress.eq_none
    · intro c₀ v kid key hc₀ hseals
      by_cases hslot : ¬ slot.Rotated ∨ NothingToDo app db
      · exact (hleft hc₀ (hunwalked hslot) hseals).2 (hactive slot c₀ hslot hc₀)
      · obtain ⟨hrotated, hsomething⟩ := not_or.1 hslot
        rcases hend with ⟨hnothing, -⟩ | ⟨-, -, hprogress⟩
        · exact absurd hnothing hsomething
        · obtain ⟨c₁, v', c, hc₁, hv', hc, hunder⟩ := hprogress.renewed slot (not_not.1 hrotated)
            (by simp [hc₀])
          obtain rfl : c₁ = c₀ := Option.some.inj (hc₁.symm.trans hc₀)
          obtain ⟨-, rfl⟩ := hseals.of_fromJson hcorrect hrejects hv'
          exact ⟨c, hc, hreader.fromJson hcorrect hunder⟩

/-! ### Rotating from `k1` to `k2` -/

/-- `App.sealed` with the second key active. -/
noncomputable def App.rotating : App :=
  { App.sealed with
    encryption := { App.sealed.encryption with encryptionActiveKeyId := some "k2" }
    encryption_valid := fun _ => ⟨"k2", "secret-2", rfl, rfl⟩ }

/-- `App.rotating` with the second key only. -/
noncomputable def App.rotated : App :=
  { App.rotating with
    encryption :=
      { App.rotating.encryption with
        keyring := .ok ⟨[("k2", "secret-2")], by decide, by decide⟩ }
    encryption_valid := fun _ => ⟨"k2", "secret-2", rfl, rfl⟩ }

theorem App.onlyActive_rotated : OnlyActive App.rotating App.rotated :=
  ⟨rfl, "k2", "secret-2", _, rfl, rfl, rfl, rfl⟩

/-- The empty object, encrypted under a key. -/
noncomputable def sealedColumn (kid key : String) : Column :=
  .native (EncryptionService.envelope kid "iv"
    (Cipher.sealing.encrypt key "iv" (Json.obj []).stringify).1
    (Cipher.sealing.encrypt key "iv" (Json.obj []).stringify).2)

theorem sealedColumn_seals (kid key : String) :
    (sealedColumn kid key).Seals Cipher.sealing (.obj []) kid key :=
  ⟨"iv", _, rfl, Or.inl rfl⟩

/-- What `App.sealed` writes. -/
theorem sealed_toJson :
    (JsonHelper.toJson App.sealed (.obj [])).Runs [⟨.randomBytes, "iv"⟩]
      (.ok (sealedColumn "k1" "secret-1")) :=
  ⟨_, _, rfl, rfl, rfl⟩

/-- The row of `k1`. -/
def firstState : EncryptionStateRow := Storage.newState "k1"

/-- Without the check of the Kafka lag. -/
def someRotation : RotationConfig := ⟨none, some "true"⟩

/-- A rotation of the first two tables, which are empty, and of the rows of `rows`. -/
def walkTrace (rows : StorageTrace) : StorageTrace :=
  [⟨.stateFind, .ok (some firstState)⟩, ⟨.countActiveDlqItems, .ok 0⟩, ⟨.service .now, (0 : ℤ)⟩,
    ⟨.countActiveIdempotencyKeys 0, .ok 0⟩, ⟨.stateMark "running" (keyIdsText ["k1"]), .ok ()⟩,
    ⟨.auditLogFindMany, .ok []⟩, ⟨.dlqItemFindMany, .ok []⟩] ++ rows

/-- The rotation with its completion. -/
def rotationTrace (rows : StorageTrace) : StorageTrace :=
  walkTrace rows ++ [⟨.stateComplete "k2" (keyIdsText ["k1"]), .ok ()⟩]

theorem rotationTrace_runs {rows : StorageTrace}
    (h : (rotateTargetSystems App.rotating).Runs rows (.ok ())) :
    (rotateToActiveKey App.rotating someRotation).Runs (rotationTrace rows) (.ok ()) := by
  have htables : (rotateTables App.rotating firstState).Runs
      ([⟨.auditLogFindMany, .ok []⟩, ⟨.dlqItemFindMany, .ok []⟩] ++ rows ++
        [⟨.stateComplete "k2" (keyIdsText ["k1"]), .ok ()⟩]) (.ok ()) :=
    ⟨_, _, rfl, _, _, rfl, runs_bind.2 (Or.inr ⟨(), _, _, rfl, h, _, _, rfl, rfl, rfl⟩)⟩
  have hrotate := runs_tryCatch (h := fun error => do
    markRotation "failed" firstState
    throw error) |>.2 (Or.inl ⟨(), rfl, htables⟩)
  exact ⟨_, _, rfl, _, _, rfl, _, _, rfl, _, _, rfl, _, _, rfl, hrotate⟩

theorem walkTrace_leads {rows : StorageTrace} {m : Storage}
    (haudit : db.auditLog = fun _ => none) (hdlq : db.dlqItem = fun _ => none)
    (hstate : db.state = some firstState)
    (h : (db.exec (.stateMark "running" (keyIdsText ["k1"]))).Leads rows m) :
    db.Leads (walkTrace rows) m := by
  refine Monitor.Leads.append ?_ h
  refine ⟨_, Or.inl ⟨hstate.symm, rfl⟩, _, Or.inl ⟨trivial, rfl⟩, _, Or.inl ⟨trivial, rfl⟩,
    _, Or.inl ⟨trivial, rfl⟩, _, Or.inl ⟨trivial, rfl⟩, _, Or.inl ⟨?_, rfl⟩,
    _, Or.inl ⟨?_, rfl⟩, rfl⟩
  · simp [Storage.Shows, Storage.exec, haudit]
  · simp [Storage.Shows, Storage.exec, hdlq]

theorem rotationTrace_leads {rows : StorageTrace} {m : Storage} (h : db.Leads (walkTrace rows) m) :
    db.Leads (rotationTrace rows) (m.exec (.stateComplete "k2" (keyIdsText ["k1"]))) :=
  Monitor.Leads.append h ⟨_, Or.inl ⟨trivial, rfl⟩, rfl⟩

/-- A target system whose configuration was written under `k1`. -/
noncomputable def oneTarget : Storage :=
  { Storage.empty with
    targetSystem := Function.update (fun _ => none) "target-1" (some (sealedColumn "k1" "secret-1"))
    state := some firstState }

theorem oneTarget_written : Written Cipher.sealing oneTarget := by
  refine .write .empty ⟨App.sealed, rfl, rfl, fun slot => ?_⟩
  by_cases hslot : slot = .targetConfig "target-1"
  · subst hslot
    exact Or.inr (Or.inr ⟨_, _, _, sealed_toJson, by simp [oneTarget, Storage.cell]⟩)
  · refine Or.inl ?_
    cases slot with
    | targetConfig id =>
      have hid : id ≠ "target-1" := by simpa using hslot
      simp [oneTarget, Storage.cell, Storage.empty, hid]
    | _ => rfl

/-- The rotation reads the configuration and writes it under `k2`. -/
def targetRows (before after : Column) : StorageTrace :=
  [⟨.targetSystemFindMany, .ok [("target-1", before)]⟩, ⟨.service .randomBytes, "iv"⟩,
    ⟨.targetSystemUpdate "target-1" after, .ok ()⟩]

theorem targetRows_runs :
    (rotateTargetSystems App.rotating).Runs
      (targetRows (sealedColumn "k1" "secret-1") (sealedColumn "k2" "secret-2")) (.ok ()) := by
  have hread : JsonHelper.fromJson App.rotating (sealedColumn "k1" "secret-1") = .ok (.obj []) :=
    fromJson_seals Cipher.sealing_correct (sealedColumn_seals "k1" "secret-1") rfl
  have hrow : (rotateTargetSystem App.rotating ("target-1", sealedColumn "k1" "secret-1")).Runs
      [⟨.service .randomBytes, "iv"⟩,
        ⟨.targetSystemUpdate "target-1" (sealedColumn "k2" "secret-2"), .ok ()⟩] (.ok ()) := by
    unfold rotateTargetSystem reencrypt
    dsimp only
    rw [hread]
    exact ⟨_, _, rfl, _, _, rfl, rfl, rfl⟩
  exact ⟨_, _, rfl, runs_bind.2 (Or.inr ⟨(), _, [], rfl, hrow, rfl, rfl⟩)⟩

theorem targetRows_leads (status : String) (ids : JsonText) (after : Column) :
    (oneTarget.exec (.stateMark status ids)).Leads
      (targetRows (sealedColumn "k1" "secret-1") after)
      ((oneTarget.exec (.stateMark status ids)).exec (.targetSystemUpdate "target-1" after)) := by
  refine ⟨_, Or.inl ⟨?_, rfl⟩, _, Or.inl ⟨trivial, rfl⟩, _, Or.inl ⟨?_, rfl⟩, rfl⟩
  · intro id config
    by_cases hid : id = "target-1"
    · simp [Storage.exec, oneTarget, hid, eq_comm]
    · simp [Storage.exec, oneTarget, hid, Storage.empty]
  · simp [Storage.Shows, Storage.exec, oneTarget]

/-- After the rotation the configuration is decrypted with `k2` alone. -/
theorem rotationComplete_oneTarget : ∃ t s,
    (rotateToActiveKey App.rotating someRotation).Runs t (.ok ()) ∧ oneTarget.Leads t s ∧
      s.cell (.targetConfig "target-1") = some (sealedColumn "k2" "secret-2") ∧
      RotationComplete App.rotating App.rotated oneTarget s := by
  have hrun := rotationTrace_runs targetRows_runs
  have hleads := rotationTrace_leads (walkTrace_leads rfl rfl rfl
    (targetRows_leads "running" (keyIdsText ["k1"]) (sealedColumn "k2" "secret-2")))
  refine ⟨_, _, hrun, hleads, ?_, (rotationComplete_iff Cipher.sealing_correct
    Cipher.sealing_rejectsOtherKeys oneTarget_written App.onlyActive_rotated hrun hleads).2 ?_⟩
  · simp [Storage.cell, Storage.exec, Storage.setRow, oneTarget]
  · rintro slot c (hslot | ⟨kid, hkid, hkey⟩) hc
    · cases slot with
      | hostMetadata id => cases hc
      | _ => exact absurd trivial hslot
    · obtain rfl := Except.ok.inj hkid
      exact absurd hkey (by decide)

/-- A host whose metadata was written under `k1`. -/
noncomputable def oneHost : Storage :=
  { Storage.empty with
    linuxHost := Function.update (fun _ => none) "host-1"
      (some (some (sealedColumn "k1" "secret-1")))
    state := some firstState }

theorem oneHost_written : Written Cipher.sealing oneHost := by
  refine .write .empty ⟨App.sealed, rfl, rfl, fun slot => ?_⟩
  by_cases hslot : slot = .hostMetadata "host-1"
  · subst hslot
    exact Or.inr (Or.inr ⟨_, _, _, sealed_toJson, by simp [oneHost, Storage.cell]⟩)
  · refine Or.inl ?_
    cases slot with
    | hostMetadata id =>
      have hid : id ≠ "host-1" := by simpa using hslot
      simp [oneHost, Storage.cell, Storage.empty, hid]
    | _ => rfl

/-- After the rotation the metadata are still under `k1`, and cannot be decrypted with `k2`. -/
theorem not_rotationComplete : ∃ db t s,
    Written Cipher.sealing db ∧ (rotateToActiveKey App.rotating someRotation).Runs t (.ok ()) ∧
      db.Leads t s ∧ ¬ RotationComplete App.rotating App.rotated db s := by
  have hrows : (rotateTargetSystems App.rotating).Runs [⟨.targetSystemFindMany, .ok []⟩] (.ok ()) :=
    ⟨_, _, rfl, rfl, rfl⟩
  have hrowsLead : (oneHost.exec (.stateMark "running" (keyIdsText ["k1"]))).Leads
      [⟨.targetSystemFindMany, .ok []⟩] (oneHost.exec (.stateMark "running" (keyIdsText ["k1"]))) :=
    ⟨_, Or.inl ⟨by simp [Storage.Shows, Storage.exec, oneHost, Storage.empty], rfl⟩, rfl⟩
  have hleads := rotationTrace_leads (walkTrace_leads rfl rfl rfl hrowsLead)
  refine ⟨oneHost, _, _, oneHost_written, rotationTrace_runs hrows, hleads, fun hcomplete => ?_⟩
  have hcell : oneHost.cell (.hostMetadata "host-1") = some (sealedColumn "k1" "secret-1") := by
    simp [Storage.cell, oneHost]
  obtain ⟨c, hc, hread⟩ := (hcomplete (.hostMetadata "host-1")).2 _ (.obj []) "k1" "secret-1" hcell
    (sealedColumn_seals "k1" "secret-1")
  obtain rfl : sealedColumn "k1" "secret-1" = c := by
    have hsame := hcell.symm.trans hc
    exact Option.some.inj hsame
  cases hread

end IdmMw
