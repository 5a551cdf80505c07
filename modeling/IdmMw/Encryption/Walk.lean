import IdmMw.Encryption.Storage

/-!
# The walk of a rotation

What a rotation makes of the database `db` it finds, wherever it is stopped: some of the columns it
walks are renewed, and the encryption state names the old key until all of them are.

* `Renewed`, `Progress`: a column under the active key again, and which ones at least;
* `Walking`, `Finished`: before and after the completion, and `Consistent`: one of both;
* `rotateAuditLogs_wp`, `rotateDlqItems_wp`, `rotateTargetSystems_wp`: the three tables;
* `rotateToActiveKey_wp`: the whole rotation.
-/

namespace IdmMw

open Async EncryptionRotationService

/-! ### Progress -/

/-- What the column held in `db` is now under the active key. -/
def Renewed (app : App) (db s : Storage) (slot : Slot) : Prop :=
  ∃ c₀ v c, db.cell slot = some c₀ ∧ JsonHelper.fromJson app c₀ = .ok v ∧ s.cell slot = some c ∧
    c.UnderActive app v

/-- The columns of `s` are those of `db`, renewed or as they were, and those in `done` are renewed. -/
structure Progress (app : App) (db : Storage) (done : Slot → Prop) (s : Storage) : Prop where
  renewed : ∀ slot, done slot → db.cell slot ≠ none → Renewed app db s slot
  rest : ∀ slot, s.cell slot = db.cell slot ∨ slot.Rotated ∧ Renewed app db s slot

/-- The column was read from what is stored, and holds what `db` held. -/
def Source (app : App) (db : Storage) (slot : Slot) (c : Column) : Prop :=
  ∃ c₀, db.cell slot = some c₀ ∧ JsonHelper.fromJson app c = JsonHelper.fromJson app c₀

/-- The rotation is under way, with the columns in `done` behind it. -/
def Walking (app : App) (db : Storage) (done : Slot → Prop) (s : Storage) : Prop :=
  s.activeKeyId = db.activeKeyId ∧ Progress app db done s

/-- The completion was executed: the encryption state names the active key. -/
def Finished (app : App) (db s : Storage) : Prop :=
  app.encryption.Names s ∧ Progress app db Slot.Rotated s

/-- What holds wherever the rotation is stopped. -/
def Consistent (app : App) (db s : Storage) : Prop :=
  Walking app db (fun _ => False) s ∨ Finished app db s

/-- Requests are answered by the database, which is consistent at each of them. -/
def rotationMonitor (app : App) (db : Storage) : Monitor Storage StorageAns :=
  .guarded (Consistent app db) StorageEnv

/-- A part of the walk that adds columns to `done` if it ends well. -/
def Walked (app : App) (db : Storage) (done done' : Slot → Prop) (s : Storage)
    (x : Except JsError Unit) : Prop :=
  match x with
  | .ok _ => Walking app db done' s
  | .error _ => Walking app db done s

variable {app : App} {db s : Storage} {done done' : Slot → Prop} {slot : Slot} {c₀ c : Column}
  {v : Json}

theorem progress_refl : Progress app db (fun _ => False) db :=
  ⟨fun _ h => h.elim, fun _ => Or.inl rfl⟩

theorem Progress.mono (h : Progress app db done s)
    (hsub : ∀ slot, done' slot → db.cell slot ≠ none → done slot) : Progress app db done' s :=
  ⟨fun slot hslot hcell => h.renewed slot (hsub slot hslot hcell) hcell, h.rest⟩

/-- The same columns are there. -/
theorem Progress.eq_none (h : Progress app db done s) :
    s.cell slot = none ↔ db.cell slot = none := by
  rcases h.rest slot with hsame | ⟨-, c₀, v, c, hc₀, -, hc, -⟩
  · rw [hsame]
  · simp [hc₀, hc]

/-- A column that is read while the rotation is under way holds what it held before. -/
theorem Progress.source (hcorrect : app.encryption.cipher.Correct) (h : Progress app db done s)
    (hc : s.cell slot = some c) : Source app db slot c := by
  rcases h.rest slot with hsame | ⟨-, c₀, v, c', hc₀, hv, hc', hactive⟩
  · exact ⟨c, hsame ▸ hc, rfl⟩
  · obtain rfl : c' = c := Option.some.inj (hc'.symm.trans hc)
    exact ⟨c₀, hc₀, (hactive.fromJson hcorrect).trans hv.symm⟩

theorem Renewed.congr {s' : Storage} (h : Renewed app db s slot)
    (hsame : s'.cell slot = s.cell slot) : Renewed app db s' slot := by
  obtain ⟨c₀, v, c, hc₀, hv, hc, hactive⟩ := h
  exact ⟨c₀, v, c, hc₀, hv, hsame.trans hc, hactive⟩

/-- A column that was written under the active key, with what it held. -/
theorem Source.renewed (hsource : Source app db slot c₀) (hv : JsonHelper.fromJson app c₀ = .ok v)
    (hc : c.UnderActive app v) (hcell : s.cell slot = some c) : Renewed app db s slot := by
  obtain ⟨c₁, hc₁, hread⟩ := hsource
  exact ⟨c₁, v, c, hc₁, hread ▸ hv, hcell, hc⟩

/-- Some columns are renewed, or NULL as before, and the others are left alone. -/
theorem Progress.write {s' : Storage} {changed : Slot → Prop} (h : Progress app db done s)
    (hother : ∀ x, ¬ changed x → s'.cell x = s.cell x)
    (hchanged : ∀ x, changed x → x.Rotated ∧
      (Renewed app db s' x ∨ db.cell x = none ∧ s'.cell x = none)) :
    Progress app db (fun x => done x ∨ changed x) s' := by
  constructor
  · intro x hx hcell
    by_cases hxs : changed x
    · rcases (hchanged x hxs).2 with hrenewed | ⟨hnone, -⟩
      · exact hrenewed
      · exact absurd hnone hcell
    · exact (h.renewed x (hx.resolve_right hxs) hcell).congr (hother x hxs)
  · intro x
    by_cases hxs : changed x
    · obtain ⟨hx, hrenewed | ⟨hnone, hnone'⟩⟩ := hchanged x hxs
      · exact Or.inr ⟨hx, hrenewed⟩
      · exact Or.inl (hnone'.trans hnone.symm)
    · rcases h.rest x with hsame | ⟨hx, hrenewed⟩
      · exact Or.inl ((hother x hxs).trans hsame)
      · exact Or.inr ⟨hx, hrenewed.congr (hother x hxs)⟩

theorem Walking.mono (h : Walking app db done s)
    (hsub : ∀ slot, done' slot → db.cell slot ≠ none → done slot) : Walking app db done' s :=
  ⟨h.1, h.2.mono hsub⟩

theorem Walking.consistent (h : Walking app db done s) : Consistent app db s :=
  Or.inl (h.mono fun _ hx => hx.elim)

theorem Finished.consistent (h : Finished app db s) : Consistent app db s := Or.inr h

/-! ### One row -/

/-- Encrypting a column again reads it and does not change the database. -/
theorem reencrypt_wp (henabled : app.encryption.isEnabled = true) (hs : Consistent app db s)
    {Q : Storage → Except JsError Column → Prop} (herror : ∀ e, Q s (.error e))
    (hok : ∀ v c, JsonHelper.fromJson app c₀ = .ok v → c.UnderActive app v → Q s (.ok c)) :
    (reencrypt app c₀).wp (rotationMonitor app db) Q s := by
  refine wp_bind.2 (wp_ofExcept.2 ?_)
  cases hread : JsonHelper.fromJson app c₀ with
  | error e => exact herror e
  | ok v =>
    refine ofService_wp hs fun t x hr => ?_
    cases x with
    | error e => exact herror e
    | ok c => exact hok v c hread (toJson_underActive henabled hr)

/-- `s'` is `s` with one column set. -/
structure Sets (s : Storage) (slot : Slot) (c : Column) (s' : Storage) : Prop where
  state : s'.state = s.state
  self : s'.cell slot = some c
  other : ∀ x, x ≠ slot → s'.cell x = s.cell x

/-- The program is an update of one column: it sets it, or fails. -/
def Updates (app : App) (db : Storage) (slot : Slot) (update : Column → StorageProg Unit) : Prop :=
  ∀ s c (Q : Storage → Except JsError Unit → Prop), Consistent app db s →
    (∀ x s', Sets s slot c s' → Q s' x) → (∀ e, Q s (.error e)) →
    (update c).wp (rotationMonitor app db) Q s

/-- A request whose execution sets the column, if there is such a row, is an update of it. -/
theorem update_wp {r : StorageReq} {k : StorageAns r → Except JsError Unit}
    {Q : Storage → Except JsError Unit → Prop} (hs : Consistent app db s)
    (hexec : Sets s slot c (s.exec r) ∨
      s.exec r = s ∧ ∀ a, s.Shows r a → ∃ e, k a = .error e)
    (hfailed : ∀ a, r.Failed a → ∃ e, k a = .error e)
    (hset : ∀ x s', Sets s slot c s' → Q s' x) (herror : ∀ e, Q s (.error e)) :
    (.await r fun a => .settle (k a) : StorageProg Unit).wp (rotationMonitor app db) Q s := by
  refine ⟨hs, ?_⟩
  rintro a s' (⟨hshows, rfl⟩ | ⟨hfail, rfl⟩)
  · rcases hexec with hsets | ⟨hsame, hrow⟩
    · exact hset (k a) _ hsets
    · obtain ⟨e, he⟩ := hrow a hshows
      show Q (s.exec r) (k a)
      rw [hsame, he]
      exact herror e
  · obtain ⟨e, he⟩ := hfailed a hfail
    show Q _ (k a)
    rw [he]
    exact herror e

theorem dlqItemUpdate_updates (id : String) :
    Updates app db (.dlqPayload id) fun c => .await (.dlqItemUpdate id c) .settle := by
  intro s c Q hs hset herror
  refine update_wp hs ?_ ?_ hset herror
  · cases hrow : s.dlqItem id with
    | some row =>
      refine Or.inl ⟨rfl, Storage.setRow_self hrow, fun x hx => ?_⟩
      cases x with
      | dlqPayload id' => exact Storage.setRow_of_ne (by simpa using hx)
      | _ => rfl
    | none =>
      refine Or.inr ⟨by simp only [Storage.exec, Storage.setRow_of_none hrow], ?_⟩
      rintro (e | u) hshows
      · exact ⟨e, rfl⟩
      · exact absurd hrow hshows
  · rintro (e | u) hfailed
    · exact ⟨e, rfl⟩
    · exact hfailed.elim

theorem targetSystemUpdate_updates (id : String) :
    Updates app db (.targetConfig id) fun c => .await (.targetSystemUpdate id c) .settle := by
  intro s c Q hs hset herror
  refine update_wp hs ?_ ?_ hset herror
  · cases hrow : s.targetSystem id with
    | some row =>
      refine Or.inl ⟨rfl, Storage.setRow_self hrow, fun x hx => ?_⟩
      cases x with
      | targetConfig id' => exact Storage.setRow_of_ne (by simpa using hx)
      | _ => rfl
    | none =>
      refine Or.inr ⟨by simp only [Storage.exec, Storage.setRow_of_none hrow], ?_⟩
      rintro (e | u) hshows
      · exact ⟨e, rfl⟩
      · exact absurd hrow hshows
  · rintro (e | u) hfailed
    · exact ⟨e, rfl⟩
    · exact hfailed.elim

variable (slot) in
/-- A row with one column. -/
theorem rotateColumn_wp (henabled : app.encryption.isEnabled = true) (hslot : slot.Rotated)
    {update : Column → StorageProg Unit} (hupdate : Updates app db slot update)
    (hsource : Source app db slot c₀) (hs : Walking app db done s) :
    (do let c ← reencrypt app c₀; update c).wp (rotationMonitor app db)
      (Walked app db done fun x => done x ∨ x = slot) s := by
  refine wp_bind.2 (reencrypt_wp henabled hs.consistent (fun e => hs) fun v c hv hc => ?_)
  refine hupdate s c _ hs.consistent (fun x s' hset => ?_) fun e => hs
  have hwalking : Walking app db (fun x => done x ∨ x = slot) s' := by
    refine ⟨?_, hs.2.write hset.other ?_⟩
    · unfold Storage.activeKeyId
      rw [hset.state]
      exact hs.1
    · rintro x rfl
      exact ⟨hslot, Or.inl (hsource.renewed hv hc hset.self)⟩
  cases x with
  | error e => exact hwalking.mono fun x hx _ => Or.inl hx
  | ok u => exact hwalking

/-- A row of the audit log: its payload, and its response where there is one. -/
theorem rotateAuditLog_wp (henabled : app.encryption.isEnabled = true) {row : AuditLogRow}
    (hpayload : Source app db (.auditPayload row.id) row.payload)
    (hresponse : match row.response with
      | none => db.cell (.auditResponse row.id) = none
      | some c => Source app db (.auditResponse row.id) c)
    (hs : Walking app db done s) :
    (rotateAuditLog app row).wp (rotationMonitor app db)
      (Walked app db done fun x => done x ∨ x = .auditPayload row.id ∨ x = .auditResponse row.id)
      s := by
  obtain ⟨id, payload, response⟩ := row
  -- the update, once both columns are encrypted again
  have hupdate : ∀ v c response', JsonHelper.fromJson app payload = .ok v → c.UnderActive app v →
      (∀ s' : Storage, s'.cell (.auditResponse id) = response' →
        Renewed app db s' (.auditResponse id) ∨
          db.cell (.auditResponse id) = none ∧ s'.cell (.auditResponse id) = none) →
      (.await (.auditLogUpdate id c response') .settle : StorageProg Unit).wp
        (rotationMonitor app db) (Walked app db done fun x =>
          done x ∨ x = .auditPayload id ∨ x = .auditResponse id) s := by
    intro v c response' hv hc hlast
    have hwalking : ∀ row, s.auditLog id = some row →
        Walking app db (fun x => done x ∨ x = .auditPayload id ∨ x = .auditResponse id)
          (s.exec (.auditLogUpdate id c response')) := by
      intro row hrow
      have hset : (s.exec (.auditLogUpdate id c response')).auditLog id = some (c, response') :=
        Storage.setRow_self hrow
      refine ⟨hs.1, hs.2.write (fun x hx => ?_) ?_⟩
      · have hne : ∀ id', x = .auditPayload id' ∨ x = .auditResponse id' → id' ≠ id := by
          rintro id' hx' rfl
          exact hx hx'
        cases x with
        | auditPayload id' =>
          exact congrArg (Option.map Prod.fst) (Storage.setRow_of_ne (hne id' (Or.inl rfl)))
        | auditResponse id' =>
          exact congrArg (Option.bind · Prod.snd) (Storage.setRow_of_ne (hne id' (Or.inr rfl)))
        | _ => rfl
      · rintro x (rfl | rfl)
        · exact ⟨trivial, Or.inl (hpayload.renewed hv hc (by simp [Storage.cell, hset]))⟩
        · exact ⟨trivial, hlast _ (by simp [Storage.cell, hset])⟩
    refine ⟨hs.consistent, ?_⟩
    rintro x s' (⟨hshows, rfl⟩ | ⟨hfailed, rfl⟩)
    · cases hrow : s.auditLog id with
      | some row =>
        cases x with
        | ok u => exact hwalking row hrow
        | error e => exact (hwalking row hrow).mono fun x hx _ => Or.inl hx
      | none =>
        have hsame : s.exec (.auditLogUpdate id c response') = s := by
          simp only [Storage.exec, Storage.setRow_of_none hrow]
        rw [hsame]
        cases x with
        | ok u => exact absurd hrow hshows
        | error e => exact hs
    · cases x with
      | ok u => exact hfailed.elim
      | error e => exact hs
  refine wp_bind.2 (reencrypt_wp henabled hs.consistent (fun e => hs) fun v c hv hc => ?_)
  refine wp_bind.2 ?_
  cases response with
  | none => exact hupdate v c none hv hc fun s' hcell => Or.inr ⟨hresponse, hcell⟩
  | some response =>
    refine wp_bind.2 (reencrypt_wp henabled hs.consistent (fun e => hs) fun w c' hw hc' => ?_)
    exact hupdate v c (some c') hv hc fun s' hcell => Or.inl (hresponse.renewed hw hc' hcell)

/-! ### The tables -/

/-- The loop over the rows of a table. -/
theorem forEach_walked {ρ : Type} {f : ρ → StorageProg Unit} (slots : ρ → Slot → Prop)
    {rows : List ρ} (hrow : ∀ row ∈ rows, ∀ done s, Walking app db done s →
      (f row).wp (rotationMonitor app db) (Walked app db done fun x => done x ∨ slots row x) s)
    (hs : Walking app db done s) :
    (forEach f rows).wp (rotationMonitor app db)
      (Walked app db done fun x => done x ∨ ∃ row ∈ rows, slots row x) s := by
  refine wp_forEach (I := fun rows s =>
    Walking app db (fun x => done x ∨ ∃ row ∈ rows, slots row x) s) ?_ (fun s hs => hs) ?_
  · intro before row s hmem hs
    refine wp_mono (hrow row hmem _ s hs) ?_
    rintro s' (e | u) hs'
    · exact hs'.mono fun x hx _ => Or.inl hx
    · refine hs'.mono fun x hx _ => ?_
      rcases hx with hx | ⟨row', hrow', hx⟩
      · exact Or.inl (Or.inl hx)
      · rcases List.mem_append.1 hrow' with hrow' | hrow'
        · exact Or.inl (Or.inr ⟨row', hrow', hx⟩)
        · exact Or.inr (List.mem_singleton.1 hrow' ▸ hx)
  · exact hs.mono fun x hx _ => hx.resolve_right (by simp)

/-- The rows of a table with one column. -/
theorem forEach_columns_wp (hcorrect : app.encryption.cipher.Correct) {slotOf : String → Slot}
    {f : String × Column → StorageProg Unit} {rows : List (String × Column)}
    (hf : ∀ row done s, Source app db (slotOf row.1) row.2 → Walking app db done s →
      (f row).wp (rotationMonitor app db) (Walked app db done fun x => done x ∨ x = slotOf row.1) s)
    (hrows : ∀ id c, (id, c) ∈ rows ↔ s.cell (slotOf id) = some c) (hs : Walking app db done s) :
    (forEach f rows).wp (rotationMonitor app db)
      (Walked app db done fun x => done x ∨ ∃ id, x = slotOf id) s := by
  refine wp_mono (forEach_walked (fun row x => x = slotOf row.1) ?_ hs) ?_
  · rintro ⟨id, c⟩ hmem done' s' hs'
    exact hf _ done' s' (hs.2.source hcorrect ((hrows id c).1 hmem)) hs'
  · rintro s' (e | u) hs'
    · exact hs'
    · refine hs'.mono fun x hx hcell => ?_
      rcases hx with hx | ⟨id, rfl⟩
      · exact Or.inl hx
      · obtain ⟨c, hc⟩ := Option.ne_none_iff_exists'.1 ((hs.2.eq_none).not.2 hcell)
        exact Or.inr ⟨(id, c), (hrows id c).2 hc, rfl⟩

theorem rotateDlqItems_wp (hcorrect : app.encryption.cipher.Correct)
    (henabled : app.encryption.isEnabled = true) (hs : Walking app db done s) :
    (rotateDlqItems app).wp (rotationMonitor app db)
      (Walked app db done fun x => done x ∨ ∃ id, x = .dlqPayload id) s := by
  refine wp_bind.2 (ask_wp (fun _ => rfl) hs.consistent ?_)
  rintro (e | rows) (hshows | hfailed)
  · exact hs
  · exact hs
  · exact forEach_columns_wp hcorrect (fun row _ _ hsource hs => rotateColumn_wp
      (.dlqPayload row.1) henabled trivial (dlqItemUpdate_updates row.1) hsource hs) hshows hs
  · exact hfailed.elim

theorem rotateTargetSystems_wp (hcorrect : app.encryption.cipher.Correct)
    (henabled : app.encryption.isEnabled = true) (hs : Walking app db done s) :
    (rotateTargetSystems app).wp (rotationMonitor app db)
      (Walked app db done fun x => done x ∨ ∃ id, x = .targetConfig id) s := by
  refine wp_bind.2 (ask_wp (fun _ => rfl) hs.consistent ?_)
  rintro (e | rows) (hshows | hfailed)
  · exact hs
  · exact hs
  · exact forEach_columns_wp hcorrect (fun row _ _ hsource hs => rotateColumn_wp
      (.targetConfig row.1) henabled trivial (targetSystemUpdate_updates row.1) hsource hs)
      hshows hs
  · exact hfailed.elim

theorem rotateAuditLogs_wp (hcorrect : app.encryption.cipher.Correct)
    (henabled : app.encryption.isEnabled = true) (hs : Walking app db done s) :
    (rotateAuditLogs app).wp (rotationMonitor app db)
      (Walked app db done fun x => done x ∨ ∃ id, x = .auditPayload id ∨ x = .auditResponse id)
      s := by
  refine wp_bind.2 (ask_wp (fun _ => rfl) hs.consistent ?_)
  rintro (e | rows) (hshows | hfailed)
  · exact hs
  · exact hs
  · show (forEach (rotateAuditLog app) rows).wp (rotationMonitor app db) _ s
    refine wp_mono (forEach_walked (fun row x =>
      x = .auditPayload row.id ∨ x = .auditResponse row.id) ?_ hs) ?_
    · rintro ⟨id, payload, response⟩ hmem done' s' hs'
      have hrow : s.auditLog id = some (payload, response) := (hshows id payload response).1 hmem
      have hpayload : s.cell (.auditPayload id) = some payload := by simp [Storage.cell, hrow]
      have hresponse : s.cell (.auditResponse id) = response := by simp [Storage.cell, hrow]
      refine rotateAuditLog_wp henabled (hs.2.source hcorrect hpayload) ?_ hs'
      cases response with
      | none => exact hs.2.eq_none.1 hresponse
      | some c => exact hs.2.source hcorrect hresponse
    · rintro s' (e | u) hs'
      · exact hs'
      · refine hs'.mono fun x hx hcell => ?_
        rcases hx with hx | ⟨id, hx⟩
        · exact Or.inl hx
        · have hrow : s.auditLog id ≠ none := by
            intro hnone
            have hx' := hs.2.eq_none.not.2 hcell
            rcases hx with rfl | rfl <;> simp [Storage.cell, hnone] at hx'
          obtain ⟨⟨payload, response⟩, hrow⟩ := Option.ne_none_iff_exists'.1 hrow
          exact Or.inr ⟨⟨id, payload, response⟩, (hshows id payload response).2 hrow, hx⟩
  · exact hfailed.elim

/-! ### The whole rotation -/

theorem rotateTables_wp (hcorrect : app.encryption.cipher.Correct)
    (henabled : app.encryption.isEnabled = true) {state : EncryptionStateRow}
    (hstate : db.state = some state) (hs : Walking app db (fun _ => False) s) :
    (rotateTables app state).wp (rotationMonitor app db)
      (fun s x => Consistent app db s ∧ (x = .ok () → Finished app db s)) s := by
  refine wp_bind.2 (wp_mono (rotateAuditLogs_wp hcorrect henabled hs) ?_)
  rintro s₁ (e | u) hs₁
  · exact ⟨Walking.consistent hs₁, by rintro ⟨⟩⟩
  refine wp_bind.2 (wp_mono (rotateDlqItems_wp hcorrect henabled hs₁) ?_)
  rintro s₂ (e | u) hs₂
  · exact ⟨Walking.consistent hs₂, by rintro ⟨⟩⟩
  refine wp_bind.2 (wp_mono (rotateTargetSystems_wp hcorrect henabled hs₂) ?_)
  rintro s₃ (e | u) hs₃
  · exact ⟨Walking.consistent hs₃, by rintro ⟨⟩⟩
  have hall : Progress app db Slot.Rotated s₃ := by
    refine hs₃.2.mono fun x hx _ => ?_
    cases x with
    | auditPayload id => exact Or.inl (Or.inl (Or.inr ⟨id, Or.inl rfl⟩))
    | auditResponse id => exact Or.inl (Or.inl (Or.inr ⟨id, Or.inr rfl⟩))
    | dlqPayload id => exact Or.inl (Or.inr ⟨id, rfl⟩)
    | targetConfig id => exact Or.inr ⟨id, rfl⟩
    | hostMetadata id => exact hx.elim
  have hwalking : Walking app db (fun _ => False) s₃ := hs₃.mono fun x hx _ => hx.elim
  refine wp_bind.2 (wp_ofExcept.2 ?_)
  cases previousKeyIds state.activeKeyId state.previousKeyIds with
  | error e => exact ⟨hwalking.consistent, by rintro ⟨⟩⟩
  | ok keyIds =>
    refine wp_bind.2 (wp_ofExcept.2 ?_)
    cases hactive : app.encryption.activeKeyId with
    | error e => exact ⟨hwalking.consistent, by rintro ⟨⟩⟩
    | ok kid =>
      have hfinished : Finished app db (s₃.exec (.stateComplete kid (keyIdsText keyIds))) := by
        refine ⟨⟨kid, hactive, ?_⟩, hall.renewed, hall.rest⟩
        have hkey : s₃.activeKeyId = some state.activeKeyId := by
          rw [hs₃.1, Storage.activeKeyId, hstate, Option.map_some]
        obtain ⟨row, hrow, -⟩ := Option.map_eq_some_iff.1 hkey
        simp [Storage.exec, Storage.activeKeyId, hrow]
      refine ⟨hwalking.consistent, ?_⟩
      rintro x s' (⟨-, rfl⟩ | ⟨hfailed, rfl⟩)
      · exact ⟨hfinished.consistent, fun _ => hfinished⟩
      · cases x with
        | ok u => exact hfailed.elim
        | error e => exact ⟨hwalking.consistent, by rintro ⟨⟩⟩

/-- Recording the status of the rotation does not change which key is active. -/
theorem markRotation_wp {status : String} {state : EncryptionStateRow}
    {I : Storage → Prop} (hI : ∀ s, I s → Consistent app db s)
    (hmark : ∀ s ids, I s → I (s.exec (.stateMark status ids))) (hs : I s) :
    (markRotation status state).wp (rotationMonitor app db) (fun s _ => I s) s := by
  refine wp_bind.2 (wp_ofExcept.2 ?_)
  cases previousKeyIds state.activeKeyId state.previousKeyIds with
  | error e => exact hs
  | ok keyIds =>
    refine ⟨hI s hs, ?_⟩
    rintro x s' (⟨-, rfl⟩ | ⟨-, rfl⟩)
    · exact hmark s _ hs
    · exact hs

theorem activeKeyId_mark (s : Storage) (status : String) (ids : JsonText) :
    (s.exec (.stateMark status ids)).activeKeyId = s.activeKeyId := by
  unfold Storage.exec Storage.activeKeyId
  cases s.state <;> rfl

theorem Walking.mark (h : Walking app db done s) (status : String) (ids : JsonText) :
    Walking app db done (s.exec (.stateMark status ids)) :=
  ⟨(activeKeyId_mark s status ids).trans h.1, h.2.renewed, h.2.rest⟩

theorem Consistent.mark (h : Consistent app db s) (status : String) (ids : JsonText) :
    Consistent app db (s.exec (.stateMark status ids)) := by
  rcases h with hwalking | ⟨⟨kid, hkid, hkey⟩, hprogress⟩
  · exact Or.inl (hwalking.mark status ids)
  · exact Or.inr ⟨⟨kid, hkid, (activeKeyId_mark s status ids).trans hkey⟩, hprogress.renewed,
      hprogress.rest⟩

/-- The preliminary questions. -/
theorem assertNoActiveProcessing_reads (app : App) (rotation : RotationConfig) :
    (assertNoActiveProcessing app rotation).Issues StorageReq.Reads := by
  have hask : ∀ {r : StorageReq} {α : Type} {k : StorageAns r → Except JsError α},
      (∀ s : Storage, s.exec r = s) →
        (.await r fun a => .settle (k a) : StorageProg α).Issues StorageReq.Reads :=
    fun hr => ⟨reads_of_not_written hr, fun _ => issues_settle⟩
  have hlag : ∀ groupId topics lag, (lagFrom groupId topics lag).Issues StorageReq.Reads := by
    intro groupId topics
    induction topics with
    | nil => exact fun _ => issues_pure
    | cons topic topics ih =>
      intro lag
      refine Issues.bind (hask fun _ => rfl) fun topicOffsets => ?_
      exact Issues.bind (hask fun _ => rfl) fun groupOffsets => ih _
  have hkafka : (kafkaLag app rotation).Issues StorageReq.Reads := by
    unfold kafkaLag tryFinally
    split
    · exact issues_pure
    · refine Issues.bind (hask fun _ => rfl) fun _ => Issues.bind ?_ fun x => ?_
      · exact Issues.tryCatch ((hlag _ _ _).bind fun _ => issues_pure) fun _ => issues_pure
      · exact Issues.bind (hask fun _ => rfl) fun _ => issues_ofExcept
  refine Issues.bind (hask fun _ => rfl) fun dlqActive => ?_
  refine Issues.bind (issues_embed service_reads) fun dateNow => ?_
  refine Issues.bind (hask fun _ => rfl) fun idempotencyActive => ?_
  refine hkafka.bind fun lag => ?_
  dsimp only
  generalize (_ ++ _ ++ _ : List String) = blockers
  split
  · exact issues_throw
  · exact issues_pure

theorem rotate_wp (hcorrect : app.encryption.cipher.Correct)
    (henabled : app.encryption.isEnabled = true) {rotation : RotationConfig}
    {state : EncryptionStateRow} (hstate : db.state = some state) :
    (rotate app rotation state).wp (rotationMonitor app db)
      (fun s x => Consistent app db s ∧ (x = .ok () → Finished app db s)) db := by
  have hdb : Walking app db (fun _ => False) db := ⟨rfl, progress_refl⟩
  have hmark := fun (s : Storage) ids (h : Walking app db (fun _ => False) s) => h.mark "running" ids
  refine wp_bind.2 (wp_mono
    (reads_wp (assertNoActiveProcessing_reads app rotation) hdb.consistent) ?_)
  rintro _ (e | u) rfl
  · exact ⟨hdb.consistent, by rintro ⟨⟩⟩
  refine wp_bind.2 (wp_mono (markRotation_wp (fun _ hs => hs.consistent) hmark hdb) ?_)
  rintro s (e | u) hs
  · exact ⟨hs.consistent, by rintro ⟨⟩⟩
  refine wp_tryCatch.2 (wp_mono (rotateTables_wp hcorrect henabled hstate hs) ?_)
  rintro s' (error | u) ⟨hs', hdone⟩
  · refine wp_bind.2 (wp_mono (markRotation_wp (I := Consistent app _) (fun _ hs => hs)
      (fun s ids hs => hs.mark "failed" ids) hs') ?_)
    rintro s'' (e | u) hs''
    · exact ⟨hs'', by rintro ⟨⟩⟩
    · exact ⟨hs'', by rintro ⟨⟩⟩
  · exact ⟨hs', hdone⟩

/-- The rotation finds nothing to do: the encryption state names the active key. -/
def NothingToDo (app : App) (db : Storage) : Prop := app.encryption.Names db

variable (db) in
/-- Wherever it is stopped, the rotation leaves a consistent database. If it resolves, it had nothing
to do and did nothing, or it is finished. -/
theorem rotateToActiveKey_wp (hcorrect : app.encryption.cipher.Correct)
    {rotation : RotationConfig} :
    (rotateToActiveKey app rotation).wp (rotationMonitor app db)
      (fun s x => Consistent app db s ∧ (x = .ok () → app.encryption.isEnabled = true ∧
        (NothingToDo app db ∧ s = db ∨ ¬ NothingToDo app db ∧ Finished app db s))) db := by
  have hdb : Consistent app db db := Or.inl ⟨rfl, progress_refl⟩
  refine wp_bind.2 (wp_ofExcept.2 ?_)
  by_cases henabled : app.encryption.isEnabled = true
  · rw [if_pos henabled]
    refine wp_bind.2 (wp_ofExcept.2 ?_)
    cases app.encryption.validateConfiguration with
    | error e => exact ⟨hdb, by rintro ⟨⟩⟩
    | ok u =>
      refine wp_bind.2 (wp_bind.2 (ask_wp (fun _ => rfl) hdb ?_))
      rintro (e | state) (hshows | hfailed)
      · exact ⟨hdb, by rintro ⟨⟩⟩
      · exact ⟨hdb, by rintro ⟨⟩⟩
      · obtain rfl : state = db.state := hshows
        cases hstate : db.state with
        | none => exact ⟨hdb, by rintro ⟨⟩⟩
        | some state =>
          have hkey : db.activeKeyId = some state.activeKeyId := by
            rw [Storage.activeKeyId, hstate, Option.map_some]
          refine wp_bind.2 (wp_ofExcept.2 ?_)
          cases hactive : app.encryption.activeKeyId with
          | error e => exact ⟨hdb, by rintro ⟨⟩⟩
          | ok nextKeyId =>
            dsimp only
            split
            · next hsame =>
              have hnothing : NothingToDo app db := ⟨nextKeyId, hactive, hsame ▸ hkey⟩
              exact ⟨hdb, fun _ => ⟨henabled, Or.inl ⟨hnothing, rfl⟩⟩⟩
            · next hother =>
              have hsomething : ¬ NothingToDo app db := by
                rintro ⟨kid, hkid, hkey'⟩
                rw [hactive] at hkid
                rw [hkey] at hkey'
                cases hkid
                cases hkey'
                exact hother rfl
              refine wp_mono (rotate_wp hcorrect henabled hstate) ?_
              rintro s x ⟨hs, hdone⟩
              exact ⟨hs, fun hx => ⟨henabled, Or.inr ⟨hsomething, hdone hx⟩⟩⟩
      · exact hfailed.elim
  · rw [if_neg henabled]
    exact ⟨hdb, by rintro ⟨⟩⟩

end IdmMw
