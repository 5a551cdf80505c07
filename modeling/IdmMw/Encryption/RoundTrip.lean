import IdmMw.Model.Sealing
import IdmMw.Model.Webhook
import IdmMw.Pipeline.Traces

/-!
# Reading back what was stored

A JSON column is written by `JsonHelper.toJson` and read by `JsonHelper.fromJson`: as a text or as a
native value, encrypted or not. The value read back should be the value written (`RoundTrips`).

* `toJson_stored`: what is stored, in each of the four modes;
* `decryptFromStorage_envelope`: an envelope is decrypted once, with the key it names;
* `roundTrips_iff`: with encryption every value is read back, also one that has the shape of an
  envelope. Without encryption such a value is stored as it is, and taken for an envelope when it is
  read.
-/

namespace IdmMw

open Async

variable {app : App} {v : Json} {t : Trace}

/-! ### The law -/

/-- Write a column and read it. -/
def roundTrip (app : App) (v : Json) : Prog Json := do
  let column ← JsonHelper.toJson app v
  Async.ofExcept (JsonHelper.fromJson app column)

/-- The value is read back, whatever the initialization vector. -/
def RoundTrips (app : App) (v : Json) : Prop := ∀ t x, (roundTrip app v).Runs t x → x = .ok v

/-! ### What is stored -/

/-- A value in a column, as the provider has it. -/
def App.column (app : App) (stored : Json) : Column :=
  if app.config.isSqlite then .text stored.stringify else .native stored

/-- Reading a column undoes the storage mode; what is left is decrypted if it is an envelope. -/
theorem fromJson_column (stored : Json) :
    JsonHelper.fromJson app (app.column stored) = app.encryption.decryptFromStorage stored := by
  unfold App.column
  split <;> rfl

/-- Without encryption the value itself is stored, with encryption an envelope of it under the active
key, which the keyring has. -/
theorem toJson_stored {x : Except JsError Column} (h : (JsonHelper.toJson app v).Runs t x) :
    (app.encryption.isEnabled = false ∧ t = [] ∧ x = .ok (app.column v)) ∨
      app.encryption.isEnabled = true ∧ ∃ kid key iv, app.encryption.activeKeyId = .ok kid ∧
        app.encryption.requireKey kid = .ok key ∧
        x = .ok (app.column (EncryptionService.envelope kid iv
          (app.encryption.cipher.encrypt key iv v.stringify).1
          (app.encryption.cipher.encrypt key iv v.stringify).2)) := by
  unfold JsonHelper.toJson EncryptionService.encryptForStorage at h
  cases henabled : app.encryption.isEnabled with
  | false =>
    rw [henabled] at h
    obtain ⟨rfl, rfl⟩ := h
    exact Or.inl ⟨rfl, rfl, rfl⟩
  | true =>
    refine Or.inr ⟨rfl, ?_⟩
    rw [henabled, if_pos rfl] at h
    rcases runs_bind.1 h with ⟨e, rfl, h'⟩ | ⟨stored, t₁, t₂, rfl, h₁, rfl, rfl⟩
    · rcases encryptObject_runs h' with ⟨_, _, _, -, -, hx⟩ | ⟨-, hinvalid⟩
      · cases hx
      · exact absurd (app.encryption_valid henabled) hinvalid
    · rcases encryptObject_runs h₁ with ⟨kid, key, iv, hkid, hkey, hx⟩ | ⟨⟨_, hx, -⟩, -⟩
      · cases hx
        exact ⟨kid, key, iv, hkid, hkey, rfl⟩
      · cases hx

/-! ### Envelopes -/

/-- An envelope of a value is decrypted to the value, where the key it names is in the keyring. -/
theorem decryptFromStorage_envelope {service : EncryptionService} {kid key iv : String}
    (hcipher : service.cipher.Correct) (hkey : service.requireKey kid = .ok key) :
    service.decryptFromStorage (EncryptionService.envelope kid iv
      (service.cipher.encrypt key iv v.stringify).1
      (service.cipher.encrypt key iv v.stringify).2) = .ok v := by
  have hdecrypt := hcipher key iv v.stringify
  simp only [EncryptionService.decryptFromStorage, EncryptionService.envelope?_envelope,
    EncryptionService.decryptObject, hkey, hdecrypt]
  rfl

/-- The ciphertext of an envelope is a part of it. -/
theorem length_ciphertext_lt {kid iv tag ct : String}
    (h : EncryptionService.envelope? v = some (kid, iv, tag, ct)) : ct.length < v.minLength := by
  unfold EncryptionService.envelope? at h
  split at h
  · simp only [Option.bind_eq_bind, Option.bind_eq_some_iff, Option.pure_def, Option.some.injEq,
      Prod.mk.injEq] at h
    obtain ⟨_, -, _, -, _, -, _, hct, -, -, -, rfl⟩ := h
    exact Json.length_lt_of_getStr? hct
  · cases h

/-- No envelope is decrypted to itself. -/
theorem decryptFromStorage_ne_self {service : EncryptionService}
    (hlength : service.cipher.KeepsLength) (henvelope : EncryptionService.envelope? v ≠ none) :
    service.decryptFromStorage v ≠ .ok v := by
  obtain ⟨⟨kid, iv, tag, ct⟩, hfields⟩ := Option.ne_none_iff_exists'.1 henvelope
  intro h
  simp only [EncryptionService.decryptFromStorage, hfields, EncryptionService.decryptObject] at h
  split at h
  · cases h
  split at h
  · cases h
  · next key _ plaintext hdecrypt =>
    cases plaintext with
    | malformed => cases h
    | text w =>
      obtain rfl := Except.ok.inj h
      have hle := hlength _ _ _ _ _ hdecrypt
      have hlt := length_ciphertext_lt hfields
      omega

/-! ### The round trip -/

/-- A value that is stored is read back exactly if encryption is enabled or the value does not have
the shape of an envelope. -/
theorem roundTrips_iff (hcipher : app.encryption.cipher.Correct)
    (hlength : app.encryption.cipher.KeepsLength) :
    RoundTrips app v ↔
      app.encryption.isEnabled = true ∨ EncryptionService.envelope? v = none := by
  constructor
  · intro h
    by_contra hcon
    obtain ⟨hdisabled, henvelope⟩ := not_or.1 hcon
    have hstored : (JsonHelper.toJson app v).Runs [] (.ok (app.column v)) := by
      unfold JsonHelper.toJson EncryptionService.encryptForStorage
      rw [if_neg hdisabled]
      exact ⟨rfl, rfl⟩
    have hread := h [] _ (runs_bind.2 (Or.inr ⟨_, [], [], rfl, hstored, rfl, rfl⟩))
    rw [fromJson_column] at hread
    exact decryptFromStorage_ne_self hlength henvelope hread
  · rintro h t x hrun
    rcases runs_bind.1 hrun with ⟨e, rfl, h'⟩ | ⟨column, t₁, t₂, rfl, h₁, -, rfl⟩
    · obtain ⟨column, hx⟩ := toJson_runs h'
      cases hx
    · rcases toJson_stored h₁ with
        ⟨hdisabled, -, hcolumn⟩ | ⟨-, kid, key, iv, -, hkey, hcolumn⟩
      · cases hcolumn
        rw [hdisabled] at h
        rw [fromJson_column]
        unfold EncryptionService.decryptFromStorage
        rw [h.resolve_left (by decide)]
      · cases hcolumn
        rw [fromJson_column]
        exact decryptFromStorage_envelope hcipher hkey

/-- With encryption a payload that has the shape of an envelope is read back. -/
theorem roundTrips_forged :
    RoundTrips App.sealed (EncryptionService.envelope "k1" "" "" "") :=
  (roundTrips_iff Cipher.sealing_correct Cipher.sealing_keepsLength).2 (Or.inl rfl)

/-- Without encryption the webhook accepts a payload that cannot be read back. -/
theorem not_roundTrips :
    ∃ v, avanpostPayloadShape v = true ∧ ¬ RoundTrips App.bare v := by
  refine ⟨EncryptionService.envelope "k1" "" "" "", by decide, fun h => ?_⟩
  have hread := h [] (.error (.error "no keyring")) ⟨rfl, rfl⟩
  cases hread

end IdmMw
