import IdmMw.Admin.Merging
import IdmMw.Admin.PublicView
import IdmMw.Library.Serial

/-!
# Concurrent edits of a target system

A call of `update` reads the row, merges and validates, and writes the columns that the request
names. Two calls on one row should leave what they leave one after the other.

* `UpdateCall`, `updateCalls`: the calls, as calls that read and then write;
* `observe`: the type and the configuration of a row, but for the order of keys;
* `nextColumns_ok`, `prepareUpdate_ok`: what a call writes;
* `AsIfReadNow`: a write finds the secrets that its request leaves as its call has read them, and the
  call would still be accepted. Then it does what it would do if it read now;
* `updates_serialize`: hence two calls whose writes meet the condition leave what they leave one
  after the other; a secret that one of them rotates stays, and the pair is valid.
-/

namespace IdmMw

open OrderedMap TargetSystemService Interleaving Transitions

variable {app : App}

/-! ### The calls -/

/-- A call of `update`: its request, what encoding gives in it and the time stamp of its write. -/
structure UpdateCall (app : App) where
  dto : UpdateTargetSystemDto
  encode : Json → Except JsError Column
  updatedAt : Time
  isToJson : IsToJson app encode
  distinct : ∀ v, dto.config = some v → v.distinctKeys = true

/-- The statements of calls that succeed. After the second one the row is shown. -/
def updateCalls {ι : Type} (calls : ι → UpdateCall app) :
    Calls ι TargetSystem TargetSystemUpdate where
  prepare i row := (prepareUpdate app (calls i).encode (calls i).dto (some row)).toOption
  write i data row :=
    let item := data.apply (calls i).updatedAt row
    if (toPublicTargetSystem app item).toOption.isSome then some item else none

/-- With encryption disabled no request has a configuration with the shape of an envelope, which
would not be read back. -/
def UpdateCall.ReadBack (call : UpdateCall app) : Prop :=
  app.encryption.isEnabled = true ∨
    ∀ v, call.dto.config = some v → EncryptionService.envelope? v = none

/-- The type and the configuration of a row, but for the order of keys. -/
def observe (app : App) (row : TargetSystem) :
    String × Except AdminError (List String → Option Json) :=
  (row.type, (readConfig app row.config).map fun v path => (v.at? path).map Json.shell)

theorem observe_eq_iff {row row' : TargetSystem} {v : Json}
    (hv : readConfig app row.config = .ok v) : observe app row = observe app row' ↔
      row.type = row'.type ∧ ∃ v', readConfig app row'.config = .ok v' ∧ v.EqUpToOrder v' := by
  unfold observe
  rw [hv]
  constructor
  · intro h
    obtain ⟨htype, hconfig⟩ := Prod.mk.inj h
    cases hv' : readConfig app row'.config with
    | error e =>
      rw [hv'] at hconfig
      cases hconfig
    | ok v' =>
      rw [hv'] at hconfig
      exact ⟨htype, v', rfl, fun path => congrFun (Except.ok.inj hconfig) path⟩
  · rintro ⟨htype, v', hv', heq⟩
    rw [htype, hv']
    exact Prod.ext rfl (congrArg Except.ok (funext heq))

/-! ### What is read back -/

/-- The fields of an envelope are texts, and no secrets: the merge leaves them as they are sent. -/
theorem envelope?_merge {current incoming : Settings} (hcurrent : Distinct current) :
    EncryptionService.envelope? (.obj (mergeConfigPreservingSecrets current incoming)) =
      EncryptionService.envelope? (.obj incoming) := by
  have hget : ∀ key, isSecretKey key = false →
      (Json.obj (mergeConfigPreservingSecrets current incoming)).getStr? key =
        (Json.obj incoming).getStr? key := by
    intro key hkey
    unfold Json.getStr?
    rw [Json.get?_obj, Json.get?_obj, lookup_merge hcurrent]
    by_cases hobj : ∃ fields, incoming.lookup key = some (.obj fields)
    · obtain ⟨fields, hfields⟩ := hobj
      rw [mergedValue_obj hkey hfields, hfields]
    · rw [mergedValue_of_not_obj hkey (not_exists.1 hobj)]
  unfold EncryptionService.envelope?
  rw [hget "__enc" (by decide), hget "alg" (by decide), hget "kid" (by decide),
    hget "iv" (by decide), hget "tag" (by decide), hget "ct" (by decide)]

/-- What is written is read back. -/
theorem readConfig_encode (hcipher : app.encryption.cipher.Correct)
    {encode : Json → Except JsError Column} (hencode : IsToJson app encode) {fields : Settings}
    (hread : app.encryption.isEnabled = true ∨ EncryptionService.envelope? (.obj fields) = none) :
    ∃ column, encode (.obj fields) = .ok column ∧ readConfig app column = .ok (.obj fields) := by
  obtain ⟨t, hrun⟩ := hencode (.obj fields)
  rcases toJson_stored hrun with ⟨hdisabled, -, hcolumn⟩ | ⟨-, kid, key, iv, -, hkey, hcolumn⟩
  · rw [hdisabled] at hread
    refine ⟨_, hcolumn, ?_⟩
    unfold readConfig
    rw [fromJson_column]
    unfold EncryptionService.decryptFromStorage
    rw [hread.resolve_left (by decide)]
    rfl
  · refine ⟨_, hcolumn, ?_⟩
    unfold readConfig
    rw [fromJson_column, decryptFromStorage_envelope hcipher hkey]
    rfl

/-! ### What a call writes -/

variable {call : UpdateCall app} {row row' : TargetSystem} {data data' : TargetSystemUpdate}

/-- What is sent is merged if it is an object; anything else only with nothing. -/
theorem mergeIncoming_ok {current next : Settings} {sent : Json}
    (h : mergeIncoming current sent = .ok next) :
    (∃ incoming, sent = .obj incoming ∧
      next = mergeConfigPreservingSecrets current incoming) ∨
    (∀ incoming, sent ≠ .obj incoming) ∧ current = [] ∧ next = [] := by
  cases sent with
  | obj incoming => exact .inl ⟨incoming, rfl, (Except.ok.inj h).symm⟩
  | _ =>
    unfold mergeIncoming at h
    by_cases hcurrent : current = []
    · rw [if_pos hcurrent] at h
      exact .inr ⟨nofun, hcurrent, (Except.ok.inj h).symm⟩
    · rw [if_neg hcurrent] at h
      cases h

section Columns

variable {encode : Json → Except JsError Column} {dto : UpdateTargetSystemDto} {type : String}
  {current : Settings}

/-- An accepted call sets the columns that its request names; the configuration that will be stored
is valid for its type. -/
theorem nextColumns_ok (h : nextColumns encode dto type current = .ok data) :
    data.type = dto.type ∧
      ((dto.config = none ∧ data.config = none ∧
        validateTargetSystemConfig (dto.type.getD type) current = .ok ()) ∨
      ∃ sent next column, dto.config = some sent ∧ mergeIncoming current sent = .ok next ∧
        validateTargetSystemConfig (dto.type.getD type) next = .ok () ∧
        encode (.obj next) = .ok column ∧ data.config = some column) := by
  unfold nextColumns at h
  cases hconfig : dto.config with
  | none =>
    rw [hconfig] at h
    change (validateTargetSystemConfig (dto.type.getD type) current >>= fun _ => _) = _ at h
    cases hvalid : validateTargetSystemConfig (dto.type.getD type) current with
    | error e =>
      rw [hvalid] at h
      cases h
    | ok _ =>
      rw [hvalid] at h
      obtain rfl := Except.ok.inj h
      exact ⟨rfl, .inl ⟨rfl, rfl, rfl⟩⟩
  | some sent =>
    rw [hconfig] at h
    dsimp only at h
    cases hmerge : mergeIncoming current sent with
    | error e =>
      rw [hmerge] at h
      cases h
    | ok next =>
      rw [hmerge] at h
      change (validateTargetSystemConfig (dto.type.getD type) next >>= fun _ => _) = _ at h
      cases hvalid : validateTargetSystemConfig (dto.type.getD type) next with
      | error e =>
        rw [hvalid] at h
        cases h
      | ok _ =>
        rw [hvalid] at h
        change (((encode (.obj next)).mapError AdminError.error).map some >>= fun _ => _) = _ at h
        cases hencode : encode (.obj next) with
        | error e =>
          rw [hencode] at h
          cases h
        | ok column =>
          rw [hencode] at h
          obtain rfl := Except.ok.inj h
          exact ⟨rfl, .inr ⟨sent, next, column, rfl, hmerge, hvalid, hencode, rfl⟩⟩

theorem nextColumns_of_none (hconfig : dto.config = none)
    (hvalid : validateTargetSystemConfig (dto.type.getD type) current = .ok ()) :
    ∃ data, nextColumns encode dto type current = .ok data := by
  unfold nextColumns
  rw [hconfig]
  show ∃ data, (validateTargetSystemConfig (dto.type.getD type) current >>= fun _ => _) = .ok data
  rw [hvalid]
  exact ⟨_, rfl⟩

theorem nextColumns_of_some {sent : Json} {next : Settings} {column : Column}
    (hconfig : dto.config = some sent) (hmerge : mergeIncoming current sent = .ok next)
    (hvalid : validateTargetSystemConfig (dto.type.getD type) next = .ok ())
    (hencode : encode (.obj next) = .ok column) :
    ∃ data, nextColumns encode dto type current = .ok data := by
  unfold nextColumns
  rw [hconfig]
  dsimp only
  rw [hmerge]
  show ∃ data, (validateTargetSystemConfig (dto.type.getD type) next >>= fun _ => _) = .ok data
  rw [hvalid]
  show ∃ data, (((encode (.obj next)).mapError AdminError.error).map some >>= fun _ => _) = .ok data
  rw [hencode]
  exact ⟨_, rfl⟩

end Columns

theorem prepareUpdate_of_needsCurrent (hneeds : needsCurrent call.dto = true) {v : Json}
    (hv : readConfig app row.config = .ok v) :
    prepareUpdate app call.encode call.dto (some row) =
      nextColumns call.encode call.dto row.type v.settings := by
  unfold prepareUpdate
  rw [if_pos hneeds]
  dsimp only
  rw [hv]
  rfl

/-- A call that names neither type nor configuration reads nothing. Any other is accepted for the row
that it reads. -/
theorem prepareUpdate_ok (h : prepareUpdate app call.encode call.dto (some row) = .ok data) :
    (call.dto.config = none ∧ call.dto.type = none ∧ data.config = none ∧ data.type = none) ∨
      needsCurrent call.dto = true ∧ ∃ v, readConfig app row.config = .ok v ∧
        nextColumns call.encode call.dto row.type v.settings = .ok data := by
  cases hneeds : needsCurrent call.dto with
  | false =>
    unfold prepareUpdate at h
    rw [hneeds, if_neg Bool.false_ne_true] at h
    obtain rfl := Except.ok.inj h
    obtain ⟨hconfig, htype⟩ := Bool.or_eq_false_iff.1 hneeds
    rw [Option.isSome_eq_false_iff, Option.isNone_iff_eq_none] at hconfig htype
    exact .inl ⟨hconfig, htype, rfl, htype⟩
  | true =>
    refine .inr ⟨rfl, ?_⟩
    cases hv : readConfig app row.config with
    | error e =>
      unfold prepareUpdate at h
      rw [if_pos hneeds] at h
      dsimp only at h
      rw [hv] at h
      cases h
    | ok v =>
      rw [prepareUpdate_of_needsCurrent hneeds hv] at h
      exact ⟨v, rfl, h⟩

/-! ### Rows that look alike -/

theorem Json.EqUpToOrder.settings {v v' : Json} (h : v.EqUpToOrder v') :
    (Json.obj v.settings).EqUpToOrder (.obj v'.settings) := by
  have hshell : v.shell = v'.shell := Option.some.inj (SameValue.shell h)
  cases v with
  | obj fields =>
    cases v' with
    | obj fields' => exact h
    | _ => cases hshell
  | _ =>
    cases v' with
    | obj fields' => cases hshell
    | _ => exact fun _ => rfl

theorem outline_eq_of_sameValue {v v' : Option Json} (h : SameValue v v') :
    v.map outline = v'.map outline := by
  have hshell := congrArg (Option.map outline) h.shell
  rw [Option.map_map, Option.map_map] at hshell
  have houtline : outline ∘ Json.shell = outline := by
    funext v
    cases v <;> rfl
  rwa [houtline] at hshell

theorem validateTargetSystemConfig_of_eqUpToOrder (type : String) {config config' : Settings}
    (h : (Json.obj config).EqUpToOrder (.obj config')) :
    validateTargetSystemConfig type config = validateTargetSystemConfig type config' :=
  validateTargetSystemConfig_of_outline type fun field _ => outline_eq_of_sameValue (h.get? field)

theorem eq_nil_of_eqUpToOrder {config : Settings} (h : (Json.obj []).EqUpToOrder (.obj config)) :
    config = [] := by
  cases config with
  | nil => rfl
  | cons entry config =>
    obtain ⟨key, item⟩ := entry
    have hkey := (h.get? key).shell
    rw [Json.get?_obj, Json.get?_obj, lookup_cons_self] at hkey
    cases hkey

/-! ### One write -/

/-- What is read of a row is a value of the language: keys are distinct. -/
def KeysDistinct (app : App) (row : TargetSystem) : Prop :=
  ∀ v, readConfig app row.config = .ok v → v.distinctKeys = true

theorem distinctKeys_settings {v : Json} (h : v.distinctKeys = true) :
    distinctKeysOfFields v.settings = true := by
  cases v with
  | obj fields => exact h
  | _ => rfl

theorem mergeIncoming_distinct {current next : Settings} {sent : Json}
    (hcurrent : distinctKeysOfFields current = true) (hsent : sent.distinctKeys = true)
    (h : mergeIncoming current sent = .ok next) : distinctKeysOfFields next = true := by
  rcases mergeIncoming_ok h with ⟨incoming, rfl, rfl⟩ | ⟨-, -, rfl⟩
  · exact distinctKeys_merge hcurrent hsent
  · rfl

theorem UpdateCall.ReadBack.next (h : call.ReadBack) {current next : Settings} {sent : Json}
    (hcurrent : distinctKeysOfFields current = true) (hconfig : call.dto.config = some sent)
    (hmerge : mergeIncoming current sent = .ok next) :
    app.encryption.isEnabled = true ∨ EncryptionService.envelope? (.obj next) = none := by
  refine h.imp_right fun hnone => ?_
  rcases mergeIncoming_ok hmerge with ⟨incoming, rfl, rfl⟩ | ⟨-, -, rfl⟩
  · rw [envelope?_merge (distinct_of_distinctKeys hcurrent)]
    exact hnone _ hconfig
  · rfl

/-- The configuration that a call sets, if it sets one: the merge with what it has read, which is read
back. -/
theorem written_config (hcipher : app.encryption.cipher.Correct) (hread : call.ReadBack)
    (hrow : KeysDistinct app row)
    (h : prepareUpdate app call.encode call.dto (some row) = .ok data) :
    (call.dto.config = none ∧ data.config = none) ∨
      ∃ v sent next column, readConfig app row.config = .ok v ∧ call.dto.config = some sent ∧
        mergeIncoming v.settings sent = .ok next ∧ distinctKeysOfFields next = true ∧
        validateTargetSystemConfig (call.dto.type.getD row.type) next = .ok () ∧
        data.config = some column ∧ readConfig app column = .ok (.obj next) := by
  rcases prepareUpdate_ok h with ⟨hconfig, -, hnone, -⟩ | ⟨-, v, hv, hnext⟩
  · exact .inl ⟨hconfig, hnone⟩
  · obtain ⟨-, ⟨hconfig, hnone, -⟩ | ⟨sent, next, column, hsent, hmerge, hvalid, hencode, hcolumn⟩⟩ :=
      nextColumns_ok hnext
    · exact .inl ⟨hconfig, hnone⟩
    · have hcurrent := distinctKeys_settings (hrow v hv)
      obtain ⟨column', hencode', hback⟩ :=
        readConfig_encode hcipher call.isToJson (hread.next hcurrent hsent hmerge)
      obtain rfl : column = column' := Except.ok.inj (hencode.symm.trans hencode')
      exact .inr ⟨v, sent, next, column, hv, hsent, hmerge,
        mergeIncoming_distinct hcurrent (call.distinct sent hsent) hmerge, hvalid, hcolumn, hback⟩

theorem written_type (h : prepareUpdate app call.encode call.dto (some row) = .ok data) :
    data.type = call.dto.type := by
  rcases prepareUpdate_ok h with ⟨-, htype, -, hnone⟩ | ⟨-, v, -, hnext⟩
  · rw [htype, hnone]
  · exact (nextColumns_ok hnext).1

/-- Both set the same type and the same configuration, if they set one, but for the order of keys. -/
def WritesSame (app : App) (data data' : TargetSystemUpdate) : Prop :=
  data.type = data'.type ∧ ((data.config = none ∧ data'.config = none) ∨
    ∃ column column' v v', data.config = some column ∧ data'.config = some column' ∧
      readConfig app column = .ok v ∧ readConfig app column' = .ok v' ∧ v.EqUpToOrder v')

theorem WritesSame.observe_eq (h : WritesSame app data data') (updatedAt : Time)
    (hrow : observe app row = observe app row') :
    observe app (data.apply updatedAt row) = observe app (data'.apply updatedAt row') := by
  obtain ⟨htype, hconfig⟩ := h
  have htypes : (data.apply updatedAt row).type = (data'.apply updatedAt row').type := by
    show data.type.getD row.type = data'.type.getD row'.type
    rw [htype, show row.type = row'.type from congrArg Prod.fst hrow]
  rcases hconfig with ⟨hnone, hnone'⟩ | ⟨column, column', v, v', hcolumn, hcolumn', hv, hv', heq⟩
  · refine Prod.ext htypes ?_
    show (readConfig app (data.config.getD row.config)).map _ =
      (readConfig app (data'.config.getD row'.config)).map _
    rw [hnone, hnone']
    exact congrArg Prod.snd hrow
  · have hread : readConfig app (data.apply updatedAt row).config = .ok v := by
      show readConfig app (data.config.getD row.config) = _
      rw [hcolumn]
      exact hv
    refine (observe_eq_iff hread).2 ⟨htypes, v', ?_, heq⟩
    show readConfig app (data'.config.getD row'.config) = _
    rw [hcolumn']
    exact hv'

/-- A call that is accepted for two rows writes the same, if they agree on the secrets that its
request leaves. -/
theorem writesSame (hcipher : app.encryption.cipher.Correct) (hread : call.ReadBack)
    (hrow : KeysDistinct app row) (hrow' : KeysDistinct app row')
    (h : prepareUpdate app call.encode call.dto (some row) = .ok data)
    (h' : prepareUpdate app call.encode call.dto (some row') = .ok data')
    (hagree : ∀ incoming v v', call.dto.config = some (.obj incoming) →
      readConfig app row.config = .ok v → readConfig app row'.config = .ok v' →
      SecretsAgree incoming v.settings v'.settings) : WritesSame app data data' := by
  refine ⟨(written_type h).trans (written_type h').symm, ?_⟩
  rcases written_config hcipher hread hrow h with
    ⟨hconfig, hnone⟩ | ⟨v, sent, next, column, hv, hsent, hmerge, -, -, hcolumn, hback⟩
  · rcases written_config hcipher hread hrow' h' with ⟨-, hnone'⟩ | ⟨_, sent, _, _, -, hsent, -⟩
    · exact .inl ⟨hnone, hnone'⟩
    · rw [hconfig] at hsent
      cases hsent
  · rcases written_config hcipher hread hrow' h' with
      ⟨hconfig, -⟩ | ⟨v', sent', next', column', hv', hsent', hmerge', -, -, hcolumn', hback'⟩
    · rw [hconfig] at hsent
      cases hsent
    · obtain rfl : sent = sent' := Option.some.inj (hsent.symm.trans hsent')
      refine .inr ⟨column, column', _, _, hcolumn, hcolumn', hback, hback', ?_⟩
      rcases mergeIncoming_ok hmerge with ⟨incoming, rfl, rfl⟩ | ⟨hother, -, rfl⟩
      · rcases mergeIncoming_ok hmerge' with ⟨incoming', heq, rfl⟩ | ⟨hother, -, -⟩
        · cases heq
          exact merge_eqUpToOrder (distinctKeys_settings (hrow v hv))
            (distinctKeys_settings (hrow' v' hv')) (hagree incoming v v' hsent hv hv')
        · exact absurd rfl (hother incoming)
      · rcases mergeIncoming_ok hmerge' with ⟨incoming', heq, -⟩ | ⟨-, -, rfl⟩
        · exact absurd heq (hother incoming')
        · exact fun _ => rfl

/-- A call that is accepted for a row is accepted for one that looks alike. -/
theorem accepted_of_observe_eq (hcipher : app.encryption.cipher.Correct) (hread : call.ReadBack)
    (hrow : KeysDistinct app row) (hrow' : KeysDistinct app row')
    (h : prepareUpdate app call.encode call.dto (some row) = .ok data)
    (hsame : observe app row = observe app row') :
    ∃ data', prepareUpdate app call.encode call.dto (some row') = .ok data' := by
  rcases prepareUpdate_ok h with ⟨hconfig, htype, -, -⟩ | ⟨hneeds, v, hv, hnext⟩
  · unfold prepareUpdate needsCurrent
    rw [hconfig, htype]
    exact ⟨_, rfl⟩
  · obtain ⟨htype, v', hv', heq⟩ := (observe_eq_iff hv).1 hsame
    rw [prepareUpdate_of_needsCurrent hneeds hv', ← htype]
    obtain ⟨-, ⟨hconfig, -, hvalid⟩ | ⟨sent, next, column, hsent, hmerge, hvalid, -, -⟩⟩ :=
      nextColumns_ok hnext
    · rw [validateTargetSystemConfig_of_eqUpToOrder _ heq.settings] at hvalid
      exact nextColumns_of_none hconfig hvalid
    · have hcurrent := distinctKeys_settings (hrow v hv)
      have hcurrent' := distinctKeys_settings (hrow' v' hv')
      obtain ⟨next', hmerge', hnext'⟩ : ∃ next', mergeIncoming v'.settings sent = .ok next' ∧
          (Json.obj next).EqUpToOrder (.obj next') := by
        rcases mergeIncoming_ok hmerge with ⟨incoming, rfl, rfl⟩ | ⟨hother, hnil, rfl⟩
        · exact ⟨_, rfl, merge_eqUpToOrder hcurrent hcurrent'
            (.of_eqUpToOrder incoming heq.settings)⟩
        · have hsettings := heq.settings
          rw [hnil] at hsettings
          refine ⟨[], ?_, fun _ => rfl⟩
          rw [eq_nil_of_eqUpToOrder hsettings, ← hnil]
          exact hmerge.trans (congrArg Except.ok hnil.symm)
      obtain ⟨column', hencode', -⟩ :=
        readConfig_encode hcipher call.isToJson (hread.next hcurrent' hsent hmerge')
      rw [validateTargetSystemConfig_of_eqUpToOrder _ hnext'] at hvalid
      exact nextColumns_of_some hsent hmerge' hvalid hencode'

/-! ### Interleavings -/

/-- The write of a call that has read one state of the row and finds another: the secrets that its
request leaves are stored as the call has read them, and the call would still be accepted. -/
structure AsIfReadNow (app : App) (call : UpdateCall app) (seen row : TargetSystem) : Prop where
  secrets : ∀ incoming v v', call.dto.config = some (.obj incoming) →
    readConfig app seen.config = .ok v → readConfig app row.config = .ok v' →
    SecretsAgree incoming v.settings v'.settings
  accepted : ∃ data, prepareUpdate app call.encode call.dto (some row) = .ok data

/-- Every write meets the condition. -/
def WritesAsIfReadNow {ι : Type} (calls : ι → UpdateCall app)
    (s : State ι TargetSystem TargetSystemUpdate) (e : Statement ι) : Prop :=
  ∀ i seen data, e = .write i → s.progress i = .prepared seen data →
    AsIfReadNow app (calls i) seen s.store

section Calls

variable {ι : Type} {calls : ι → UpdateCall app} {i : ι} {item : TargetSystem}

theorem prepare_eq_some : (updateCalls calls).prepare i row = some data ↔
    prepareUpdate app (calls i).encode (calls i).dto (some row) = .ok data := by
  show (prepareUpdate app (calls i).encode (calls i).dto (some row)).toOption = some data ↔ _
  cases prepareUpdate app (calls i).encode (calls i).dto (some row) with
  | error e => exact ⟨nofun, nofun⟩
  | ok data' =>
    exact ⟨fun h => congrArg Except.ok (Option.some.inj h),
      fun h => congrArg some (Except.ok.inj h)⟩

/-- A write succeeds if the row can be shown. -/
theorem write_eq_some : (updateCalls calls).write i data row = some item ↔
    item = data.apply (calls i).updatedAt row ∧ ∃ v, readConfig app item.config = .ok v := by
  show (if (toPublicTargetSystem app (data.apply (calls i).updatedAt row)).toOption.isSome then
    some (data.apply (calls i).updatedAt row) else none) = some item ↔ _
  rw [toPublicTargetSystem_eq]
  unfold shown
  cases hv : readConfig app (data.apply (calls i).updatedAt row).config with
  | error e =>
    refine ⟨nofun, ?_⟩
    rintro ⟨rfl, v, hv'⟩
    rw [hv] at hv'
    cases hv'
  | ok v =>
    constructor
    · intro h
      obtain rfl := Option.some.inj h
      exact ⟨rfl, v, hv⟩
    · rintro ⟨rfl, -⟩
      rfl

/-- Calls that write as if they read now are serializable. -/
theorem updateCalls_serializes [DecidableEq ι] (hcipher : app.encryption.cipher.Correct)
    (hread : ∀ i, (calls i).ReadBack) :
    Serializes (updateCalls calls) (WritesAsIfReadNow calls) (KeysDistinct app) (observe app) where
  keep := by
    intro i seen data row item hseen hrow hprepare hwrite v hv
    rw [prepare_eq_some] at hprepare
    obtain ⟨rfl, -⟩ := write_eq_some.1 hwrite
    change readConfig app (data.config.getD row.config) = .ok v at hv
    rcases written_config hcipher (hread i) hseen hprepare with
      ⟨-, hnone⟩ | ⟨_, _, next, column, -, -, -, hdistinct, -, hcolumn, hback⟩
    · rw [hnone] at hv
      exact hrow v hv
    · rw [hcolumn] at hv
      obtain rfl := Except.ok.inj (hback.symm.trans hv)
      exact hdistinct
  same := by
    intro i row row' item hrow hrow' hsame honce
    obtain ⟨data, hprepare, hwrite⟩ := Option.bind_eq_some_iff.1 honce
    rw [prepare_eq_some] at hprepare
    obtain ⟨rfl, v, hv⟩ := write_eq_some.1 hwrite
    obtain ⟨data', hprepare'⟩ :=
      accepted_of_observe_eq hcipher (hread i) hrow hrow' hprepare hsame
    have hwrites : WritesSame app data data' := by
      refine writesSame hcipher (hread i) hrow hrow' hprepare hprepare' ?_
      intro incoming w w' _ hw hw'
      obtain ⟨-, w'', hw'', heq⟩ := (observe_eq_iff hw).1 hsame
      obtain rfl := Except.ok.inj (hw'.symm.trans hw'')
      exact .of_eqUpToOrder incoming heq.settings
    have hobserve := hwrites.observe_eq (calls i).updatedAt hsame
    obtain ⟨-, v', hv', -⟩ := (observe_eq_iff hv).1 hobserve
    exact ⟨_, Option.bind_eq_some_iff.2
      ⟨data', prepare_eq_some.2 hprepare', write_eq_some.2 ⟨rfl, v', hv'⟩⟩, hobserve⟩
  now := by
    intro s i seen data item hseen hrow hprepared hprepare hok hwrite
    rw [prepare_eq_some] at hprepare
    obtain ⟨rfl, v, hv⟩ := write_eq_some.1 hwrite
    have hnow := hok i seen data rfl hprepared
    obtain ⟨data', hprepare'⟩ := hnow.accepted
    have hwrites := writesSame hcipher (hread i) hseen hrow hprepare hprepare' hnow.secrets
    have hobserve := hwrites.observe_eq (calls i).updatedAt
      (show observe app s.store = observe app s.store from rfl)
    obtain ⟨-, v', hv', -⟩ := (observe_eq_iff hv).1 hobserve
    exact ⟨_, Option.bind_eq_some_iff.2
      ⟨data', prepare_eq_some.2 hprepare', write_eq_some.2 ⟨rfl, v', hv'⟩⟩, hobserve.symm⟩

/-! ### One call -/

/-- The pair is one that the validation accepts. -/
def ValidPair (app : App) (row : TargetSystem) : Prop :=
  ∃ v, readConfig app row.config = .ok v ∧
    validateTargetSystemConfig row.type v.settings = .ok ()

theorem once_valid (hcipher : app.encryption.cipher.Correct) (hread : (calls i).ReadBack)
    (hrow : KeysDistinct app row) (h : (updateCalls calls).once i row = some item)
    (hvalid : ValidPair app row) : ValidPair app item := by
  obtain ⟨data, hprepare, hwrite⟩ := Option.bind_eq_some_iff.1 h
  rw [prepare_eq_some] at hprepare
  obtain ⟨rfl, -⟩ := write_eq_some.1 hwrite
  have htype : (data.apply (calls i).updatedAt row).type = (calls i).dto.type.getD row.type := by
    show data.type.getD row.type = _
    rw [written_type hprepare]
  unfold ValidPair
  rw [htype]
  show ∃ v, readConfig app (data.config.getD row.config) = .ok v ∧ _
  rcases written_config hcipher hread hrow hprepare with
    ⟨hconfig, hnone⟩ | ⟨_, _, next, column, -, -, -, -, hnext, hcolumn, hback⟩
  · rw [hnone]
    rcases prepareUpdate_ok hprepare with ⟨-, hnotype, -, -⟩ | ⟨-, v, hv, hcolumns⟩
    · rw [hnotype]
      exact hvalid
    · obtain ⟨-, ⟨-, -, hnext⟩ | ⟨sent, _, _, hsent, -⟩⟩ := nextColumns_ok hcolumns
      · exact ⟨v, hv, hnext⟩
      · rw [hconfig] at hsent
        cases hsent
  · rw [hcolumn]
    exact ⟨_, hback, hnext⟩

/-- The configuration has the value under the secret. -/
def HasSecret (app : App) (row : TargetSystem) (path : List String) (key : String) (v : Json) :
    Prop :=
  ∃ config, readConfig app row.config = .ok config ∧ config.at? (path ++ [key]) = some v

theorem obj_of_at? {sent v : Json} {path : List String} {key : String}
    (h : sent.at? (path ++ [key]) = some v) : ∃ incoming, sent = .obj incoming := by
  cases sent with
  | obj incoming => exact ⟨incoming, rfl⟩
  | _ => cases path <;> cases h

theorem once_sends (hcipher : app.encryption.cipher.Correct) (hread : (calls i).ReadBack)
    (hrow : KeysDistinct app row) (h : (updateCalls calls).once i row = some item)
    {path : List String} {key : String} {v sent : Json} (hsent : (calls i).dto.config = some sent)
    (hsends : SendsSecret sent path key v) : HasSecret app item path key v := by
  obtain ⟨data, hprepare, hwrite⟩ := Option.bind_eq_some_iff.1 h
  rw [prepare_eq_some] at hprepare
  obtain ⟨rfl, -⟩ := write_eq_some.1 hwrite
  unfold HasSecret
  show ∃ config, readConfig app (data.config.getD row.config) = .ok config ∧ _
  rcases written_config hcipher hread hrow hprepare with
    ⟨hconfig, -⟩ | ⟨w, sent', next, column, hw, hsent', hmerge, -, -, hcolumn, hback⟩
  · rw [hconfig] at hsent
    cases hsent
  · obtain rfl : sent = sent' := Option.some.inj (hsent.symm.trans hsent')
    rw [hcolumn]
    refine ⟨_, hback, ?_⟩
    obtain ⟨incoming, rfl⟩ := obj_of_at? hsends.2.2
    obtain rfl := Except.ok.inj hmerge
    exact at?_merge_sent (distinctKeys_settings (hrow w hw)) hsends

theorem once_leaves (hcipher : app.encryption.cipher.Correct) (hread : (calls i).ReadBack)
    (hrow : KeysDistinct app row) (h : (updateCalls calls).once i row = some item)
    {path : List String} {key : String} {v : Json}
    (hleaves : ∀ sent, (calls i).dto.config = some sent → LeavesSecret sent path key)
    (hsecret : HasSecret app row path key v) : HasSecret app item path key v := by
  obtain ⟨data, hprepare, hwrite⟩ := Option.bind_eq_some_iff.1 h
  rw [prepare_eq_some] at hprepare
  obtain ⟨rfl, -⟩ := write_eq_some.1 hwrite
  unfold HasSecret
  show ∃ config, readConfig app (data.config.getD row.config) = .ok config ∧ _
  rcases written_config hcipher hread hrow hprepare with
    ⟨-, hnone⟩ | ⟨w, sent, next, column, hw, hsent, hmerge, -, -, hcolumn, hback⟩
  · rw [hnone]
    exact hsecret
  · rw [hcolumn]
    refine ⟨_, hback, ?_⟩
    obtain ⟨config, hconfig, hv⟩ := hsecret
    obtain rfl := Except.ok.inj (hw.symm.trans hconfig)
    have hleaves := hleaves sent hsent
    obtain ⟨incoming, rfl⟩ : ∃ incoming, sent = .obj incoming := by
      obtain ⟨-, -, fields, hfields, -⟩ := hleaves
      cases path with
      | nil => exact ⟨fields, Option.some.inj hfields⟩
      | cons parent path =>
        cases sent with
        | obj incoming => exact ⟨incoming, rfl⟩
        | _ => cases hfields
    obtain rfl := Except.ok.inj hmerge
    obtain ⟨stored, rfl⟩ := obj_of_at? hv
    exact at?_merge_left (hrow _ hw) hleaves hv

end Calls

/-! ### Two calls -/

/-- What two calls leave: the type and the configuration that they leave one after the other, a
secret that one of them sends and the other leaves out or masks, and a valid pair. -/
structure Serial (calls : Bool → UpdateCall app) (row final : TargetSystem) : Prop where
  order : ∃ order item, (order = [false, true] ∨ order = [true, false]) ∧
    (updateCalls calls).serially order row = some item ∧ observe app item = observe app final
  rotated : ∀ i sent path key v, (calls i).dto.config = some sent → SendsSecret sent path key v →
    (∀ sent', (calls !i).dto.config = some sent' → LeavesSecret sent' path key) →
    ∃ config, readConfig app final.config = .ok config ∧
      SameValue (config.at? (path ++ [key])) (some v)
  valid : ValidPair app row → ValidPair app final

theorem written_two {written : List Bool} (hnodup : written.Nodup) (hall : ∀ i, i ∈ written) :
    written = [false, true] ∨ written = [true, false] := by
  have hperm : written.Perm [false, true] := by
    refine (List.perm_ext_iff_of_nodup hnodup (by decide)).2 fun i => ?_
    cases i <;> simp [hall]
  have hlength := hperm.length_eq
  match written, hlength with
  | [first, second], _ =>
    have hmem := hperm.subset
    cases first <;> cases second
    · cases List.nodup_cons.1 hnodup |>.1 List.mem_cons_self
    · exact .inl rfl
    · exact .inr rfl
    · cases List.nodup_cons.1 hnodup |>.1 List.mem_cons_self

variable {calls : Bool → UpdateCall app} {final : TargetSystem}

theorem serially_two {i : Bool} {item : TargetSystem}
    (h : (updateCalls calls).serially [i, !i] row = some item) :
    ∃ between, (updateCalls calls).once i row = some between ∧
      (updateCalls calls).once (!i) between = some item := by
  obtain ⟨between, hfirst, hrest⟩ := Option.bind_eq_some_iff.1 h
  obtain ⟨last, hsecond, hlast⟩ := Option.bind_eq_some_iff.1 hrest
  obtain rfl := Option.some.inj hlast
  exact ⟨between, hfirst, hsecond⟩

/-- Two calls whose writes meet the condition leave what they leave one after the other. -/
theorem updates_serialize (hcipher : app.encryption.cipher.Correct)
    (hread : ∀ i, (calls i).ReadBack) (hrow : KeysDistinct app row)
    {statements : List (Statement Bool)} {s : State Bool TargetSystem TargetSystemUpdate}
    (hrun : Run (step (updateCalls calls)) (WritesAsIfReadNow calls) (.initial row) statements s)
    (hdone : ∀ i, s.progress i = .finished) : Serial calls row s.store := by
  have hc := updateCalls_serializes hcipher hread
  obtain ⟨hserial, hbooks⟩ := hc.run hrow hrun
  have hwritten := written_two hbooks.nodup fun i => (hbooks.finished_iff i).1 (hdone i)
  obtain ⟨item, hitem, -, hobserve⟩ := hserial.serial
  -- the call of whose write is the first, and what it has left
  obtain ⟨first, hfirst⟩ : ∃ first, s.written = [first, !first] := by
    rcases hwritten with h | h
    · exact ⟨false, h⟩
    · exact ⟨true, h⟩
  rw [hfirst] at hitem
  obtain ⟨between, hone, htwo⟩ := serially_two hitem
  have hbetween := hc.once hrow hone
  refine ⟨⟨s.written, item, hwritten, hfirst ▸ hitem, hobserve⟩, ?_, fun hvalid => ?_⟩
  · intro i sent path key v hsent hsends hleaves
    have hsecret : HasSecret app item path key v := by
      by_cases hi : i = first
      · subst hi
        exact once_leaves hcipher (hread _) hbetween htwo hleaves
          (once_sends hcipher (hread _) hrow hone hsent hsends)
      · obtain rfl : i = !first := by
          cases i <;> cases first <;> first | rfl | exact absurd rfl hi
        exact once_sends hcipher (hread _) hbetween htwo hsent hsends
    obtain ⟨config, hconfig, hv⟩ := hsecret
    obtain ⟨-, config', hconfig', heq⟩ := (observe_eq_iff hconfig).1 hobserve
    refine ⟨config', hconfig', fun rest => ?_⟩
    have hsame := SameValue.at? heq (path ++ [key]) rest
    rw [hv] at hsame
    exact hsame.symm
  · obtain ⟨v, hv, hvalid⟩ := once_valid hcipher (hread _) hbetween htwo
      (once_valid hcipher (hread _) hrow hone hvalid)
    obtain ⟨htype, v', hv', heq⟩ := (observe_eq_iff hv).1 hobserve
    refine ⟨v', hv', ?_⟩
    rw [← htype, ← validateTargetSystemConfig_of_eqUpToOrder _ heq.settings]
    exact hvalid

/-! ### A rotation and another edit -/

/-- `App.bare` with a cipher that meets the assumptions. Nothing is encrypted. -/
noncomputable def App.plain : App :=
  { App.bare with
    encryption := { App.bare.encryption with cipher := .sealing }
    encryption_valid := by rintro ⟨⟩ }

/-- One call sets a new password, the other one a new host. -/
noncomputable def passwordAndHost (rotates : Bool) : UpdateCall App.plain where
  dto :=
    { name := none, type := none, label := none
      config := some (if rotates then .obj [("host", .str "db1"), ("password", .str "new")]
        else .obj [("host", .str "db2")])
      enabled := none }
  encode v := .ok (.native v)
  updatedAt := 1
  isToJson v := ⟨[], rfl, rfl⟩
  distinct := by
    rintro v ⟨⟩
    cases rotates <;> decide

def crmDatabase : TargetSystem := .database [("host", .str "db1"), ("password", .str "old")]

theorem AsIfReadNow.refl {call : UpdateCall app}
    (h : prepareUpdate app call.encode call.dto (some row) = .ok data) :
    AsIfReadNow app call row row where
  secrets := by
    intro incoming v v' _ hv hv'
    obtain rfl := Except.ok.inj (hv.symm.trans hv')
    exact fun _ _ _ _ => rfl
  accepted := ⟨data, h⟩

theorem passwordAndHost_readBack (i : Bool) : (passwordAndHost i).ReadBack := by
  refine .inr ?_
  rintro v ⟨⟩
  cases i <;> rfl

/-- One after the other, the new host and the new password are stored. -/
theorem updates_serialize_passwordAndHost :
    ∃ s, Run (step (updateCalls passwordAndHost)) (WritesAsIfReadNow passwordAndHost)
        (.initial crmDatabase) [.read true, .write true, .read false, .write false] s ∧
      Serial passwordAndHost crmDatabase s.store := by
  have h : ∃ s, Run (step (updateCalls passwordAndHost)) (WritesAsIfReadNow passwordAndHost)
      (.initial crmDatabase) [.read true, .write true, .read false, .write false] s ∧
      ∀ i, s.progress i = .finished := by
    refine ⟨_, .cons (fun i _ _ h => nomatch h) rfl <| .cons ?_ rfl <|
      .cons (fun i _ _ h => nomatch h) rfl <| .cons ?_ rfl <| .nil _, fun i => ?_⟩
    · rintro i seen data ⟨⟩ ⟨⟩
      exact .refl rfl
    · rintro i seen data ⟨⟩ ⟨⟩
      exact .refl rfl
    · cases i <;> rfl
  obtain ⟨s, hrun, hdone⟩ := h
  refine ⟨s, hrun, updates_serialize Cipher.sealing_correct passwordAndHost_readBack ?_ hrun hdone⟩
  rintro v ⟨⟩
  decide

/-- The host is changed by a call that has read the row before the password was changed: the old
password is stored again. -/
theorem not_updates_serialize :
    ∃ s, Run (step (updateCalls passwordAndHost)) (fun _ _ => True) (.initial crmDatabase)
        [.read true, .read false, .write true, .write false] s ∧
      (∀ i, s.progress i = .finished) ∧ ¬ Serial passwordAndHost crmDatabase s.store := by
  refine ⟨_, .cons trivial rfl <| .cons trivial rfl <| .cons trivial rfl <| .cons trivial rfl <|
    .nil _, fun i => by cases i <;> rfl, fun h => ?_⟩
  have hleaves : ∀ sent, (passwordAndHost false).dto.config = some sent →
      LeavesSecret sent [] "password" := by
    rintro sent ⟨⟩
    exact ⟨by decide, nofun, _, rfl, .inl rfl⟩
  obtain ⟨config, hconfig, hsame⟩ := h.rotated true _ [] "password" (.str "new") rfl
    ⟨by decide, by decide, rfl⟩ hleaves
  cases hconfig
  have hpassword : Json.str "old" = .str "new" := Option.some.inj (hsame [])
  exact absurd (Json.str.inj hpassword) (by decide)

end IdmMw
