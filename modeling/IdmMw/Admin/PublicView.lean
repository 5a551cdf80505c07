import IdmMw.Admin.ConfigEdits
import IdmMw.Encryption.RoundTrip

/-!
# The public view of a target system

What administrators are shown of a target system should not depend on the credentials in its
configuration.

* `SameButCredentials`: two values that differ only where a connector reads a credential;
* `redactSecrets_eq_iff`: they look alike exactly if they agree on the connection strings of the
  database connector, which the redaction does not mask (`ConnectionsAgree`);
* `validateTargetSystemConfig_congr`, `mergeEntries_shown`: validation and merge see nothing that is
  not shown, so that the answer to an update tells no more than the view;
* `sameResults_iff`: the same for the results of all five operations.
-/

namespace IdmMw

open OrderedMap TargetSystemService

/-! ### Credentials -/

/-- Settings that connectors use as credentials, those of a TLS connection last. -/
def connectorCredentials : List String :=
  ["password", "apiToken", "accessToken", "masterKeyHash", "privateKey", "connectionString",
    "apiKey", "ca", "cert", "key", "walletPassword"]

/-- Names of headers that carry a credential. -/
def credentialHeaders : List (List Char) :=
  ["authorization".toList, "proxy-authorization".toList, "cookie".toList, "x-api-key".toList,
    "x-auth-token".toList]

/-- Where the database connector reads its connection string, which may contain a password. -/
def isConnectionKey (key : String) : Bool := ["connection", "connectString"].contains key

/-- A connector uses what it reads under the key as a credential. -/
def isCredentialKey (key : String) : Bool :=
  connectorCredentials.contains key || credentialHeaders.contains (key.toList.map Char.toLower) ||
    isConnectionKey key

/-- Whether a key is secret depends on its lower-case form. -/
theorem isSecretKey_of_header {key : String}
    (h : key.toList.map Char.toLower ∈ credentialHeaders) : isSecretKey key = true := by
  have hall : ∀ cs ∈ credentialHeaders, (isSecretWord cs || endsInSecretWord cs) = true := by
    decide
  exact hall _ h

/-- Every credential but a connection string is masked. -/
theorem isSecretKey_of_credential {key : String} (h : isCredentialKey key = true)
    (hconnection : isConnectionKey key = false) : isSecretKey key = true := by
  unfold isCredentialKey at h
  rw [hconnection, Bool.or_false, Bool.or_eq_true, List.contains_iff_mem,
    List.contains_iff_mem] at h
  rcases h with h | h
  · have hall : ∀ key ∈ connectorCredentials, isSecretKey key = true := by decide
    exact hall key h
  · exact isSecretKey_of_header h

mutual

/-- The values differ only where a connector reads a credential. -/
def SameButCredentials : Json → Json → Prop
  | .arr items, v' => ∃ items', v' = .arr items' ∧ SameItemsButCredentials items items'
  | .obj fields, v' => ∃ fields', v' = .obj fields' ∧ SameEntriesButCredentials fields fields'
  | v, v' => v' = v

def SameItemsButCredentials : List Json → List Json → Prop
  | [], [] => True
  | item :: items, item' :: items' =>
    SameButCredentials item item' ∧ SameItemsButCredentials items items'
  | _, _ => False

def SameEntriesButCredentials : Settings → Settings → Prop
  | [], [] => True
  | (key, item) :: fields, (key', item') :: fields' =>
    key = key' ∧ (isCredentialKey key = true ∨ SameButCredentials item item') ∧
      SameEntriesButCredentials fields fields'
  | _, _ => False

end

mutual

/-- The values look alike at every connection string that is not inside a masked value. -/
def ConnectionsAgree : Json → Json → Prop
  | .arr items, .arr items' => ConnectionsAgreeInItems items items'
  | .obj fields, .obj fields' => ConnectionsAgreeInEntries fields fields'
  | _, _ => True

def ConnectionsAgreeInItems : List Json → List Json → Prop
  | item :: items, item' :: items' =>
    ConnectionsAgree item item' ∧ ConnectionsAgreeInItems items items'
  | _, _ => True

def ConnectionsAgreeInEntries : Settings → Settings → Prop
  | (key, item) :: fields, (_, item') :: fields' =>
    (isSecretKey key = true ∨
      if isConnectionKey key then redactSecrets item = redactSecrets item'
      else ConnectionsAgree item item') ∧
      ConnectionsAgreeInEntries fields fields'
  | _, _ => True

end

/-! ### What looks alike -/

mutual

/-- Values that differ only in credentials look alike exactly if their connection strings do. -/
theorem redactSecrets_eq_iff : ∀ v v' : Json, SameButCredentials v v' →
    (redactSecrets v = redactSecrets v' ↔ ConnectionsAgree v v')
  | .null, _, h => by
    obtain rfl := h
    exact iff_of_true rfl trivial
  | .bool _, _, h => by
    obtain rfl := h
    exact iff_of_true rfl trivial
  | .num _, _, h => by
    obtain rfl := h
    exact iff_of_true rfl trivial
  | .str _, _, h => by
    obtain rfl := h
    exact iff_of_true rfl trivial
  | .arr items, _, h => by
    obtain ⟨items', rfl, hitems⟩ := h
    rw [redactSecrets, redactSecrets, Json.arr.injEq]
    exact redactItems_eq_iff items items' hitems
  | .obj fields, _, h => by
    obtain ⟨fields', rfl, hfields⟩ := h
    rw [redactSecrets, redactSecrets, Json.obj.injEq]
    exact redactEntries_eq_iff fields fields' hfields

theorem redactItems_eq_iff : ∀ items items' : List Json, SameItemsButCredentials items items' →
    (redactItems items = redactItems items' ↔ ConnectionsAgreeInItems items items')
  | [], [], _ => iff_of_true rfl trivial
  | item :: items, item' :: items', h => by
    obtain ⟨hitem, hitems⟩ := h
    rw [redactItems, redactItems, List.cons.injEq, redactSecrets_eq_iff item item' hitem,
      redactItems_eq_iff items items' hitems]
    rfl

theorem redactEntries_eq_iff : ∀ fields fields' : Settings,
    SameEntriesButCredentials fields fields' →
    (redactEntries fields = redactEntries fields' ↔ ConnectionsAgreeInEntries fields fields')
  | [], [], _ => iff_of_true rfl trivial
  | (key, item) :: fields, (key', item') :: fields', h => by
    obtain ⟨rfl, hitem, hfields⟩ := h
    rw [redactEntries, redactEntries, List.cons.injEq, redactEntries_eq_iff fields fields' hfields,
      Prod.mk.injEq, ConnectionsAgreeInEntries]
    refine and_congr_left fun _ => ?_
    by_cases hsecret : isSecretKey key = true
    · rw [if_pos hsecret, if_pos hsecret]
      exact iff_of_true ⟨rfl, rfl⟩ (Or.inl hsecret)
    · rw [if_neg hsecret, if_neg hsecret, or_iff_right hsecret, and_iff_right rfl]
      by_cases hconnection : isConnectionKey key = true
      · rw [if_pos hconnection]
      · rw [if_neg hconnection]
        refine redactSecrets_eq_iff item item' (hitem.resolve_left fun hcredential => ?_)
        exact hsecret (isSecretKey_of_credential hcredential (Bool.eq_false_iff.2 hconnection))

end

/-! ### Validation and merge see what is shown -/

theorem lookup_redactEntries {key : String} (hkey : isSecretKey key = false) (fields : Settings) :
    (redactEntries fields).lookup key = (fields.lookup key).map redactSecrets := by
  induction fields with
  | nil => rfl
  | cons entry fields ih =>
    obtain ⟨key', item⟩ := entry
    rw [redactEntries]
    by_cases h : key' = key
    · subst h
      rw [lookup_cons_self, lookup_cons_self, hkey]
      rfl
    · rw [lookup_cons_of_ne h, lookup_cons_of_ne h, ih]

theorem outline_redactSecrets (v : Json) : outline (redactSecrets v) = outline v := by
  cases v <;> rfl

/-- The validation reads no secret, and of the rest what is shown: configurations that look alike are
validated alike. -/
theorem validateTargetSystemConfig_congr (type : String) {config config' : Settings}
    (h : redactEntries config = redactEntries config') :
    validateTargetSystemConfig type config = validateTargetSystemConfig type config' := by
  have hpublic : ∀ field ∈ checkedFields, isSecretKey field = false := by decide
  have hshown : ∀ (fields : Settings), ∀ field ∈ checkedFields,
      (fields.lookup field).map outline = ((redactEntries fields).lookup field).map outline := by
    intro fields field hfield
    rw [lookup_redactEntries (hpublic field hfield), Option.map_map]
    congr 1
    funext v
    exact (outline_redactSecrets v).symm
  refine validateTargetSystemConfig_of_outline type fun field hfield => ?_
  rw [hshown config field hfield, h, hshown config' field hfield]

theorem redactEntries_set (fields : Settings) (key : String) (item : Json) :
    redactEntries (OrderedMap.set fields key item) =
      OrderedMap.set (redactEntries fields) key
        (if isSecretKey key then .str maskedSecretValue else redactSecrets item) := by
  induction fields with
  | nil => rfl
  | cons entry fields ih =>
    obtain ⟨key', item'⟩ := entry
    by_cases h : key' = key
    · subst h
      rw [redactEntries, OrderedMap.set, OrderedMap.set, if_pos rfl, if_pos rfl, redactEntries]
    · rw [redactEntries, OrderedMap.set, OrderedMap.set, if_neg h, if_neg h, redactEntries, ih]

mutual

theorem mergeObjects_shown : ∀ (v v' : Json) (incoming : Option Json),
    redactSecrets v = redactSecrets v' →
    (mergeObjects v incoming).map redactSecrets = (mergeObjects v' incoming).map redactSecrets
  | .obj fields, v', incoming, h => by
    cases v' with
    | obj fields' =>
      rw [redactSecrets, redactSecrets, Json.obj.injEq] at h
      rcases incoming with _ | incoming
      · rfl
      · cases incoming with
        | obj incoming =>
          have hmerged := mergeEntries_shown fields fields' incoming incoming incoming h rfl
          rw [mergeObjects, mergeObjects, Option.map_some, Option.map_some, redactSecrets,
            redactSecrets, hmerged]
        | _ => rfl
    | _ => cases h
  | .null, v', _, h => by cases v' <;> first | rfl | cases h
  | .bool _, v', _, h => by cases v' <;> first | rfl | cases h
  | .num _, v', _, h => by cases v' <;> first | rfl | cases h
  | .str _, v', _, h => by cases v' <;> first | rfl | cases h
  | .arr _, v', _, h => by cases v' <;> first | rfl | cases h

/-- Configurations that look alike look alike after the same merge. -/
theorem mergeEntries_shown : ∀ (current current' incoming merged merged' : Settings),
    redactEntries current = redactEntries current' →
    redactEntries merged = redactEntries merged' →
    redactEntries (mergeEntries current incoming merged) =
      redactEntries (mergeEntries current' incoming merged')
  | [], [], _, _, _, _, hmerged => hmerged
  | (key, item) :: current, (key', item') :: current', incoming, merged, merged', h, hmerged => by
    rw [redactEntries, redactEntries, List.cons.injEq, Prod.mk.injEq] at h
    obtain ⟨⟨rfl, hitem⟩, hcurrent⟩ := h
    rw [mergeEntries, mergeEntries]
    refine mergeEntries_shown current current' incoming _ _ hcurrent ?_
    by_cases hsecret : isSecretKey key = true
    · rw [if_pos hsecret, if_pos hsecret]
      split
      · rw [redactEntries_set, redactEntries_set, if_pos hsecret, if_pos hsecret, hmerged]
      · exact hmerged
    · rw [if_neg hsecret, if_neg hsecret] at hitem ⊢
      have hobjects := mergeObjects_shown item item' (incoming.lookup key) hitem
      cases hleft : mergeObjects item (incoming.lookup key) with
      | none =>
        rw [hleft, Option.map_none, eq_comm, Option.map_eq_none_iff] at hobjects
        rw [hobjects]
        exact hmerged
      | some value =>
        rw [hleft, Option.map_some, eq_comm, Option.map_eq_some_iff] at hobjects
        obtain ⟨value', hright, hvalue⟩ := hobjects
        rw [hright]
        show redactEntries (OrderedMap.set merged key value) =
          redactEntries (OrderedMap.set merged' key value')
        rw [redactEntries_set, redactEntries_set, hvalue, hmerged]

end

/-! ### Storage -/

/-- What is shown of a column. -/
def shown (app : App) (column : Column) : Except AdminError Json :=
  (readConfig app column).map redactSecrets

/-- The function gives what runs of `jsonHelper.toJson` give, whatever their initialization
vectors. -/
def IsToJson (app : App) (encode : Json → Except JsError Column) : Prop :=
  ∀ v, ∃ t, (JsonHelper.toJson app v).Runs t (encode v)

variable {app : App} {encode : Json → Except JsError Column}

theorem orEmpty_shown (v : Json) : redactSecrets v.orEmpty = (redactSecrets v).orEmpty := by
  cases v <;> rfl

/-- The fields of an envelope are not secret. -/
theorem envelope?_shown (v : Json) :
    EncryptionService.envelope? (redactSecrets v) = EncryptionService.envelope? v := by
  have hget : ∀ key, isSecretKey key = false →
      (redactSecrets v).getStr? key = v.getStr? key := by
    intro key hkey
    cases v with
    | obj fields =>
      rw [redactSecrets]
      unfold Json.getStr?
      rw [Json.get?_obj, Json.get?_obj, lookup_redactEntries hkey]
      cases fields.lookup key with
      | none => rfl
      | some item => cases item <;> rfl
    | _ => rfl
  unfold EncryptionService.envelope?
  rw [hget "__enc" (by decide), hget "alg" (by decide), hget "kid" (by decide),
    hget "iv" (by decide), hget "tag" (by decide), hget "ct" (by decide)]

/-- Values that look alike look alike when they have been stored. -/
theorem encode_shown (hcipher : app.encryption.cipher.Correct) (hencode : IsToJson app encode)
    {v v' : Json} (h : redactSecrets v = redactSecrets v') :
    ∃ column column', encode v = .ok column ∧ encode v' = .ok column' ∧
      shown app column = shown app column' := by
  obtain ⟨t, hrun⟩ := hencode v
  obtain ⟨t', hrun'⟩ := hencode v'
  rcases toJson_stored hrun with
    ⟨hdisabled, -, hcolumn⟩ | ⟨henabled, kid, key, iv, -, hkey, hcolumn⟩
  · rcases toJson_stored hrun' with ⟨-, -, hcolumn'⟩ | ⟨henabled, -⟩
    · refine ⟨_, _, hcolumn, hcolumn', ?_⟩
      have hsame : EncryptionService.envelope? v = EncryptionService.envelope? v' := by
        rw [← envelope?_shown, h, envelope?_shown]
      unfold shown readConfig
      rw [fromJson_column, fromJson_column]
      unfold EncryptionService.decryptFromStorage
      rw [← hsame]
      cases EncryptionService.envelope? v with
      | some fields => rfl
      | none =>
        show Except.ok (redactSecrets v.orEmpty) = Except.ok (redactSecrets v'.orEmpty)
        rw [orEmpty_shown, h, orEmpty_shown]
    · rw [hdisabled] at henabled
      cases henabled
  · rcases toJson_stored hrun' with ⟨hdisabled, -⟩ | ⟨-, kid', key', iv', -, hkey', hcolumn'⟩
    · rw [hdisabled] at henabled
      cases henabled
    · refine ⟨_, _, hcolumn, hcolumn', ?_⟩
      unfold shown readConfig
      rw [fromJson_column, fromJson_column, decryptFromStorage_envelope hcipher hkey,
        decryptFromStorage_envelope hcipher hkey']
      show Except.ok (redactSecrets v.orEmpty) = Except.ok (redactSecrets v'.orEmpty)
      rw [orEmpty_shown, h, orEmpty_shown]

/-! ### The operations -/

/-- Two rows that no operation tells apart. -/
structure LookAlike (app : App) (r r' : TargetSystem) : Prop where
  columns : r' = { r with config := r'.config }
  config : shown app r.config = shown app r'.config

variable {r r' : TargetSystem} {items items' : List TargetSystem}

theorem LookAlike.refl (app : App) (r : TargetSystem) : LookAlike app r r := ⟨rfl, rfl⟩

theorem toPublicTargetSystem_eq (app : App) (item : TargetSystem) :
    toPublicTargetSystem app item =
      (shown app item.config).map fun config => { item with config } := by
  unfold toPublicTargetSystem shown
  cases readConfig app item.config <;> rfl

theorem LookAlike.toPublicTargetSystem_eq (h : LookAlike app r r') :
    toPublicTargetSystem app r = toPublicTargetSystem app r' := by
  rw [IdmMw.toPublicTargetSystem_eq, IdmMw.toPublicTargetSystem_eq, ← h.config, h.columns]

/-- A query finds rows that look alike, or none, in tables that look alike. -/
theorem publicFound_congr (h : List.Forall₂ (LookAlike app) items items')
    {p : TargetSystem → Bool} (hp : ∀ r r', LookAlike app r r' → p r = p r') :
    publicFound app (items.find? p) = publicFound app (items'.find? p) := by
  induction h with
  | nil => rfl
  | @cons r r' items items' hrow _ ih =>
    rw [List.find?_cons, List.find?_cons, ← hp r r' hrow]
    cases p r with
    | true =>
      show (toPublicTargetSystem app r).map some = (toPublicTargetSystem app r').map some
      rw [hrow.toPublicTargetSystem_eq]
    | false => exact ih

theorem mapM_toPublicTargetSystem_congr (h : List.Forall₂ (LookAlike app) items items') :
    items.mapM (toPublicTargetSystem app) = items'.mapM (toPublicTargetSystem app) := by
  induction h with
  | nil => rfl
  | cons hrow _ ih =>
    rw [List.mapM_cons, List.mapM_cons, hrow.toPublicTargetSystem_eq, ih]

theorem findAll_congr (h : List.Forall₂ (LookAlike app) items items')
    (params : TargetSystemListing) : findAll app items params = findAll app items' params := by
  unfold findAll
  split
  · rfl
  · refine mapM_toPublicTargetSystem_congr ?_
    unfold selected
    refine List.forall₂_take _ (List.forall₂_drop _ (List.rel_filter ?_ h))
    intro r r' hrow
    rw [hrow.columns]

theorem settings_shown (v : Json) : (redactSecrets v).settings = redactEntries v.settings := by
  cases v <;> rfl

/-- The merge with what a request gives fails for both, or gives configurations that look alike. -/
theorem mergeIncoming_congr {current current' : Settings}
    (h : redactEntries current = redactEntries current') (incoming : Json) :
    (∃ e, mergeIncoming current incoming = .error e ∧ mergeIncoming current' incoming = .error e) ∨
      ∃ merged merged', mergeIncoming current incoming = .ok merged ∧
        mergeIncoming current' incoming = .ok merged' ∧
        redactEntries merged = redactEntries merged' := by
  have hempty : current = [] ↔ current' = [] := by
    have hlength := congrArg List.length (congrArg (List.map Prod.fst) h)
    rw [redactEntries_keys, redactEntries_keys, List.length_map, List.length_map] at hlength
    rw [← List.length_eq_zero_iff, ← List.length_eq_zero_iff, hlength]
  cases incoming with
  | obj incoming =>
    exact Or.inr ⟨_, _, rfl, rfl, mergeEntries_shown current current' incoming _ _ h rfl⟩
  | _ =>
    unfold mergeIncoming
    by_cases hcurrent : current = []
    · rw [if_pos hcurrent, if_pos (hempty.1 hcurrent)]
      exact Or.inr ⟨[], [], rfl, rfl, rfl⟩
    · rw [if_neg hcurrent, if_neg (mt hempty.2 hcurrent)]
      exact Or.inl ⟨_, rfl, rfl⟩

/-- Both fail alike, or set the same columns, but for a configuration that looks alike. -/
def SameColumns (app : App) (column column' : Column)
    (result result' : Except AdminError TargetSystemUpdate) : Prop :=
  (∃ e, result = .error e ∧ result' = .error e) ∨
    ∃ data data', result = .ok data ∧ result' = .ok data' ∧
      data' = { data with config := data'.config } ∧
      shown app (data.config.getD column) = shown app (data'.config.getD column')

theorem nextColumns_congr (hcipher : app.encryption.cipher.Correct) (hencode : IsToJson app encode)
    {column column' : Column} (hcolumn : shown app column = shown app column')
    {current current' : Settings} (h : redactEntries current = redactEntries current')
    (dto : UpdateTargetSystemDto) (type : String) :
    SameColumns app column column' (nextColumns encode dto type current)
      (nextColumns encode dto type current') := by
  unfold nextColumns
  cases dto.config with
  | none =>
    have hvalid := validateTargetSystemConfig_congr (dto.type.getD type) h
    show SameColumns app column column'
      (validateTargetSystemConfig (dto.type.getD type) current >>= fun _ => _)
      (validateTargetSystemConfig (dto.type.getD type) current' >>= fun _ => _)
    rw [← hvalid]
    cases validateTargetSystemConfig (dto.type.getD type) current with
    | error e => exact Or.inl ⟨e, rfl, rfl⟩
    | ok _ => exact Or.inr ⟨_, _, rfl, rfl, rfl, hcolumn⟩
  | some incoming =>
    rcases mergeIncoming_congr h incoming with
      ⟨e, hmerge, hmerge'⟩ | ⟨merged, merged', hmerge, hmerge', hmerged⟩
    · dsimp only
      rw [hmerge, hmerge']
      exact Or.inl ⟨e, rfl, rfl⟩
    · have hvalid := validateTargetSystemConfig_congr (dto.type.getD type) hmerged
      have hobj : redactSecrets (.obj merged) = redactSecrets (.obj merged') := by
        rw [redactSecrets, redactSecrets, hmerged]
      obtain ⟨next, next', hnext, hnext', hshown⟩ := encode_shown hcipher hencode hobj
      dsimp only
      rw [hmerge, hmerge']
      show SameColumns app column column'
        (validateTargetSystemConfig (dto.type.getD type) merged >>= fun _ => _)
        (validateTargetSystemConfig (dto.type.getD type) merged' >>= fun _ => _)
      rw [← hvalid]
      cases validateTargetSystemConfig (dto.type.getD type) merged with
      | error e => exact Or.inl ⟨e, rfl, rfl⟩
      | ok _ =>
        refine Or.inr ⟨⟨dto.name, dto.type, dto.label, some next, dto.enabled⟩,
          ⟨dto.name, dto.type, dto.label, some next', dto.enabled⟩, ?_, ?_, rfl, hshown⟩
        · show (((encode (.obj merged)).mapError AdminError.error).map some >>= fun _ => _) = _
          rw [hnext]
          rfl
        · show (((encode (.obj merged')).mapError AdminError.error).map some >>= fun _ => _) = _
          rw [hnext']
          rfl

/-- An update sees no more of rows that look alike. -/
theorem prepareUpdate_congr (hcipher : app.encryption.cipher.Correct)
    (hencode : IsToJson app encode) (h : LookAlike app r r') (dto : UpdateTargetSystemDto) :
    SameColumns app r.config r'.config (prepareUpdate app encode dto (some r))
      (prepareUpdate app encode dto (some r')) := by
  have htype : r'.type = r.type := by rw [h.columns]
  have hshown := h.config
  unfold prepareUpdate
  by_cases hneeds : needsCurrent dto = true
  swap
  · rw [if_neg hneeds, if_neg hneeds]
    exact Or.inr ⟨_, _, rfl, rfl, rfl, hshown⟩
  rw [if_pos hneeds, if_pos hneeds]
  dsimp only
  unfold shown at hshown
  cases hread : readConfig app r.config with
  | error e =>
    rw [hread] at hshown
    cases hread' : readConfig app r'.config with
    | error e' =>
      rw [hread'] at hshown
      cases hshown
      exact Or.inl ⟨e, rfl, rfl⟩
    | ok v' =>
      rw [hread'] at hshown
      cases hshown
  | ok v =>
    rw [hread] at hshown
    cases hread' : readConfig app r'.config with
    | error e' =>
      rw [hread'] at hshown
      cases hshown
    | ok v' =>
      rw [hread'] at hshown
      have hsame : redactSecrets v = redactSecrets v' := Except.ok.inj hshown
      have hsettings : redactEntries v.settings = redactEntries v'.settings := by
        rw [← settings_shown, hsame, settings_shown]
      rw [htype]
      exact nextColumns_congr hcipher hencode h.config hsettings dto r.type

theorem update_congr (hcipher : app.encryption.cipher.Correct) (hencode : IsToJson app encode)
    (h : LookAlike app r r') (dto : UpdateTargetSystemDto) (written : Except PrismaError Time) :
    update app encode dto (some r) written = update app encode dto (some r') written := by
  unfold update
  rcases prepareUpdate_congr hcipher hencode h dto with
    ⟨e, hprepare, hprepare'⟩ | ⟨data, data', hprepare, hprepare', hdata, hconfig⟩
  · rw [hprepare, hprepare']
    rfl
  · rw [hprepare, hprepare']
    cases written with
    | error e => rfl
    | ok updatedAt =>
      show toPublicTargetSystem app (data.apply updatedAt r) =
        toPublicTargetSystem app (data'.apply updatedAt r')
      refine LookAlike.toPublicTargetSystem_eq ⟨?_, hconfig⟩
      rw [hdata, h.columns]
      rfl

/-! ### The law -/

/-- The rows differ only in credentials. -/
structure DifferInCredentials (app : App) (r r' : TargetSystem) (v v' : Json) : Prop where
  columns : r' = { r with config := r'.config }
  reads : readConfig app r.config = .ok v
  reads' : readConfig app r'.config = .ok v'
  config : SameButCredentials v v'

/-- No operation has different results on tables that have the one row or the other, among others.
Creating a row is creating it from the configuration that it has. -/
structure SameResults (app : App) (r r' : TargetSystem) (v v' : Json) : Prop where
  findAll : ∀ before after params, TargetSystemService.findAll app (before ++ r :: after) params =
    TargetSystemService.findAll app (before ++ r' :: after) params
  findById : ∀ before after id, TargetSystemService.findById app (before ++ r :: after) id =
    TargetSystemService.findById app (before ++ r' :: after) id
  findByName : ∀ before after name,
    TargetSystemService.findByName app (before ++ r :: after) name =
      TargetSystemService.findByName app (before ++ r' :: after) name
  create : ∀ answer : Except PrismaError Unit,
    create app ⟨r.name, r.type, r.label, v.settings, some r.enabled⟩ (.ok r.config)
        (fun _ => answer.map fun _ => r) =
      TargetSystemService.create app ⟨r'.name, r'.type, r'.label, v'.settings, some r'.enabled⟩
        (.ok r'.config) (fun _ => answer.map fun _ => r')
  update : ∀ encode dto written, IsToJson app encode →
    update app encode dto (some r) written =
      TargetSystemService.update app encode dto (some r') written

variable {v v' : Json}

theorem DifferInCredentials.shown_eq_iff (h : DifferInCredentials app r r' v v') :
    shown app r.config = shown app r'.config ↔ ConnectionsAgree v v' := by
  rw [← redactSecrets_eq_iff v v' h.config]
  unfold shown
  rw [h.reads, h.reads']
  exact ⟨Except.ok.inj, congrArg Except.ok⟩

theorem forall₂_lookAlike (h : LookAlike app r r') (before after : List TargetSystem) :
    List.Forall₂ (LookAlike app) (before ++ r :: after) (before ++ r' :: after) :=
  List.rel_append (List.forall₂_same.2 fun item _ => .refl app item)
    (.cons h (List.forall₂_same.2 fun item _ => .refl app item))

/-- The results are the same on rows that differ only in credentials exactly if the rows agree on the
connection strings that are shown. -/
theorem sameResults_iff (hcipher : app.encryption.cipher.Correct)
    (h : DifferInCredentials app r r' v v') :
    SameResults app r r' v v' ↔ ConnectionsAgree v v' := by
  rw [← h.shown_eq_iff]
  constructor
  · intro hresults
    have hfound := hresults.findById [] [] r.id
    have hid : r'.id = r.id := by rw [h.columns]
    unfold findById at hfound
    rw [List.nil_append, List.nil_append, List.find?_cons_of_pos (by simp),
      List.find?_cons_of_pos (by simp [hid])] at hfound
    unfold publicFound at hfound
    dsimp only at hfound
    rw [toPublicTargetSystem_eq, toPublicTargetSystem_eq] at hfound
    unfold shown at hfound ⊢
    rw [h.reads, h.reads'] at hfound ⊢
    have hitem := Option.some.inj (Except.ok.inj hfound)
    exact congrArg (fun item => Except.ok item.config) hitem
  · intro hshown
    have halike : LookAlike app r r' := ⟨h.columns, hshown⟩
    refine ⟨fun before after params => ?_, fun before after id => ?_, fun before after name => ?_,
      fun answer => ?_, fun encode dto written hencode => ?_⟩
    · exact findAll_congr (forall₂_lookAlike halike before after) params
    · refine publicFound_congr (forall₂_lookAlike halike before after) fun r r' hrow => ?_
      rw [hrow.columns]
    · refine publicFound_congr (forall₂_lookAlike halike before after) fun r r' hrow => ?_
      rw [hrow.columns]
    · have hsame : redactSecrets v = redactSecrets v' :=
        (redactSecrets_eq_iff v v' h.config).2 (h.shown_eq_iff.1 hshown)
      have hsettings : redactEntries v.settings = redactEntries v'.settings := by
        rw [← settings_shown, hsame, settings_shown]
      have htype : r'.type = r.type := by rw [h.columns]
      unfold create
      dsimp only
      rw [htype, validateTargetSystemConfig_congr r.type hsettings]
      cases answer with
      | error e => rfl
      | ok _ =>
        show (_ >>= fun _ => toPublicTargetSystem app r) =
          (_ >>= fun _ => toPublicTargetSystem app r')
        rw [halike.toPublicTargetSystem_eq]
    · exact update_congr hcipher hencode halike dto written

/-- A database as a target system. -/
def TargetSystem.database (config : Settings) : TargetSystem where
  id := "t1"
  name := "crm"
  type := "db"
  label := "CRM"
  config := .native (.obj config)
  enabled := true
  createdAt := 0
  updatedAt := 0

/-- Passwords make no difference. -/
theorem sameResults_password :
    SameResults .sealed (.database [("password", .str "one")])
      (.database [("password", .str "two")]) (.obj [("password", .str "one")])
      (.obj [("password", .str "two")]) := by
  refine (sameResults_iff Cipher.sealing_correct ⟨rfl, rfl, rfl, ?_⟩).2 ?_
  · exact ⟨_, rfl, rfl, Or.inl (by decide), trivial⟩
  · exact ⟨Or.inl (by decide), trivial⟩

/-- A password in a connection string does. -/
theorem not_sameResults_connection :
    DifferInCredentials .bare (.database [("connection", .str "postgres://crm:one@db/crm")])
        (.database [("connection", .str "postgres://crm:two@db/crm")])
        (.obj [("connection", .str "postgres://crm:one@db/crm")])
        (.obj [("connection", .str "postgres://crm:two@db/crm")]) ∧
      ¬ SameResults .bare (.database [("connection", .str "postgres://crm:one@db/crm")])
        (.database [("connection", .str "postgres://crm:two@db/crm")])
        (.obj [("connection", .str "postgres://crm:one@db/crm")])
        (.obj [("connection", .str "postgres://crm:two@db/crm")]) := by
  refine ⟨⟨rfl, rfl, rfl, _, rfl, rfl, Or.inl (by decide), trivial⟩, fun h => ?_⟩
  have hfound := h.findById [] [] "t1"
  have hshown : Except.ok (some (Json.obj [("connection", .str "postgres://crm:one@db/crm")])) =
      Except.ok (some (Json.obj [("connection", .str "postgres://crm:two@db/crm")])) :=
    congrArg (Except.map (Option.map PublicTargetSystem.config)) hfound
  simp at hshown

end IdmMw
