import IdmMw.Admin.PublicView
import IdmMw.Encryption.Startup
import IdmMw.Model.Audit
import IdmMw.Model.Dlq
import IdmMw.Model.LinuxFleet

/-!
# No plaintext at rest

Whether a process encrypts is decided by its settings, but the database outlives it. Once the
encryption state says that encryption is enabled, every JSON column should hold an envelope,
whatever processes have started on the database before.

* `Database`, `Database.Statement`, `Database.Executes`: the tables with the foreign key of the
  hosts, and what the statements of the services make of them;
* `Database.Statement.MadeBy`: the statements that the services of an application make;
* `Database.Reachable`: start-ups and servers, one after the other, each stopped anywhere;
* `Database.Sealed`: the invariant. The check of the start-up does not count the hosts, but there is
  no host without its target system;
* `cell_isEnvelope`: the law.
-/

namespace IdmMw

open Async PrismaService

/-! ### The database -/

/-- The encrypted columns, and the target system of each host. -/
structure Database where
  storage : Storage
  hostTarget : String → String

/-- The column holds an envelope. -/
def Column.IsEnvelope (column : Column) : Prop :=
  ∃ v fields, EncryptionService.envelope? v = some fields ∧
    (column = .native v ∨ column = .text v.stringify)

/-- A statement that concerns the encrypted columns or the state, with the columns it sets. An
update that does not name its column gives `none`. -/
inductive Database.Statement
  | auditLogCreate (payload : Column) (response : Option Column)
  | dlqItemCreate (payload : Column)
  | targetSystemCreate (config : Column)
  | targetSystemUpdate (id : String) (config : Option Column)
  | targetSystemDelete (id : String)
  | hostCreate (targetSystemId : String) (metadata : Column)
  | hostUpdate (id : String) (metadata : Option Column)
  | hostDelete (id : String)
  | rotation (r : StorageReq)

/-- The columns that a statement sets. -/
def Database.Statement.columns : Statement → List Column
  | auditLogCreate payload response => payload :: response.toList
  | dlqItemCreate payload => [payload]
  | targetSystemCreate config => [config]
  | targetSystemUpdate _ config => config.toList
  | targetSystemDelete _ => []
  | hostCreate _ metadata => [metadata]
  | hostUpdate _ metadata => metadata.toList
  | hostDelete _ => []
  | rotation (.auditLogUpdate _ payload response) => payload :: response.toList
  | rotation (.dlqItemUpdate _ payload) => [payload]
  | rotation (.targetSystemUpdate _ config) => [config]
  | rotation _ => []

/-- What an executed statement makes of the database. A new row has a new id, an update leaves what
it does not name. A host needs its target system, and is deleted with it. -/
inductive Database.Executes : Database → Statement → Database → Prop
  | auditLogCreate {db : Database} {id : String} {payload : Column} {response : Option Column}
      (hnew : db.storage.auditLog id = none) :
      Executes db (.auditLogCreate payload response) { db with storage := { db.storage with
        auditLog := Function.update db.storage.auditLog id (some (payload, response)) } }
  | dlqItemCreate {db : Database} {id : String} {payload : Column}
      (hnew : db.storage.dlqItem id = none) :
      Executes db (.dlqItemCreate payload) { db with storage := { db.storage with
        dlqItem := Function.update db.storage.dlqItem id (some payload) } }
  | targetSystemCreate {db : Database} {id : String} {config : Column}
      (hnew : db.storage.targetSystem id = none) :
      Executes db (.targetSystemCreate config) { db with storage := { db.storage with
        targetSystem := Function.update db.storage.targetSystem id (some config) } }
  | targetSystemUpdate {db : Database} {id : String} {config : Column} :
      Executes db (.targetSystemUpdate id (some config)) { db with storage := { db.storage with
        targetSystem := Storage.setRow db.storage.targetSystem id config } }
  | targetSystemUpdateOther {db : Database} {id : String} :
      Executes db (.targetSystemUpdate id none) db
  | targetSystemDelete {db : Database} {id : String} :
      Executes db (.targetSystemDelete id) { db with storage := { db.storage with
        targetSystem := Function.update db.storage.targetSystem id none
        linuxHost := fun host => if db.hostTarget host = id then none
          else db.storage.linuxHost host } }
  | hostCreate {db : Database} {id targetSystemId : String} {metadata : Column}
      (hnew : db.storage.linuxHost id = none)
      (htarget : db.storage.targetSystem targetSystemId ≠ none) :
      Executes db (.hostCreate targetSystemId metadata)
        { storage := { db.storage with
            linuxHost := Function.update db.storage.linuxHost id (some (some metadata)) }
          hostTarget := Function.update db.hostTarget id targetSystemId }
  | hostUpdate {db : Database} {id : String} {metadata : Column} :
      Executes db (.hostUpdate id (some metadata)) { db with storage := { db.storage with
        linuxHost := Storage.setRow db.storage.linuxHost id (some metadata) } }
  | hostUpdateOther {db : Database} {id : String} : Executes db (.hostUpdate id none) db
  | hostDelete {db : Database} {id : String} :
      Executes db (.hostDelete id) { db with storage := { db.storage with
        linuxHost := Function.update db.storage.linuxHost id none } }
  | rotation {db : Database} {r : StorageReq} {a : StorageAns r} {s : Storage}
      (h : StorageEnv db.storage r a s) : Executes db (.rotation r) { db with storage := s }

/-! ### The statements of the services -/

/-- The statements that the services of an application make, whatever their requests are answered
with. No other statement of a service names one of the columns, and none deletes other rows. -/
inductive Database.Statement.MadeBy (app : App) : Statement → Prop
  | intercept {request : WebhookRequest} {data : AuditLogCreate}
      (h : (AuditInterceptor.intercept app request).Makes (.auditLogCreate data)) :
      MadeBy app (.auditLogCreate data.payload data.response)
  | add {item : DlqItemData} {data : DlqItemCreate}
      (h : (DlqService.add app item).Makes (.dlqItemCreate data)) :
      MadeBy app (.dlqItemCreate data.payload)
  | create {dto : CreateTargetSystemDto} {config : Column} {t : Trace}
      (hvalid : TargetSystemService.validateTargetSystemConfig dto.type dto.config = .ok ())
      (h : (JsonHelper.toJson app (.obj dto.config)).Runs t (.ok config)) :
      MadeBy app (.targetSystemCreate config)
  | update {encode : Json → Except JsError Column} {dto : UpdateTargetSystemDto} {id : String}
      {current : Option TargetSystem} {data : TargetSystemUpdate} (hencode : IsToJson app encode)
      (h : TargetSystemService.prepareUpdate app encode dto current = .ok data) :
      MadeBy app (.targetSystemUpdate id data.config)
  | delete {id : String} : MadeBy app (.targetSystemDelete id)
  | createHost {numberText : ℚ → String} {encode : Json → Except JsError Column}
      {targetSystemId : String} {body : Json} {data : HostCreate} (hencode : IsToJson app encode)
      (h : (LinuxFleetService.createHost numberText encode targetSystemId body).Makes
        (.hostCreate data)) : MadeBy app (.hostCreate data.targetSystemId data.metadata)
  | updateHost {numberText : ℚ → String} {encode : Json → Except JsError Column} {id : String}
      {body : Json} {data : HostUpdate} (hencode : IsToJson app encode)
      (h : (LinuxFleetService.updateHost numberText encode id body).Makes (.hostUpdate id data)) :
      MadeBy app (.hostUpdate id data.metadata)
  | deleteHost {id : String} : MadeBy app (.hostDelete id)
  | rotate {rotation : RotationConfig} {r : StorageReq}
      (h : (EncryptionRotationService.rotateToActiveKey app rotation).Makes r) :
      MadeBy app (.rotation r)

/-! ### Histories -/

/-- A statement of the application is executed. -/
def Database.Step (app : App) (db db' : Database) : Prop :=
  ∃ statement : Statement, statement.MadeBy app ∧ db.Executes statement db'

/-- The databases that processes lead to, one after the other, from the first start on: a start-up,
whether it is accepted, refused or stopped; a server that was accepted, with any number of
statements. -/
inductive Database.Reachable : Database → Prop
  | empty {hostTarget : String → String} : Reachable ⟨.empty, hostTarget⟩
  | startUp {start : StartConfig} {db : Database} {t : StorageTrace} {p : StorageProg Unit}
      {s : Storage} (h : Reachable db) (hf : (validateEncryptionState start).Follows t p)
      (hl : db.storage.Leads t s) : Reachable { db with storage := s }
  | server {start : StartConfig} {app : App} {db db' : Database} {t : StorageTrace} {s : Storage}
      (h : Reachable db) (hsame : start.encryption = app.encryption)
      (hrun : (validateEncryptionState start).Runs t (.ok ())) (hl : db.storage.Leads t s)
      (hsteps : Relation.ReflTransGen (Database.Step app) { db with storage := s } db') :
      Reachable db'

/-! ### What the services store -/

/-- `toJson` of the application gives the column for some value. -/
def App.Stores (app : App) (column : Column) : Prop :=
  ∃ v t, (JsonHelper.toJson app v).Runs t (.ok column)

/-- What a rotation may ask: it does not create the encryption state, it sets columns that `toJson`
gave, and the key it completes with is the active one. -/
def StorageReq.Rotates (app : App) : StorageReq → Prop
  | .stateInsert _ => False
  | .stateComplete kid _ => app.encryption.activeKeyId = .ok kid
  | .auditLogUpdate _ payload response => ∀ column ∈ payload :: response.toList, app.Stores column
  | .dlqItemUpdate _ payload => app.Stores payload
  | .targetSystemUpdate _ config => app.Stores config
  | _ => True

section Services

variable {app : App} {column : Column} {encode : Json → Except JsError Column}

theorem App.Stores.isEnvelope (h : app.Stores column) (henabled : app.encryption.isEnabled = true) :
    column.IsEnvelope := by
  obtain ⟨v, t, hrun⟩ := h
  obtain ⟨kid, key, -, -, iv, stored, rfl, hcolumn⟩ := toJson_underActive henabled hrun
  exact ⟨_, _, EncryptionService.envelope?_envelope _ _ _ _, hcolumn⟩

theorem IsToJson.stores {v : Json} (hencode : IsToJson app encode) (h : encode v = .ok column) :
    app.Stores column := by
  obtain ⟨t, hrun⟩ := hencode v
  rw [h] at hrun
  exact ⟨v, t, hrun⟩

variable (app) in
theorem intercept_issues (request : WebhookRequest) :
    (AuditInterceptor.intercept app request).Issues fun r => ∀ data, r = .auditLogCreate data →
      ∀ column ∈ data.payload :: data.response.toList, app.Stores column := by
  have happ : ∀ {α : Type} {p : Prog α}, (AuditProg.ofApp p).Issues fun r =>
      ∀ data, r = .auditLogCreate data →
        ∀ column ∈ data.payload :: data.response.toList, app.Stores column :=
    issues_embed fun r data heq => by cases heq
  have htoJson : ∀ {v : Json} {t : List (Async.Event AuditAns)} {column : Column},
      (AuditProg.ofApp (JsonHelper.toJson app v)).Runs t (.ok column) → app.Stores column := by
    intro v t column h
    obtain ⟨t', h⟩ := runs_embed h
    exact ⟨v, t', h⟩
  refine Issues.tryCatch (Issues.bind happ fun result => ?_) fun error => ?_
  · refine Issues.bind ?_ fun _ => issues_pure
    refine Issues.bind happ fun date => Issues.bind_of_runs happ fun t payload hpayload => ?_
    refine Issues.bind_of_runs happ fun t' response hresponse => ⟨?_, fun _ => issues_settle⟩
    rintro data heq column hcolumn
    obtain rfl := AuditReq.auditLogCreate.inj heq
    rcases List.mem_cons.1 hcolumn with rfl | hcolumn
    · exact htoJson hpayload
    · obtain rfl := List.mem_singleton.1 hcolumn
      exact htoJson hresponse
  · refine Issues.bind ?_ fun _ => issues_throw
    refine Issues.bind happ fun date => Issues.bind_of_runs happ fun t payload hpayload => ?_
    refine ⟨?_, fun _ => issues_settle⟩
    rintro data heq column hcolumn
    obtain rfl := AuditReq.auditLogCreate.inj heq
    obtain rfl := List.mem_singleton.1 hcolumn
    exact htoJson hpayload

variable (app) in
theorem add_issues (item : DlqItemData) :
    (DlqService.add app item).Issues fun r => ∀ data, r = .dlqItemCreate data →
      app.Stores data.payload := by
  have hother : ∀ {α : Type} {p : Prog α} {as : List Area}, Footprint p as → .dlqCreate ∉ as →
      p.Issues fun r => ∀ data, r = .dlqItemCreate data → app.Stores data.payload := by
    intro α p as h has
    refine Issues.mono h fun r hr data heq => ?_
    subst heq
    exact absurd hr has
  refine Issues.bind_of_runs (hother (toJson_footprint app _) (by decide))
    fun t payload hpayload => Issues.bind ⟨?_, fun _ => issues_settle⟩ fun _ =>
      hother updateMetrics_footprint (by decide)
  rintro data heq
  obtain rfl := Req.dlqItemCreate.inj heq
  exact ⟨_, t, hpayload⟩

theorem prepareUpdate_stores (hencode : IsToJson app encode) {dto : UpdateTargetSystemDto}
    {current : Option TargetSystem} {data : TargetSystemUpdate}
    (h : TargetSystemService.prepareUpdate app encode dto current = .ok data) :
    ∀ column ∈ data.config.toList, app.Stores column := by
  intro column hcolumn
  unfold TargetSystemService.prepareUpdate at h
  split at h
  · cases current with
    | none => cases h
    | some item =>
      obtain ⟨currentConfig, -, h⟩ := bind_eq_ok.1 h
      unfold TargetSystemService.nextColumns at h
      dsimp only at h
      cases hdto : dto.config with
      | none =>
        rw [hdto] at h
        obtain ⟨nextConfig, hnext, h⟩ := bind_eq_ok.1 h
        obtain rfl := Except.ok.inj hnext
        obtain ⟨⟨⟩, -, h⟩ := bind_eq_ok.1 h
        obtain ⟨config, hconfig, h⟩ := bind_eq_ok.1 h
        obtain rfl := Except.ok.inj hconfig
        obtain rfl := Except.ok.inj h
        cases hcolumn
      | some incoming =>
        rw [hdto] at h
        obtain ⟨nextConfig, hnext, h⟩ := bind_eq_ok.1 h
        obtain ⟨merged, -, rfl⟩ := map_eq_ok.1 hnext
        obtain ⟨⟨⟩, -, h⟩ := bind_eq_ok.1 h
        obtain ⟨config, hconfig, h⟩ := bind_eq_ok.1 h
        obtain rfl := Except.ok.inj h
        obtain ⟨stored, hstored, rfl⟩ := map_eq_ok.1 hconfig
        obtain rfl := List.mem_singleton.1 hcolumn
        exact hencode.stores (mapError_eq_ok.1 hstored)
  · obtain rfl := Except.ok.inj h
    cases hcolumn

/-- What a body gives for the metadata of a host. -/
theorem fleetToJson_runs (hencode : IsToJson app encode) {value : Settings}
    {t : List (Async.Event FleetAns)}
    (h : (LinuxFleetService.toJson encode value).Runs t (.ok column)) : app.Stores column := by
  exact hencode.stores (mapError_eq_ok.1 h.2.symm)

theorem requireNamedProfile_issues {P : FleetReq → Prop} (targetSystemId : String)
    (profileId : Option String) (h : ∀ id, P (.profileFindFirst id targetSystemId)) :
    (LinuxFleetService.requireNamedProfile targetSystemId profileId).Issues P := by
  cases profileId with
  | none => exact issues_pure
  | some id =>
    refine Issues.bind (Issues.bind ⟨h id, fun _ => issues_settle⟩ fun profile => ?_)
      fun _ => issues_pure
    cases profile with
    | none => exact issues_throw
    | some profile => exact issues_pure

theorem createHost_issues (hencode : IsToJson app encode) (numberText : ℚ → String)
    (targetSystemId : String) (body : Json) :
    (LinuxFleetService.createHost numberText encode targetSystemId body).Issues fun r =>
      ∀ data, r = .hostCreate data → app.Stores data.metadata := by
  refine Issues.bind (Issues.bind ⟨by rintro data ⟨⟩, fun _ => issues_settle⟩ fun row => ?_)
    fun _ => issues_check fun _ _ => ?_
  · cases row with
    | none => exact issues_throw
    | some row =>
      dsimp only
      split
      · exact issues_pure
      · exact issues_throw
  · refine Issues.bind (requireNamedProfile_issues _ _ fun id => by rintro data ⟨⟩) fun _ => ?_
    refine Issues.bind_of_runs issues_ofExcept fun t metadata hmetadata =>
      ⟨?_, fun _ => issues_settle⟩
    rintro data heq
    obtain rfl := FleetReq.hostCreate.inj heq
    exact fleetToJson_runs hencode hmetadata

theorem updateHost_issues (hencode : IsToJson app encode) (numberText : ℚ → String)
    (id : String) (body : Json) :
    (LinuxFleetService.updateHost numberText encode id body).Issues fun r =>
      ∀ data, r = .hostUpdate id data → ∀ column ∈ data.metadata.toList, app.Stores column := by
  refine Issues.bind ⟨by rintro data ⟨⟩, fun _ => issues_settle⟩ fun row => ?_
  cases row with
  | none => exact issues_throw
  | some current =>
    refine issues_check fun _ _ => ?_
    refine Issues.bind (requireNamedProfile_issues _ _ fun id => by rintro data ⟨⟩) fun _ => ?_
    cases hmetadata : (LinuxFleetService.partialHostDto numberText body).metadata with
    | none =>
      refine Issues.bind_of_runs issues_pure fun t metadata hrun => ⟨?_, fun _ => issues_settle⟩
      rintro data heq column hcolumn
      obtain rfl := (FleetReq.hostUpdate.inj heq).2
      obtain rfl := Except.ok.inj hrun.2
      cases hcolumn
    | some value =>
      refine Issues.bind_of_runs (Issues.bind issues_ofExcept fun _ => issues_pure)
        fun t metadata hrun => ⟨?_, fun _ => issues_settle⟩
      rintro data heq column hcolumn
      obtain rfl := (FleetReq.hostUpdate.inj heq).2
      obtain ⟨stored, t₁, t₂, rfl, hstored, -, hsome⟩ := runs_bind_ok.1 hrun
      obtain rfl := Except.ok.inj hsome
      obtain rfl := List.mem_singleton.1 hcolumn
      exact fleetToJson_runs hencode hstored

end Services

/-! ### What the rotation stores -/

section Rotation

open EncryptionRotationService

variable {app : App} {column : Column}

/-- The columns that a request of a rotation sets come from `toJson`. -/
theorem StorageReq.Rotates.stores {r : StorageReq} (h : r.Rotates app) :
    ∀ column ∈ (Database.Statement.rotation r).columns, app.Stores column := by
  intro column hcolumn
  cases r with
  | auditLogUpdate id payload response => exact h column hcolumn
  | dlqItemUpdate id payload =>
    obtain rfl := List.mem_singleton.1 hcolumn
    exact h
  | targetSystemUpdate id config =>
    obtain rfl := List.mem_singleton.1 hcolumn
    exact h
  | _ => cases hcolumn

theorem ofService_rotates {α : Type} {p : Prog α} :
    (ofService p).Issues (StorageReq.Rotates app) :=
  issues_embed fun _ => trivial

theorem reencrypt_issues : (reencrypt app column).Issues (StorageReq.Rotates app) :=
  Issues.bind issues_ofExcept fun _ => ofService_rotates

theorem reencrypt_runs {t : StorageTrace} {stored : Column}
    (h : (reencrypt app column).Runs t (.ok stored)) : app.Stores stored := by
  obtain ⟨v, t₁, t₂, rfl, -, h⟩ := runs_bind_ok.1 h
  obtain ⟨t', h⟩ := runs_embed h
  exact ⟨v, t', h⟩

theorem rotateAuditLog_issues (row : AuditLogRow) :
    (rotateAuditLog app row).Issues (StorageReq.Rotates app) := by
  refine Issues.bind_of_runs reencrypt_issues fun t payload hpayload => ?_
  have hresponse : (reencryptResponse app row.response).Issues (StorageReq.Rotates app) ∧
      ∀ t response, (reencryptResponse app row.response).Runs t (.ok response) →
        ∀ column ∈ response.toList, app.Stores column := by
    cases row.response with
    | none =>
      refine ⟨issues_pure, fun t response hrun column hcolumn => ?_⟩
      obtain rfl := Except.ok.inj hrun.2
      cases hcolumn
    | some response =>
      refine ⟨Issues.bind reencrypt_issues fun _ => issues_pure, ?_⟩
      intro t response hrun column hcolumn
      obtain ⟨stored, t₁, t₂, rfl, hstored, -, hsome⟩ := runs_bind_ok.1 hrun
      obtain rfl := Except.ok.inj hsome
      obtain rfl := List.mem_singleton.1 hcolumn
      exact reencrypt_runs hstored
  refine Issues.bind_of_runs hresponse.1 fun t' response hrun => ⟨?_, fun _ => issues_settle⟩
  intro column hcolumn
  rcases List.mem_cons.1 hcolumn with rfl | hcolumn
  · exact reencrypt_runs hpayload
  · exact hresponse.2 t' response hrun column hcolumn

theorem rotateDlqItem_issues (row : String × Column) :
    (rotateDlqItem app row).Issues (StorageReq.Rotates app) :=
  Issues.bind_of_runs reencrypt_issues fun _ _ hpayload =>
    ⟨reencrypt_runs hpayload, fun _ => issues_settle⟩

theorem rotateTargetSystem_issues (row : String × Column) :
    (rotateTargetSystem app row).Issues (StorageReq.Rotates app) :=
  Issues.bind_of_runs reencrypt_issues fun _ _ hconfig =>
    ⟨reencrypt_runs hconfig, fun _ => issues_settle⟩

/-- A single request. -/
theorem ask_issues {α : Type} {r : StorageReq} {k : StorageAns r → Except JsError α}
    (h : r.Rotates app) :
    (.await r fun a => .settle (k a) : StorageProg α).Issues (StorageReq.Rotates app) :=
  ⟨h, fun _ => issues_settle⟩

theorem markRotation_issues (status : String) (state : EncryptionStateRow) :
    (markRotation status state).Issues (StorageReq.Rotates app) :=
  Issues.bind issues_ofExcept fun _ => ask_issues trivial

theorem completeRotation_issues (state : EncryptionStateRow) :
    (completeRotation app state).Issues (StorageReq.Rotates app) :=
  Issues.bind issues_ofExcept fun _ => issues_check fun _ hactive => ask_issues hactive

theorem kafkaLag_issues (rotation : RotationConfig) :
    (kafkaLag app rotation).Issues (StorageReq.Rotates app) := by
  have hlag : ∀ groupId topics lag,
      (lagFrom groupId topics lag).Issues (StorageReq.Rotates app) := by
    intro groupId topics
    induction topics with
    | nil => exact fun lag => issues_pure
    | cons topic topics ih =>
      intro lag
      refine Issues.bind (ask_issues trivial) fun _ => ?_
      exact Issues.bind (ask_issues trivial) fun _ => ih _
  unfold kafkaLag
  split
  · exact issues_pure
  · refine Issues.bind (ask_issues trivial) fun _ => ?_
    refine Issues.bind (Issues.tryCatch (Issues.bind (hlag _ _ _) fun _ => issues_pure)
      fun _ => issues_pure) fun _ => ?_
    exact Issues.bind (ask_issues trivial) fun _ => issues_ofExcept

theorem assertNoActiveProcessing_issues (rotation : RotationConfig) :
    (assertNoActiveProcessing app rotation).Issues (StorageReq.Rotates app) := by
  refine Issues.bind (ask_issues trivial) fun _ => ?_
  refine Issues.bind ofService_rotates fun _ => ?_
  refine Issues.bind (ask_issues trivial) fun _ => ?_
  refine Issues.bind (kafkaLag_issues rotation) fun _ => ?_
  exact issues_ite issues_throw issues_pure

theorem rotateToActiveKey_issues (rotation : RotationConfig) :
    (rotateToActiveKey app rotation).Issues (StorageReq.Rotates app) := by
  refine issues_check fun _ _ => issues_check fun _ _ => ?_
  refine Issues.bind (Issues.bind (ask_issues trivial) fun row => ?_)
    fun state => issues_check fun nextKeyId _ => ?_
  · cases row with
    | none => exact issues_throw
    | some row => exact issues_pure
  · split
    · exact issues_pure
    · refine Issues.bind (assertNoActiveProcessing_issues rotation) fun _ => ?_
      refine Issues.bind (markRotation_issues _ _) fun _ => ?_
      refine Issues.tryCatch ?_ fun _ => Issues.bind (markRotation_issues _ _) fun _ => issues_throw
      have hfind : ∀ {α : Type} {r : StorageReq} {k : StorageAns r → Except JsError (List α)}
          {step : α → StorageProg Unit}, r.Rotates app →
          (∀ row, (step row).Issues (StorageReq.Rotates app)) →
          ((.await r fun a => .settle (k a) : StorageProg (List α)) >>= forEach step).Issues
            (StorageReq.Rotates app) := by
        intro α r k step hr hstep
        exact Issues.bind (ask_issues hr) fun rows => issues_forEach fun row _ => hstep row
      refine Issues.bind (hfind trivial rotateAuditLog_issues) fun _ => ?_
      refine Issues.bind (hfind trivial rotateDlqItem_issues) fun _ => ?_
      refine Issues.bind (hfind trivial rotateTargetSystem_issues) fun _ => ?_
      exact completeRotation_issues state

end Rotation

/-! ### The invariant -/

namespace Database

variable {app : App} {db db' : Database} {statement : Statement} {column : Column} {slot : Slot}

/-- Whatever the services write comes from `toJson`, and they do not create the encryption state. -/
theorem Statement.MadeBy.stores (h : statement.MadeBy app) :
    (∀ column ∈ statement.columns, app.Stores column) ∧
      ∀ kid, statement ≠ .rotation (.stateInsert kid) := by
  cases h with
  | intercept h => exact ⟨(intercept_issues app _).of_makes h _ rfl, fun _ => Statement.noConfusion⟩
  | add h =>
    refine ⟨fun column hcolumn => ?_, fun _ => Statement.noConfusion⟩
    obtain rfl := List.mem_singleton.1 hcolumn
    exact (add_issues app _).of_makes h _ rfl
  | create hvalid h =>
    refine ⟨fun column hcolumn => ?_, fun _ => Statement.noConfusion⟩
    obtain rfl := List.mem_singleton.1 hcolumn
    exact ⟨_, _, h⟩
  | update hencode h => exact ⟨prepareUpdate_stores hencode h, fun _ => Statement.noConfusion⟩
  | delete =>
    exact ⟨fun column hcolumn => absurd hcolumn List.not_mem_nil, fun _ => Statement.noConfusion⟩
  | createHost hencode h =>
    refine ⟨fun column hcolumn => ?_, fun _ => Statement.noConfusion⟩
    obtain rfl := List.mem_singleton.1 hcolumn
    exact (createHost_issues hencode _ _ _).of_makes h _ rfl
  | updateHost hencode h =>
    exact ⟨(updateHost_issues hencode _ _ _).of_makes h _ rfl, fun _ => Statement.noConfusion⟩
  | deleteHost =>
    exact ⟨fun column hcolumn => absurd hcolumn List.not_mem_nil, fun _ => Statement.noConfusion⟩
  | rotate h =>
    have hrotates := (rotateToActiveKey_issues _).of_makes h
    refine ⟨hrotates.stores, fun kid heq => ?_⟩
    obtain rfl := Statement.rotation.inj heq
    exact hrotates

section Tables

variable {α : Type} {table : String → Option α} {id id' : String} {row row' : α} {s : Storage}

theorem mem_of_setRow (h : Storage.setRow table id row id' = some row') :
    table id' = some row' ∨ row' = row := by
  by_cases hid : id' = id
  · subst hid
    rw [Storage.setRow, Function.update_self] at h
    obtain ⟨_, -, rfl⟩ := Option.map_eq_some_iff.1 h
    exact Or.inr rfl
  · rw [Storage.setRow_of_ne hid] at h
    exact Or.inl h

theorem mem_of_update (h : Function.update table id (some row) id' = some row') :
    table id' = some row' ∨ row' = row := by
  by_cases hid : id' = id
  · subst hid
    rw [Function.update_self] at h
    exact Or.inr (Option.some.inj h).symm
  · rw [Function.update_of_ne hid] at h
    exact Or.inl h

theorem mem_of_erase (h : Function.update table id none id' = some row') :
    table id' = some row' := by
  by_cases hid : id' = id
  · subst hid
    rw [Function.update_self] at h
    cases h
  · rwa [Function.update_of_ne hid] at h

theorem setRow_eq_none : Storage.setRow table id row id' = none ↔ table id' = none := by
  by_cases hid : id' = id
  · subst hid
    rw [Storage.setRow, Function.update_self, Option.map_eq_none_iff]
  · rw [Storage.setRow_of_ne hid]

/-! The columns of a table whose rows are those from before and a new one. -/

theorem auditLog_cell {table : String → Option (Column × Option Column)}
    {new : Column × Option Column}
    (h : ∀ id row, table id = some row → s.auditLog id = some row ∨ row = new)
    (hcell : { s with auditLog := table }.cell slot = some column) :
    s.cell slot = some column ∨ column ∈ new.1 :: new.2.toList := by
  cases slot with
  | auditPayload id =>
    obtain ⟨row, hrow, rfl⟩ := Option.map_eq_some_iff.1 hcell
    rcases h id row hrow with hold | rfl
    · exact Or.inl (Option.map_eq_some_iff.2 ⟨row, hold, rfl⟩)
    · exact Or.inr List.mem_cons_self
  | auditResponse id =>
    obtain ⟨row, hrow, hresponse⟩ := Option.bind_eq_some_iff.1 hcell
    rcases h id row hrow with hold | rfl
    · exact Or.inl (Option.bind_eq_some_iff.2 ⟨row, hold, hresponse⟩)
    · exact Or.inr (List.mem_cons_of_mem _ (Option.mem_toList.2 hresponse))
  | _ => exact Or.inl hcell

theorem dlqItem_cell {table : String → Option Column} {new : Column}
    (h : ∀ id row, table id = some row → s.dlqItem id = some row ∨ row = new)
    (hcell : { s with dlqItem := table }.cell slot = some column) :
    s.cell slot = some column ∨ column ∈ [new] := by
  cases slot with
  | dlqPayload id => exact (h id column hcell).imp_right List.mem_singleton.2
  | _ => exact Or.inl hcell

theorem targetSystem_cell {table : String → Option Column} {new : Column}
    (h : ∀ id row, table id = some row → s.targetSystem id = some row ∨ row = new)
    (hcell : { s with targetSystem := table }.cell slot = some column) :
    s.cell slot = some column ∨ column ∈ [new] := by
  cases slot with
  | targetConfig id => exact (h id column hcell).imp_right List.mem_singleton.2
  | _ => exact Or.inl hcell

theorem linuxHost_cell {table : String → Option (Option Column)} {new : Column}
    (h : ∀ id row, table id = some row → s.linuxHost id = some row ∨ row = some new)
    (hcell : { s with linuxHost := table }.cell slot = some column) :
    s.cell slot = some column ∨ column ∈ [new] := by
  cases slot with
  | hostMetadata id =>
    rcases h id (some column) (Option.join_eq_some_iff.1 hcell) with hold | heq
    · exact Or.inl (Option.join_eq_some_iff.2 hold)
    · exact Or.inr (List.mem_singleton.2 (Option.some.inj heq))
  | _ => exact Or.inl hcell

/-- A column of which a statement of the rotation says nothing stays. -/
theorem exec_cell {r : StorageReq} (hcell : (s.exec r).cell slot = some column) :
    s.cell slot = some column ∨ column ∈ (Statement.rotation r).columns := by
  cases r with
  | auditLogUpdate id payload response => exact auditLog_cell (fun _ _ => mem_of_setRow) hcell
  | dlqItemUpdate id payload => exact dlqItem_cell (fun _ _ => mem_of_setRow) hcell
  | targetSystemUpdate id config => exact targetSystem_cell (fun _ _ => mem_of_setRow) hcell
  | _ => exact Or.inl hcell

end Tables

/-- A column is one from before, or one that the statement sets. -/
theorem Executes.cell (h : db.Executes statement db')
    (hcell : db'.storage.cell slot = some column) :
    db.storage.cell slot = some column ∨ column ∈ statement.columns := by
  cases h with
  | auditLogCreate hnew => exact auditLog_cell (fun _ _ => mem_of_update) hcell
  | dlqItemCreate hnew => exact dlqItem_cell (fun _ _ => mem_of_update) hcell
  | targetSystemCreate hnew => exact targetSystem_cell (fun _ _ => mem_of_update) hcell
  | targetSystemUpdate => exact targetSystem_cell (fun _ _ => mem_of_setRow) hcell
  | targetSystemUpdateOther => exact Or.inl hcell
  | targetSystemDelete =>
    refine Or.inl ?_
    cases slot with
    | targetConfig id => exact mem_of_erase hcell
    | hostMetadata id =>
      have hrow := Option.join_eq_some_iff.1 hcell
      dsimp only at hrow
      split at hrow
      · cases hrow
      · exact Option.join_eq_some_iff.2 hrow
    | _ => exact hcell
  | hostCreate hnew htarget => exact linuxHost_cell (fun _ _ => mem_of_update) hcell
  | hostUpdate => exact linuxHost_cell (fun _ _ => mem_of_setRow) hcell
  | hostUpdateOther => exact Or.inl hcell
  | hostDelete =>
    refine Or.inl ?_
    cases slot with
    | hostMetadata id =>
      exact Option.join_eq_some_iff.2 (mem_of_erase (Option.join_eq_some_iff.1 hcell))
    | _ => exact hcell
  | rotation h =>
    rcases h with ⟨-, rfl⟩ | ⟨-, rfl⟩
    · exact exec_cell hcell
    · exact Or.inl hcell

/-- Only the first start creates the encryption state, and nothing deletes it. -/
theorem Executes.state_eq_none (h : db.Executes statement db')
    (hinsert : ∀ kid, statement ≠ .rotation (.stateInsert kid)) :
    db'.storage.state = none ↔ db.storage.state = none := by
  cases h with
  | rotation h =>
    rename_i r a s
    rcases h with ⟨-, rfl⟩ | ⟨-, rfl⟩
    · cases r with
      | stateInsert kid => exact absurd rfl (hinsert kid)
      | stateMark status ids => exact Option.map_eq_none_iff
      | stateComplete kid ids => exact Option.map_eq_none_iff
      | _ => rfl
    · rfl
  | _ => rfl

theorem Executes.enabled (h : db.Executes statement db') (hdb : db.storage.Enabled) :
    db'.storage.Enabled := by
  cases h with
  | rotation h => exact h.enabled hdb
  | _ => exact hdb

/-- Every host has its target system. -/
def Rooted (db : Database) : Prop :=
  ∀ id, db.storage.linuxHost id ≠ none → db.storage.targetSystem (db.hostTarget id) ≠ none

theorem Executes.rooted (h : db.Executes statement db') (hdb : db.Rooted) : db'.Rooted := by
  cases h with
  | targetSystemCreate hnew =>
    rename_i target config
    intro id hid
    by_cases heq : db.hostTarget id = target
    · simp [heq]
    · exact fun hnone => hdb id hid ((Function.update_of_ne heq _ _).symm.trans hnone)
  | targetSystemUpdate => exact fun id hid => mt setRow_eq_none.1 (hdb id hid)
  | targetSystemDelete =>
    rename_i target
    intro id hid
    dsimp only at hid ⊢
    split at hid
    · exact absurd rfl hid
    · next hne =>
      rw [Function.update_of_ne hne]
      exact hdb id hid
  | hostCreate hnew htarget =>
    rename_i host target metadata
    intro id hid
    dsimp only at hid ⊢
    by_cases heq : id = host
    · rw [heq, Function.update_self]
      exact htarget
    · rw [Function.update_of_ne heq] at hid ⊢
      exact hdb id hid
  | hostUpdate => exact fun id hid => hdb id (mt setRow_eq_none.2 hid)
  | hostDelete =>
    rename_i host
    intro id hid
    dsimp only at hid
    by_cases heq : id = host
    · rw [heq, Function.update_self] at hid
      exact absurd rfl hid
    · rw [Function.update_of_ne heq] at hid
      exact hdb id hid
  | rotation h =>
    rename_i r a s
    rcases h with ⟨-, rfl⟩ | ⟨-, rfl⟩
    · cases r with
      | targetSystemUpdate id config => exact fun id hid => mt setRow_eq_none.1 (hdb id hid)
      | _ => exact hdb
    · exact hdb
  | _ => exact hdb

/-- What holds between any two statements: a host has its target system, the encryption state is not
disabled, and if there is one every column holds an envelope. -/
structure Sealed (db : Database) : Prop where
  rooted : db.Rooted
  enabled : db.storage.Enabled
  envelopes : db.storage.state ≠ none → ∀ slot column, db.storage.cell slot = some column →
    column.IsEnvelope

theorem sealed_empty {hostTarget : String → String} : Sealed ⟨.empty, hostTarget⟩ :=
  ⟨fun _ hid => absurd rfl hid, (by rintro row ⟨⟩), fun hstate => absurd rfl hstate⟩

/-- Whether the process is accepted or not: where it creates the encryption state there is no row,
and no host either. -/
theorem Sealed.started {encryption : EncryptionService} {s : Storage} (h : db.Sealed)
    (henabled : s.Enabled) (hs : Started encryption db.storage s) :
    Sealed { db with storage := s } := by
  rcases hs with rfl | ⟨-, hcells, kid, -, rfl⟩
  · exact h
  refine ⟨h.rooted, henabled, fun _ slot column hcell => ?_⟩
  have hcell : db.storage.cell slot = some column := hcell
  cases slot with
  | hostMetadata id =>
    have hhost : db.storage.linuxHost id ≠ none := by
      rw [Option.join_eq_some_iff.1 hcell]
      exact Option.some_ne_none _
    have htarget : db.storage.targetSystem (db.hostTarget id) = none :=
      hcells (.targetConfig _) trivial
    exact absurd htarget (h.rooted id hhost)
  | _ => exact absurd (hcell.symm.trans (hcells _ trivial)) (Option.some_ne_none _)

/-- A statement of a process that encrypts, or that has found no encryption state. -/
theorem Sealed.step (h : db.Sealed)
    (happ : app.encryption.isEnabled = true ∨ db.storage.state = none) (hstep : db.Step app db') :
    db'.Sealed ∧ (app.encryption.isEnabled = true ∨ db'.storage.state = none) := by
  obtain ⟨statement, hmade, hexecutes⟩ := hstep
  obtain ⟨hcolumns, hinsert⟩ := hmade.stores
  have hstate := hexecutes.state_eq_none hinsert
  refine ⟨⟨hexecutes.rooted h.rooted, hexecutes.enabled h.enabled, ?_⟩, happ.imp_right hstate.2⟩
  intro hne slot column hcell
  have henabled : app.encryption.isEnabled = true :=
    happ.resolve_right fun hnone => hne (hstate.2 hnone)
  rcases hexecutes.cell hcell with hold | hnew
  · exact h.envelopes (mt hstate.2 hne) slot column hold
  · exact (hcolumns column hnew).isEnvelope henabled

theorem Sealed.steps (h : db.Sealed)
    (happ : app.encryption.isEnabled = true ∨ db.storage.state = none)
    (hsteps : Relation.ReflTransGen (Step app) db db') :
    db'.Sealed ∧ (app.encryption.isEnabled = true ∨ db'.storage.state = none) := by
  induction hsteps with
  | refl => exact ⟨h, happ⟩
  | tail _ hstep ih => exact ih.1.step ih.2 hstep

theorem Reachable.isSealed (h : db.Reachable) : db.Sealed := by
  induction h with
  | empty => exact sealed_empty
  | @startUp start db t p s h hf hl ih =>
    have hwp := validateEncryptionState_wp start db.storage ih.enabled
    exact ih.started (hl.enabled ih.enabled) (hf.guarded hwp (fun _ _ hx => hx.1) hl.guarded)
  | @server start app db db' t s h hsame hrun hl hsteps ih =>
    obtain ⟨hstarted, hadmitted⟩ :=
      wp_runs (validateEncryptionState_wp start db.storage ih.enabled) hrun hl.guarded
    refine ((ih.started (hl.enabled ih.enabled) hstarted).steps ?_ hsteps).1
    have hkey := hadmitted rfl
    unfold Admitted at hkey
    rw [hsame] at hkey
    split at hkey
    · next henabled => exact Or.inl henabled
    · exact Or.inr hkey

/-! ### The law -/

/-- In every database that processes lead to, whose encryption state says that encryption is
enabled, a column that is not NULL holds an envelope. -/
theorem cell_isEnvelope {row : EncryptionStateRow} (h : db.Reachable)
    (hstate : db.storage.state = some row) (_henabled : row.enabled = true)
    (hcell : db.storage.cell slot = some column) : column.IsEnvelope := by
  refine h.isSealed.envelopes ?_ slot column hcell
  rw [hstate]
  exact Option.some_ne_none _

/-- The first server creates a target system. -/
theorem oneTarget_step : Step App.sealed ⟨Storage.empty.exec (.stateInsert "k1"), fun _ => ""⟩
    ⟨oneTarget, fun _ => ""⟩ := by
  have hexecutes : Executes ⟨Storage.empty.exec (.stateInsert "k1"), fun _ => ""⟩
      (.targetSystemCreate (sealedColumn "k1" "secret-1")) ⟨oneTarget, fun _ => ""⟩ :=
    .targetSystemCreate rfl
  have hmade : (Statement.targetSystemCreate (sealedColumn "k1" "secret-1")).MadeBy App.sealed :=
    @Statement.MadeBy.create _ ⟨"target", "rest", "Target", [], none⟩ _ _ rfl sealed_toJson
  exact ⟨_, hmade, hexecutes⟩

/-- Before, it has created the encryption state. -/
theorem oneTarget_reachable : Reachable ⟨oneTarget, fun _ => ""⟩ :=
  .server .empty rfl firstStart_runs firstStart_leads (.single oneTarget_step)

theorem cell_isEnvelope_oneTarget : ∃ db row column, Reachable db ∧
    db.storage.state = some row ∧ row.enabled = true ∧
    db.storage.cell (.targetConfig "target-1") = some column ∧ column.IsEnvelope := by
  have hcell : oneTarget.cell (.targetConfig "target-1") = some (sealedColumn "k1" "secret-1") := by
    simp [oneTarget, Storage.cell]
  exact ⟨_, firstState, _, oneTarget_reachable, rfl, rfl, hcell,
    cell_isEnvelope oneTarget_reachable rfl rfl hcell⟩

end Database

end IdmMw
