import IdmMw.Model.PostgresRole

/-!
# Roles are made and changed in one transaction

* `Session`: what has become of the statements of a run: those of open transactions, and those that
  persist. A transaction persists when its `COMMIT` succeeds, and a statement outside of any at once;
* `AllOrNothing`: a run that is rejected leaves nothing behind, its statements are sent to the client
  that holds the transaction, and the client is released once;
* `withTransaction_final`: whatever fails, and be it `BEGIN`, `COMMIT` or `ROLLBACK`;
* `createRole_allOrNothing`, `updateRole_allOrNothing`.
-/

namespace IdmMw

open Async

namespace PostgresRoleConnectorService

variable {js : Runtime} {config data params : Json}

/-! ### What persists -/

structure Session where
  /-- the statements of the transaction that a client has open -/
  pending : ℕ → Option (List PostgresStatement)
  persisted : List PostgresStatement
  /-- statements that were not sent to a client with an open transaction -/
  astray : List PostgresStatement
  acquired : List ℕ
  released : List ℕ

namespace Session

def start : Session := ⟨fun _ => none, [], [], [], []⟩

variable (s : Session)

/-- The client has a transaction open, with these statements. -/
def inside (client : ℕ) (statements : List PostgresStatement) : Session :=
  { s with pending := Function.update s.pending client (some statements) }

/-- The client has no transaction open. -/
def outside (client : ℕ) : Session :=
  { s with pending := Function.update s.pending client none }

/-- A statement that is none of the bracket: within a transaction, or at once, whether it is said to
succeed or not. -/
def sendPlain (client : Option ℕ) (statement : PostgresStatement) : Session :=
  match client with
  | none => { s with persisted := s.persisted ++ [statement], astray := s.astray ++ [statement] }
  | some client =>
    match s.pending client with
    | some statements => s.inside client (statements ++ [statement])
    | none => { s with persisted := s.persisted ++ [statement], astray := s.astray ++ [statement] }

def send (client : Option ℕ) (statement : PostgresStatement) (succeeded : Bool) : Session :=
  match client, statement with
  | some client, .begin => if succeeded then s.inside client [] else s
  | some client, .commit =>
    let s' := s.outside client
    if succeeded then { s' with persisted := s.persisted ++ (s.pending client).getD [] } else s'
  | some client, .rollback => if succeeded then s.outside client else s
  | client, statement => s.sendPlain client statement

def step (s : Session) (e : Async.Event PostgresAns) : Session :=
  match e with
  | ⟨.createPool _, _⟩ => s
  | ⟨.connect, .ok client⟩ => { s with acquired := s.acquired ++ [client] }
  | ⟨.connect, .error _⟩ => s
  | ⟨.query client statement, a⟩ => s.send client statement a.isOk
  | ⟨.release client, _⟩ => { s with released := s.released ++ [client] }
  | ⟨.endPool, _⟩ => s

/-- What has become of the statements of a run. -/
def of (t : List (Async.Event PostgresAns)) : Session := t.foldl step start

end Session

/-- A run is rejected without a trace or succeeds; no statement goes astray, and the client that was
acquired, if one was, is released, once. -/
def AllOrNothing {α : Type} (p : PostgresProg α) : Prop :=
  ∀ t x, p.Runs t x →
    ((∃ e, x = .error e) → (Session.of t).persisted = []) ∧ (Session.of t).astray = [] ∧
      (Session.of t).released = (Session.of t).acquired ∧ (Session.of t).acquired.length ≤ 1

/-! ### Within the transaction -/

section Within

variable {α β : Type} {client : ℕ}

/-- From a state with an open transaction of the client the program goes to one with an open
transaction, and changes nothing else. -/
def Within (client : ℕ) (p : PostgresProg α) : Prop :=
  ∀ (s : Session) statements, p.wp (.fold Session.step)
    (fun s' _ => ∃ statements', s' = s.inside client statements') (s.inside client statements)

theorem Session.pending_inside (s : Session) (client : ℕ) (statements : List PostgresStatement) :
    (s.inside client statements).pending client = some statements := by
  simp [Session.inside]

theorem Session.inside_inside (s : Session) (client : ℕ)
    (statements statements' : List PostgresStatement) :
    (s.inside client statements).inside client statements' = s.inside client statements' := by
  simp [Session.inside]

theorem Session.outside_inside (s : Session) (client : ℕ) (statements : List PostgresStatement) :
    (s.inside client statements).outside client = s.outside client := by
  simp [Session.inside, Session.outside]

theorem within_pure (a : α) : Within client (Pure.pure a : PostgresProg α) :=
  fun _ statements => ⟨statements, rfl⟩

theorem within_throw (e : JsError) : Within client (throw e : PostgresProg α) :=
  fun _ statements => ⟨statements, rfl⟩

theorem within_ofExcept (x : Except JsError α) : Within client (Async.ofExcept x) :=
  fun _ statements => ⟨statements, rfl⟩

theorem Within.bind {p : PostgresProg α} {f : α → PostgresProg β} (hp : Within client p)
    (hf : ∀ a, Within client (f a)) : Within client (p >>= f) := by
  intro s statements
  rw [wp_bind]
  refine wp_mono (hp s statements) ?_
  rintro s' x ⟨statements', rfl⟩
  cases x with
  | ok a => exact hf a s statements'
  | error e => exact ⟨statements', rfl⟩

/-- A statement that is none of the bracket. -/
def IsPlain : PostgresStatement → Prop
  | .begin | .commit | .rollback => False
  | _ => True

theorem Session.send_plain {s : Session} {statement : PostgresStatement} (h : IsPlain statement)
    (client : Option ℕ) (succeeded : Bool) :
    s.send client statement succeeded = s.sendPlain client statement := by
  unfold Session.send
  split
  · exact h.elim
  · exact h.elim
  · exact h.elim
  · rfl

theorem within_query {statement : PostgresStatement} (h : IsPlain statement) :
    Within client (query (some client) statement) := by
  refine fun s statements => ⟨trivial, ?_⟩
  rintro a _ rfl
  refine ⟨statements ++ [statement], ?_⟩
  show (s.inside client statements).send (some client) statement a.isOk = _
  rw [Session.send_plain h]
  simp [Session.sendPlain, Session.pending_inside, Session.inside_inside]

theorem within_exec {statement : PostgresStatement} (h : IsPlain statement) :
    Within client (exec (some client) statement) :=
  (within_query h).bind fun _ => within_pure ()

theorem within_forEach {step : α → PostgresProg Unit} (h : ∀ item, Within client (step item))
    (items : List α) : Within client (forEach step items) := by
  induction items with
  | nil => exact within_pure ()
  | cons item items ih => exact (h item).bind fun _ => ih

theorem within_database (config : Json) : Within client (database (some client) config) := by
  unfold database
  split
  · exact within_ofExcept _
  · have hplain : IsPlain .currentDatabase := trivial
    refine (within_query hplain).bind fun rows => ?_
    split
    · exact within_throw _
    · exact within_ofExcept _

theorem within_permissionScope (config : Json) (scope : String) :
    Within client (permissionScope (some client) config scope) := by
  unfold permissionScope
  split
  · exact (within_database config).bind fun _ => within_pure _
  · split
    · exact within_pure _
    · split
      · split
        · exact within_pure _
        · exact within_throw _
      · exact within_throw _

theorem within_grantAll (config : Json) (login : String) (roles : List String)
    (permissions : List NormalizedPostgresPermission) :
    Within client (grantAll client config login roles permissions) := by
  have hrole : ∀ role, IsPlain (.setMembership .grant role login) := fun _ => trivial
  have hpermission : ∀ action permission target,
      IsPlain (.applyPermission action permission target login) := fun _ _ _ => trivial
  refine (within_forEach (fun role => within_exec (hrole role)) roles).bind fun _ => ?_
  exact within_forEach (fun permission => (within_permissionScope config _).bind fun _ =>
    within_exec (hpermission _ _ _)) permissions

theorem within_setEnabled (login : String) (enabled : Option Bool) :
    Within client (setEnabled client login enabled) := by
  cases enabled with
  | none => exact within_pure ()
  | some enabled =>
    have hplain : IsPlain (.alterLogin login enabled) := trivial
    exact within_exec hplain

end Within

/-! ### The transaction -/

/-- How a run may end. -/
def Final {α : Type} (s : Session) (x : Except JsError α) : Prop :=
  ((∃ e, x = .error e) → s.persisted = []) ∧ s.astray = [] ∧ s.released = s.acquired ∧
    s.acquired.length ≤ 1

theorem allOrNothing_iff {α : Type} {p : PostgresProg α} :
    AllOrNothing p ↔ p.wp (.fold Session.step) Final .start := by
  show (∀ t x, p.Runs t x → Final (t.foldl Session.step .start) x) ↔ _
  exact wp_fold.symm

theorem final_start {α : Type} (x : Except JsError α) : Final .start x :=
  ⟨fun _ => rfl, rfl, rfl, Nat.zero_le 1⟩

/-- The client is acquired and has no transaction open, or one that is not committed. -/
def Session.Uncommitted (client : ℕ) (s : Session) : Prop :=
  s.persisted = [] ∧ s.astray = [] ∧ s.acquired = [client] ∧ s.released = []

theorem Session.Uncommitted.inside {client : ℕ} {s : Session} (h : s.Uncommitted client)
    (statements : List PostgresStatement) : (s.inside client statements).Uncommitted client := h

theorem Session.Uncommitted.outside {client : ℕ} {s : Session} (h : s.Uncommitted client) :
    (s.outside client).Uncommitted client := h

/-- The client is released. -/
theorem Session.Uncommitted.release {α : Type} {client : ℕ} {s : Session} (h : s.Uncommitted client)
    (x : Except JsError α) :
    (release client).wp (.fold Session.step) (fun s last => Final s (endResult x last)) s := by
  obtain ⟨hpersisted, hastray, hacquired, hreleased⟩ := h
  refine ⟨trivial, ?_⟩
  rintro a _ rfl
  refine ⟨fun _ => hpersisted, hastray, ?_, ?_⟩
  · show s.released ++ [client] = s.acquired
    rw [hreleased, hacquired]
    rfl
  · show s.acquired.length ≤ 1
    rw [hacquired]
    exact le_rfl

/-- After a failure the transaction is rolled back, or is left to be, and the client is released. -/
theorem Session.Uncommitted.rollback {α : Type} {client : ℕ} {s : Session}
    (h : s.Uncommitted client) (e : JsError) :
    (exec (some client) .rollback >>= fun _ => (throw e : PostgresProg α)).wp (.fold Session.step)
      (fun s x => (PostgresRoleConnectorService.release client).wp (.fold Session.step)
        (fun s last => Final s (endResult x last)) s) s := by
  refine ⟨trivial, ?_⟩
  rintro a _ rfl
  cases a with
  | ok rows => exact h.outside.release _
  | error e' => exact h.release _

/-- Whatever fails, and be it a statement of the bracket. -/
theorem withTransaction_final {α : Type} {work : ℕ → PostgresProg α}
    (hwork : ∀ client, Within client (work client)) :
    (withTransaction work).wp (.fold Session.step) Final .start := by
  unfold withTransaction
  refine ⟨trivial, ?_⟩
  rintro a _ rfl
  cases a with
  | error e => exact final_start _
  | ok client =>
    let s : Session := { Session.start with acquired := [client] }
    have hs : s.Uncommitted client := ⟨rfl, rfl, rfl, rfl⟩
    show (ensuring _ (release client)).wp _ _ s
    rw [wp_ensuring, wp_tryCatch, wp_bind]
    refine ⟨trivial, ?_⟩
    rintro begun _ rfl
    cases begun with
    | error e => exact hs.rollback e
    | ok rows =>
      -- the transaction is open
      show (work client >>= _).wp _ _ (s.inside client [])
      rw [wp_bind]
      refine wp_mono (hwork client s []) ?_
      rintro s' x ⟨statements, rfl⟩
      have hinside := hs.inside statements
      cases x with
      | error e => exact hinside.rollback e
      | ok result =>
        refine ⟨trivial, ?_⟩
        rintro committed _ rfl
        cases committed with
        | error e => exact hinside.outside.rollback e
        | ok rows =>
          -- it is committed, and nothing fails any more
          refine ⟨trivial, ?_⟩
          rintro u _ rfl
          exact ⟨fun ⟨_, h⟩ => (nomatch h), rfl, rfl, le_rfl⟩

/-! ### The operations -/

theorem AllOrNothing.check {α β : Type} {x : Except JsError α} {f : α → PostgresProg β}
    (h : ∀ a, AllOrNothing (f a)) : AllOrNothing (Async.ofExcept x >>= f) := by
  cases x with
  | error e => exact allOrNothing_iff.2 (final_start _)
  | ok a => exact h a

theorem allOrNothing_transaction {α β : Type} {work : ℕ → PostgresProg α} {f : α → β}
    (hwork : ∀ client, Within client (work client)) :
    AllOrNothing (withTransaction work >>= fun a => (Pure.pure (f a) : PostgresProg β)) := by
  rw [allOrNothing_iff, wp_bind]
  refine wp_mono (withTransaction_final hwork) ?_
  rintro s x ⟨hpersisted, hastray, hreleased, hacquired⟩
  cases x with
  | ok a => exact ⟨fun ⟨_, h⟩ => (nomatch h), hastray, hreleased, hacquired⟩
  | error e => exact ⟨fun _ => hpersisted ⟨e, rfl⟩, hastray, hreleased, hacquired⟩

theorem createRole_allOrNothing (js : Runtime) (config data : Json) :
    AllOrNothing (createRole js config data) := by
  have hplain : ∀ login canLogin password, IsPlain (.createRole login canLogin password) :=
    fun _ _ _ => trivial
  exact .check fun login => .check fun password => .check fun roles => .check fun permissions =>
    allOrNothing_transaction fun client => (within_exec (hplain _ _ _)).bind fun _ =>
      within_grantAll config login roles permissions

theorem updateRole_allOrNothing (js : Runtime) (config data params : Json) :
    AllOrNothing (updateRole js config data params) :=
  .check fun login => .check fun roles => .check fun permissions =>
    allOrNothing_transaction fun _ => (within_setEnabled login _).bind fun _ =>
      within_grantAll config login roles permissions

/-- A role is made with all its memberships and privileges or not at all, and the same holds of what
is changed of one. -/
theorem createRole_updateRole_allOrNothing (js : Runtime) (config data params : Json) :
    AllOrNothing (createRole js config data) ∧ AllOrNothing (updateRole js config data params) :=
  ⟨createRole_allOrNothing js config data, updateRole_allOrNothing js config data params⟩

end PostgresRoleConnectorService

end IdmMw
