import IdmMw.Pipeline.Traces

/-!
# What becomes of a retried item

`processRetry` executes the event of an item and then records the outcome: `resolve` after a success,
`markRetryFailed` after a failure. Both end with a refresh of the metrics.

* `updateStatus_runs`: one update, then the refresh;
* `processRetry_runs`: the three ways a retry may go;
* `keepsSuccess_iff`: a success whose bookkeeping fails is recorded as a failure, which makes the item
  eligible for another retry.
-/

namespace IdmMw

open Async

/-! ### Runs -/

/-- The update that `skip`, `resolve` and `markRetryFailed` make. -/
def statusUpdate (status : DlqStatus) (error : Option String) : DlqItemUpdate where
  status := status
  error := error
  lockedAt := none
  lockedBy := none

variable {app : App} {dto : ProcessingPayload} {id : String} {t : Trace}

theorem updateStatus_runs {status : DlqStatus} {error : Option String} {x : Except JsError Unit}
    (h : (DlqService.updateStatus id status error).Runs t x) :
    (∃ e, t = [⟨.dlqItemUpdate id (statusUpdate status error), .error e⟩] ∧ x = .error e) ∨
      ∃ u, t = ⟨.dlqItemUpdate id (statusUpdate status error), .ok ()⟩ :: u ∧
        DlqService.updateMetrics.Runs u x := by
  rcases runs_bind.1 h with ⟨e, rfl, h'⟩ | ⟨u, t₁, t₂, rfl, h₁, h₂⟩
  · obtain ⟨answer, rfl, rfl⟩ := runs_request.1 h'
    exact Or.inl ⟨e, rfl, rfl⟩
  · obtain ⟨answer, rfl, rfl⟩ := runs_request.1 h₁
    exact Or.inr ⟨t₂, rfl, h₂⟩

/-- How a settled `processRetry` may have gone, by its trace. -/
inductive RetryRun (app : App) (dto : ProcessingPayload) (id : String) :
    Trace → Except JsError Unit → Prop
  /-- the connector succeeded, and the item is resolved -/
  | resolved {t₁ t₂ result}
      (hexec : (ProcessingService.executeWithRetry app dto).Runs t₁ (.ok result))
      (hresolve : (DlqService.resolve id).Runs t₂ (.ok ())) :
      RetryRun app dto id (t₁ ++ ⟨.recordEvent .success dto.targetSystem, ()⟩ :: t₂) (.ok ())
  /-- the connector succeeded, but resolving the item failed -/
  | unresolved {t₁ t₂ t₃ result error y e}
      (hexec : (ProcessingService.executeWithRetry app dto).Runs t₁ (.ok result))
      (hresolve : (DlqService.resolve id).Runs t₂ (.error error))
      (hmark : (DlqService.markRetryFailed id error.message).Runs t₃ y) :
      RetryRun app dto id (t₁ ++ ⟨.recordEvent .success dto.targetSystem, ()⟩ ::
        (t₂ ++ ⟨.recordEvent .failed dto.targetSystem, ()⟩ :: t₃)) (.error e)
  /-- the connector did not succeed -/
  | failed {t₁ t₂ error y e}
      (hexec : (ProcessingService.executeWithRetry app dto).Runs t₁ (.error error))
      (hmark : (DlqService.markRetryFailed id error.message).Runs t₂ y) :
      RetryRun app dto id (t₁ ++ ⟨.recordEvent .failed dto.targetSystem, ()⟩ :: t₂) (.error e)

/-- A counter of the process does not fail. -/
theorem recordEvent_runs {status : EventStatus} {name : String} {x : Except JsError Unit}
    (h : (recordEvent status name).Runs t x) : t = [⟨.recordEvent status name, ()⟩] ∧ x = .ok () := by
  obtain ⟨answer, rfl, rfl⟩ := runs_request.1 h
  exact ⟨rfl, rfl⟩

theorem processRetry_runs {x : Except JsError Unit}
    (h : (ProcessingService.processRetry app dto id).Runs t x) : RetryRun app dto id t x := by
  -- the handler always ends in an error
  have hhandler : ∀ {error u z}, (do
      recordEvent .failed dto.targetSystem
      DlqService.markRetryFailed id error.message
      throw error : Prog Unit).Runs u z → ∃ w y e,
        u = ⟨.recordEvent .failed dto.targetSystem, ()⟩ :: w ∧
          (DlqService.markRetryFailed id error.message).Runs w y ∧ z = .error e := by
    intro error u z hr
    rcases runs_bind.1 hr with ⟨e, rfl, h'⟩ | ⟨v, u₁, u₂, rfl, h₁, h₂⟩
    · cases (recordEvent_runs h').2
    obtain ⟨rfl, -⟩ := recordEvent_runs h₁
    rcases runs_bind.1 h₂ with ⟨e, rfl, h'⟩ | ⟨v', u₃, u₄, rfl, h₃, rfl, rfl⟩
    · exact ⟨u₂, _, e, rfl, h', rfl⟩
    · exact ⟨u₃, _, error, by simp, h₃, rfl⟩
  rcases runs_tryCatch.1 h with ⟨u, rfl, h'⟩ | ⟨error, t₁, t₂, rfl, h₁, h₂⟩
  · rcases runs_bind.1 h' with ⟨_, hx, -⟩ | ⟨result, t₁, t₂, rfl, h₁, h₂⟩
    · cases hx
    rcases runs_bind.1 h₂ with ⟨_, hx, -⟩ | ⟨v, t₃, t₄, rfl, h₃, h₄⟩
    · cases hx
    obtain ⟨rfl, -⟩ := recordEvent_runs h₃
    exact .resolved h₁ h₄
  obtain ⟨w, y, e, rfl, hmark, rfl⟩ := hhandler h₂
  rcases runs_bind.1 h₁ with ⟨_, hx, h'⟩ | ⟨result, t₃, t₄, rfl, h₃, h₄⟩
  · cases hx
    exact .failed h' hmark
  rcases runs_bind.1 h₄ with ⟨_, -, h'⟩ | ⟨v, t₅, t₆, rfl, h₅, h₆⟩
  · cases (recordEvent_runs h').2
  obtain ⟨rfl, -⟩ := recordEvent_runs h₅
  rw [List.append_assoc, List.append_assoc]
  exact .unresolved h₃ h₆ hmark

theorem processRetry_footprint (app : App) (dto : ProcessingPayload) (id : String) :
    Footprint (ProcessingService.processRetry app dto id)
      [.registry, .targets, .connector, .process, .metrics, .dlqUpdate, .dlqCount] := by
  refine Footprint.tryCatch ?_ fun error => ?_
  · refine ((executeWithRetry_footprint app dto).mono (by decide)).bind fun result => ?_
    exact Footprint.bind (footprint_request (by simp [Req.area])) fun _ =>
      (updateStatus_footprint _ _ _).mono (by decide)
  · refine Footprint.bind (footprint_request (by simp [Req.area])) fun _ => ?_
    exact ((updateStatus_footprint _ _ _).mono (by decide)).bind fun _ => footprint_throw

/-! ### A success is not undone -/

/-- The item is put back to `pending`. -/
def PutBack (id : String) : Ev → Prop
  | ⟨.dlqItemUpdate id' data, .ok _⟩ => id' = id ∧ data.status = .pending
  | _ => False

/-- The update of the item to the status fails. -/
def UpdateFailed (status : DlqStatus) : Ev → Prop
  | ⟨.dlqItemUpdate _ data, .error _⟩ => data.status = status
  | _ => False

/-- A retry whose connector succeeded does not put the item back. -/
def KeepsSuccess (dto : ProcessingPayload) (id : String) (t : Trace) : Prop :=
  Saw (Executed dto) t → ¬ Saw (PutBack id) t

/-- Neither the update to `resolved` nor the refresh after it fails, or else the update that would
put the item back fails too. -/
def Bookkept (t : Trace) : Prop :=
  (¬ Saw (UpdateFailed .resolved) t ∧ ∀ e, t.findSome? counted? ≠ some (.error e)) ∨
    Saw (UpdateFailed .pending) t

theorem PutBack.area {v : Ev} (h : PutBack id v) : v.req.area = .dlqUpdate := by
  unfold PutBack at h
  split at h <;> first | rfl | exact h.elim

theorem UpdateFailed.area {status : DlqStatus} {v : Ev} (h : UpdateFailed status v) :
    v.req.area = .dlqUpdate := by
  unfold UpdateFailed at h
  split at h <;> first | rfl | exact h.elim

/-- What the update of a status shows: it fails, or the refresh decides how it settles. -/
theorem updateStatus_recorded {status : DlqStatus} {error : Option String} {x : Except JsError Unit}
    (h : (DlqService.updateStatus id status error).Runs t x) :
    ((∀ s, Saw (UpdateFailed s) t ↔ s = status) ∧ ¬ Saw (PutBack id) t ∧
        t.findSome? counted? = none ∧ x ≠ .ok ()) ∨
      (∀ s, ¬ Saw (UpdateFailed s) t) ∧ (Saw (PutBack id) t ↔ status = .pending) ∧
        ((x = .ok () ∧ ∃ counts, t.findSome? counted? = some (.ok counts)) ∨
          ∃ e, x = .error e ∧ t.findSome? counted? = some (.error e)) := by
  rcases updateStatus_runs h with ⟨e, rfl, rfl⟩ | ⟨u, rfl, hrefresh⟩
  · refine Or.inl ⟨fun s => ?_, ?_, rfl, by simp⟩
    · simp [UpdateFailed, statusUpdate, eq_comm]
    · simp [PutBack]
  have hfail : ∀ s, ¬ Saw (UpdateFailed s) u := fun s =>
    updateMetrics_footprint.not_saw hrefresh fun v hv => by rw [hv.area]; decide
  have hput : ¬ Saw (PutBack id) u :=
    updateMetrics_footprint.not_saw hrefresh fun v hv => by rw [hv.area]; decide
  refine Or.inr ⟨fun s => ?_, ?_, ?_⟩
  · simp [UpdateFailed, hfail]
  · simp [PutBack, statusUpdate, hput]
  · rcases refresh_runs hrefresh with ⟨e, rfl, rfl⟩ | ⟨counts, w, rfl, rfl, -⟩
    · exact Or.inr ⟨e, rfl, rfl⟩
    · exact Or.inl ⟨rfl, counts, rfl⟩

/-- A success of the connector stays recorded exactly if, when it happened, the bookkeeping after it
did not fail. -/
theorem keepsSuccess_iff {x : Except JsError Unit}
    (h : (ProcessingService.processRetry app dto id).Runs t x) :
    KeepsSuccess dto id t ↔ (Saw (Executed dto) t → Bookkept t) := by
  refine imp_congr_right fun hexec => ?_
  have hfoot := executeWithRetry_footprint app dto
  have hquiet : ∀ {u result}, (ProcessingService.executeWithRetry app dto).Runs u (.ok result) →
      ¬ Saw (PutBack id) u ∧ (∀ status, ¬ Saw (UpdateFailed status) u) ∧
        u.findSome? counted? = none := by
    intro u result hr
    refine ⟨hfoot.not_saw hr fun v hv => by rw [hv.area]; decide,
      fun status => hfoot.not_saw hr fun v hv => by rw [hv.area]; decide,
      hfoot.findSome?_eq_none hr fun v hv => ?_⟩
    unfold counted? at hv
    split at hv
    · simp [Req.area]
    · exact absurd rfl hv
  cases processRetry_runs h with
  | failed hfailed hmark =>
    -- then the connector has not succeeded
    have hnot : ¬ Saw (Executed dto) _ := fun hsaw => by
      obtain ⟨_, hx⟩ := (executeWithRetry_runs hfailed).saw_executed.1 hsaw
      cases hx
    have hnot' := (updateStatus_footprint id .pending _).not_saw (P := Executed dto) hmark
      fun v hv => by rw [hv.area]; decide
    simp [Executed, hnot, hnot'] at hexec
  | resolved hsuccess hresolve =>
    obtain ⟨hput, hfail, hcount⟩ := hquiet hsuccess
    rcases updateStatus_recorded hresolve with
      ⟨-, -, -, hx⟩ | ⟨hfail₂, hput₂, ⟨-, counts, hcount₂⟩ | ⟨e, hx, -⟩⟩
    · exact absurd rfl hx
    · have hnot : ¬ Saw (PutBack id) _ := hput₂.not.2 (by simp)
      refine iff_of_true (by simp [hput, hnot, PutBack]) (Or.inl ⟨?_, ?_⟩)
      · simp [hfail, hfail₂, UpdateFailed]
      · simp [List.findSome?_append, hcount, List.findSome?_cons, counted?_recordEvent, hcount₂]
    · cases hx
  | @unresolved t₁ t₂ t₃ _ _ _ _ hsuccess hresolve hmark =>
    obtain ⟨hput, hfail, hcount⟩ := hquiet hsuccess
    have hresolved : ¬ Saw (PutBack id) t₂ ∧ ¬ Saw (UpdateFailed .pending) t₂ ∧
        (Saw (UpdateFailed .resolved) t₂ ∨ ∃ e, t₂.findSome? counted? = some (.error e)) := by
      rcases updateStatus_recorded hresolve with
        ⟨hfail₂, hput₂, -, -⟩ | ⟨hfail₂, hput₂, ⟨hx, -⟩ | ⟨e, -, hcount₂⟩⟩
      · exact ⟨hput₂, (hfail₂ _).not.2 (by simp), Or.inl ((hfail₂ _).2 rfl)⟩
      · cases hx
      · exact ⟨hput₂.not.2 (by simp), hfail₂ _, Or.inr ⟨e, hcount₂⟩⟩
    obtain ⟨hput₂, hfail₂, hfailed⟩ := hresolved
    unfold Bookkept
    rw [or_iff_right]
    · -- only the update that puts the item back is left to decide
      have hmarked : ¬ Saw (PutBack id) t₃ ↔ Saw (UpdateFailed .pending) t₃ := by
        rcases updateStatus_recorded hmark with ⟨hfail₃, hput₃, -, -⟩ | ⟨hfail₃, hput₃, -⟩
        · exact iff_of_true hput₃ ((hfail₃ _).2 rfl)
        · exact iff_of_false (not_not.2 (hput₃.2 rfl)) (hfail₃ _)
      simpa [hput, hput₂, hfail, hfail₂, PutBack, UpdateFailed] using hmarked
    · rintro ⟨hnone, hcounted⟩
      rcases hfailed with hsaw | ⟨e, he⟩
      · simp [hsaw] at hnone
      · exact hcounted e (by simp [List.findSome?_append, hcount, List.findSome?_cons, he])

/-- A retry that succeeds and resolves its item. -/
theorem keepsSuccess_resolved : ∃ t,
    (ProcessingService.processRetry App.bare someEvent "item-1").Runs t (.ok ()) ∧
      Saw (Executed someEvent) t ∧
      (KeepsSuccess someEvent "item-1" t ↔ (Saw (Executed someEvent) t → Bookkept t)) := by
  have hrun : ∃ t, (ProcessingService.processRetry App.bare someEvent "item-1").Runs t (.ok ()) ∧
      Saw (Executed someEvent) t :=
    ⟨_, ⟨some ⟨false, false⟩, _, rfl, .ok none, _, rfl, .ok ⟨true, none, none⟩, _, rfl, (), _, rfl,
      .ok (), _, rfl, .ok [], _, rfl, (), _, rfl, (), _, rfl, (), _, rfl, (), _, rfl, rfl, rfl⟩,
      by simp [Executed, someEvent]⟩
  obtain ⟨t, h, hexec⟩ := hrun
  exact ⟨t, h, hexec, keepsSuccess_iff h⟩

/-- The refresh after the item was resolved fails, and the item is put back. -/
theorem not_keepsSuccess : ∃ t x,
    (ProcessingService.processRetry App.bare someEvent "item-1").Runs t x ∧
      ¬ KeepsSuccess someEvent "item-1" t := by
  refine ⟨_, _, ⟨some ⟨false, false⟩, _, rfl, .ok none, _, rfl, .ok ⟨true, none, none⟩, _, rfl,
    (), _, rfl, .ok (), _, rfl, .error (.error "timeout"), _, rfl, (), _, rfl, .ok (), _, rfl,
    .ok [], _, rfl, (), _, rfl, (), _, rfl, (), _, rfl, (), _, rfl, rfl, rfl⟩, fun hkeeps => ?_⟩
  exact hkeeps (by simp [Executed, someEvent]) (by simp [PutBack])

end IdmMw
