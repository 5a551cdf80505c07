import IdmMw.Library.Split
import IdmMw.Library.UniqueRows
import IdmMw.Model.Audit

/-!
# The rows of the audit

* `Recorded`: what a request does behind its handler; `intercept_runs`, `intercept_recorded`: every
  request ends so, with what the handler ends with;
* `insertion`, `finishedAt`: the row that a request writes, and the time of its key;
* `rowKey_inj`: a key has one event and one time;
* `Handled`: requests that are handled at the same time, over a table whose keys are unique;
* `complete_iff`: each leaves its row exactly if no two of one event finish in one millisecond.
-/

namespace IdmMw

open Async UniqueRows

namespace AuditInterceptor

variable {app : App} {request : WebhookRequest} {t : List (Event AuditAns)}

/-! ### One request -/

theorem field_eventId : field request "eventId" = request.dto.eventId := by
  unfold field
  rw [request.eventId_eq]
  rfl

/-- A column is made of a value, with or without what is drawn for its encryption. -/
theorem toJson_eq (app : App) (value : Json) :
    (∃ column, JsonHelper.toJson app value = .settle (.ok column)) ∨
      ∃ column : String → Column, JsonHelper.toJson app value =
        (.await .randomBytes fun iv : String => .settle (.ok (column iv)) : Prog Column) := by
  unfold JsonHelper.toJson EncryptionService.encryptForStorage
  split
  · next henabled =>
    obtain ⟨keyId, key, hkeyId, hkey⟩ := app.encryption_valid henabled
    right
    unfold EncryptionService.encryptObject
    rw [hkeyId]
    show ∃ column : String → Column, ((Async.ofExcept (app.encryption.requireKey keyId) >>= _) >>= _) =
      (.await .randomBytes fun iv : String => .settle (.ok (column iv)) : Prog Column)
    rw [hkey]
    exact ⟨_, rfl⟩
  · exact Or.inl ⟨_, rfl⟩

theorem toJson_runs {value : Json} {x : Except JsError Column}
    (h : (AuditProg.ofApp (JsonHelper.toJson app value)).Runs t x) :
    (∃ column, x = .ok column) ∧ ∀ e ∈ t, e.req = .app .randomBytes := by
  rcases toJson_eq app value with ⟨column, hcolumn⟩ | ⟨column, hcolumn⟩
  · rw [hcolumn] at h
    obtain ⟨rfl, rfl⟩ := h
    exact ⟨⟨column, rfl⟩, fun e he => absurd he List.not_mem_nil⟩
  · rw [hcolumn] at h
    obtain ⟨iv, t', rfl, rfl, rfl⟩ := h
    refine ⟨⟨column iv, rfl⟩, fun e he => ?_⟩
    obtain rfl := List.mem_singleton.1 he
    rfl

/-- The clock is read, and a row is written whose key is of the event and the time. -/
def Recorded (request : WebhookRequest) (t : List (Event AuditAns)) : Prop :=
  ∃ date rest data answer,
    t = ⟨.app .now, date⟩ :: (rest ++ [⟨.auditLogCreate data, answer⟩]) ∧
    data.eventId = rowKey request.dto.eventId date ∧ ∀ e ∈ rest, e.req = .app .randomBytes

theorem create_recorded {date : Time} {rest : List (Event AuditAns)} {payload : Column}
    {response : Option Column} {status : String} {errorMessage : Option String}
    {x : Except JsError Unit} (hrest : ∀ e ∈ rest, e.req = .app .randomBytes)
    (h : (create (row request date payload response status errorMessage)).Runs t x) :
    Recorded request (⟨.app .now, date⟩ :: (rest ++ t)) ∧ x = .ok () := by
  obtain ⟨answer, rfl, rfl⟩ := runs_request.1 h
  refine ⟨⟨date, rest, _, answer, rfl, ?_, hrest⟩, rfl⟩
  show rowKey (field request "eventId") date = _
  rw [field_eventId]

theorem recordError_recorded {error : JsError} {x : Except JsError Unit}
    (h : (recordError app request error).Runs t x) : Recorded request t ∧ x = .ok () := by
  obtain ⟨date, t', rfl, h⟩ := h
  rcases runs_bind.1 h with ⟨e, rfl, hfailed⟩ | ⟨payload, t₁, t₂, rfl, hpayload, hcreate⟩
  · obtain ⟨⟨column, hcolumn⟩, -⟩ := toJson_runs hfailed
    cases hcolumn
  · exact create_recorded (toJson_runs hpayload).2 hcreate

theorem recordSuccess_recorded {result : ProcessResult} {x : Except JsError Unit}
    (h : (recordSuccess app request result).Runs t x) : Recorded request t ∧ x = .ok () := by
  obtain ⟨date, t', rfl, h⟩ := h
  rcases runs_bind.1 h with ⟨e, rfl, hfailed⟩ | ⟨payload, t₁, t₂, rfl, hpayload, h⟩
  · obtain ⟨⟨column, hcolumn⟩, -⟩ := toJson_runs hfailed
    cases hcolumn
  · rcases runs_bind.1 h with ⟨e, rfl, hfailed⟩ | ⟨response, t₃, t₄, rfl, hresponse, hcreate⟩
    · obtain ⟨⟨column, hcolumn⟩, -⟩ := toJson_runs hfailed
      cases hcolumn
    · rw [← List.append_assoc]
      refine create_recorded (fun e he => ?_) hcreate
      rcases List.mem_append.1 he with he | he
      · exact (toJson_runs hpayload).2 e he
      · exact (toJson_runs hresponse).2 e he

/-- What is done behind the handler. -/
def record (app : App) (request : WebhookRequest) : Except JsError ProcessResult → AuditProg Unit
  | .ok result => recordSuccess app request result
  | .error error => recordError app request error

theorem record_recorded {x : Except JsError ProcessResult} {y : Except JsError Unit}
    (h : (record app request x).Runs t y) : Recorded request t ∧ y = .ok () := by
  cases x with
  | error e => exact recordError_recorded h
  | ok result => exact recordSuccess_recorded h

/-- The client gets what the handler ends with, and a row is written for it. -/
theorem intercept_runs {x : Except JsError ProcessResult} (h : (intercept app request).Runs t x) :
    ∃ t₁ t₂, t = t₁ ++ t₂ ∧
      (AuditProg.ofApp (WebhookController.receiveWebhook app request.dto)).Runs t₁ x ∧
      (record app request x).Runs t₂ (.ok ()) := by
  have hsuccess : ∀ {result : ProcessResult} {t : List (Event AuditAns)}
      {y : Except JsError ProcessResult},
      ((recordSuccess app request result >>= fun _ => Pure.pure result) :
        AuditProg ProcessResult).Runs t y →
      y = .ok result ∧ (record app request (.ok result)).Runs t (.ok ()) := by
    intro result t y h
    rcases runs_bind.1 h with ⟨e, rfl, hfailed⟩ | ⟨⟨⟩, t₁, t₂, rfl, hrecord, rfl, rfl⟩
    · cases (recordSuccess_recorded hfailed).2
    · rw [List.append_nil]
      exact ⟨rfl, hrecord⟩
  rcases runs_tryCatch.1 h with ⟨result, rfl, hok⟩ | ⟨e, t₁, t₂, rfl, hfailed, hcatch⟩
  · obtain ⟨result', t₁, t₂, rfl, hhandler, hrest⟩ := runs_bind_ok.1 hok
    obtain ⟨heq, hrecord⟩ := hsuccess hrest
    obtain rfl := Except.ok.inj heq
    exact ⟨t₁, t₂, rfl, hhandler, hrecord⟩
  · have hhandler : (AuditProg.ofApp (WebhookController.receiveWebhook app request.dto)).Runs t₁
        (.error e) := by
      rcases runs_bind.1 hfailed with ⟨e', he, hhandler⟩ | ⟨result, t₃, t₄, rfl, -, hrest⟩
      · obtain rfl := Except.error.inj he
        exact hhandler
      · cases (hsuccess hrest).1
    rcases runs_bind.1 hcatch with ⟨e', rfl, hrecord⟩ | ⟨⟨⟩, t₃, t₄, rfl, hrecord, rfl, rfl⟩
    · cases (recordError_recorded hrecord).2
    · rw [List.append_nil]
      exact ⟨t₁, t₃, rfl, hhandler, hrecord⟩

/-- Behind the requests of the handler a row is written, whatever the handler ends with. -/
theorem intercept_recorded {x : Except JsError ProcessResult}
    (h : (intercept app request).Runs t x) :
    ∃ t₁ t₂, t = t₁ ++ t₂ ∧ (∀ e ∈ t₁, ∃ r, e.req = .app r) ∧ Recorded request t₂ := by
  obtain ⟨t₁, t₂, rfl, hhandler, hrecord⟩ := intercept_runs h
  have hissues : (AuditProg.ofApp (WebhookController.receiveWebhook app request.dto)).Issues
      fun r => ∃ r', r = .app r' := issues_embed fun r => ⟨r, rfl⟩
  exact ⟨t₁, t₂, rfl, hissues.of_runs hhandler, (record_recorded hrecord).1⟩

/-! ### Keys -/

/-- The key of a row that is inserted, and whether it is accepted. -/
def insertion : Event AuditAns → Option (String × Bool)
  | ⟨.auditLogCreate data, answer⟩ => some (data.eventId, answer.isOk)
  | ⟨.app _, _⟩ => none

def clock : Event AuditAns → Option Time
  | ⟨.app .now, date⟩ => some date
  | _ => none

/-- The last time that is read. -/
def finishedAt (t : List (Event AuditAns)) : Option Time := (t.filterMap clock).getLast?

/-- A request inserts one row. -/
theorem insertion_of_runs {x : Except JsError ProcessResult} (h : (intercept app request).Runs t x) :
    ∃ date accepted, finishedAt t = some date ∧ ⟨.app .now, date⟩ ∈ t ∧
      t.filterMap insertion = [(rowKey request.dto.eventId date, accepted)] := by
  obtain ⟨t₁, t₂, rfl, happ, date, rest, data, answer, rfl, hkey, hrest⟩ := intercept_recorded h
  refine ⟨date, answer.isOk, ?_, List.mem_append_right _ List.mem_cons_self, ?_⟩
  · have hnone : rest.filterMap clock = [] := by
      refine List.filterMap_eq_nil_iff.2 fun e he => ?_
      obtain ⟨r, answer⟩ := e
      obtain rfl : r = .app .randomBytes := hrest _ he
      rfl
    unfold finishedAt
    rw [List.filterMap_append, List.filterMap_cons_some (rfl : clock ⟨.app .now, date⟩ = some date),
      List.filterMap_append, hnone]
    exact List.getLast?_concat
  · have hnone₁ : t₁.filterMap insertion = [] := by
      refine List.filterMap_eq_nil_iff.2 fun e he => ?_
      obtain ⟨r, answer⟩ := e
      obtain ⟨r', rfl⟩ := happ _ he
      rfl
    have hnone : rest.filterMap insertion = [] := by
      refine List.filterMap_eq_nil_iff.2 fun e he => ?_
      obtain ⟨r, answer⟩ := e
      obtain rfl : r = .app .randomBytes := hrest _ he
      rfl
    rw [List.filterMap_append, hnone₁, List.nil_append,
      List.filterMap_cons_none (rfl : insertion ⟨.app .now, date⟩ = none), List.filterMap_append,
      hnone, List.nil_append, ← hkey]
    rfl

/-- After 1970 a key has one event and one time. -/
theorem rowKey_inj {eventId eventId' : String} {date date' : Time} (hdate : 0 ≤ date)
    (hdate' : 0 ≤ date') (h : rowKey eventId date = rowKey eventId' date') :
    eventId = eventId' ∧ date = date' := by
  obtain ⟨n, rfl⟩ := Int.eq_ofNat_of_zero_le hdate
  obtain ⟨n', rfl⟩ := Int.eq_ofNat_of_zero_le hdate'
  have hdigits : ∀ n : ℕ, '-' ∉ n.repr.toList.reverse := by
    intro n hmem
    rw [List.mem_reverse, Nat.toList_repr] at hmem
    exact absurd (Nat.isDigit_of_mem_toDigits (by decide) (by decide) hmem) (by decide)
  have htext : ∀ (eventId : String) (n : ℕ), (rowKey eventId (n : ℤ)).toList.reverse =
      n.repr.toList.reverse ++ '-' :: eventId.toList.reverse := by
    intro eventId n
    show (eventId ++ "-" ++ n.repr).toList.reverse = _
    rw [String.toList_append, String.toList_append, List.reverse_append, List.reverse_append]
    rfl
  have hlists := congrArg (fun text => text.toList.reverse) h
  rw [htext, htext] at hlists
  obtain ⟨hn, hid⟩ := List.append_sep_inj (hdigits n) (hdigits n') hlists
  refine ⟨String.toList_inj.1 (List.reverse_injective hid), ?_⟩
  have hn := List.reverse_injective hn
  rw [Nat.toList_repr, Nat.toList_repr] at hn
  rw [← @Nat.ofDigitChars_ten_toDigits n, hn, Nat.ofDigitChars_ten_toDigits]

/-! ### Requests at the same time -/

section Requests

variable {ι : Type} [DecidableEq ι] {requests : ι → WebhookRequest} {rows rows' : Set String}
  {log : List (ι × Event AuditAns)}

/-- Requests that are all handled, in any order of their calls, over a table with the keys `rows`. -/
structure Handled (app : App) (requests : ι → WebhookRequest) (rows : Set String)
    (log : List (ι × Event AuditAns)) (rows' : Set String) : Prop where
  runs : ∀ i, ∃ x, (intercept app (requests i)).Runs (own i log) x
  serves : Inserts insertion rows log rows'
  clock : ∀ i date, (i, ⟨.app .now, date⟩) ∈ log → 0 ≤ date

/-- The request leaves exactly one row. -/
def LeavesOne (log : List (ι × Event AuditAns)) (i : ι) : Prop :=
  ((own i log).filterMap insertion).countP (·.2) = 1

/-- No two requests for one event finish in one millisecond, and none has the key of a row that was
there. -/
def Apart (requests : ι → WebhookRequest) (rows : Set String) (log : List (ι × Event AuditAns)) :
    Prop :=
  (∀ i j date, finishedAt (own i log) = some date → finishedAt (own j log) = some date →
    (requests i).dto.eventId = (requests j).dto.eventId → i = j) ∧
  ∀ i date, finishedAt (own i log) = some date → rowKey (requests i).dto.eventId date ∉ rows

/-- Each request leaves exactly one row, unless two for one event finish in one millisecond. -/
theorem complete_iff (h : Handled app requests rows log rows') :
    (∀ i, LeavesOne log i) ↔ Apart requests rows log := by
  have hinsertion : ∀ i, ∃ date accepted, finishedAt (own i log) = some date ∧ 0 ≤ date ∧
      (own i log).filterMap insertion = [(rowKey (requests i).dto.eventId date, accepted)] := by
    intro i
    obtain ⟨x, hruns⟩ := h.runs i
    obtain ⟨date, accepted, hfinished, hclock, hinsertion⟩ := insertion_of_runs hruns
    exact ⟨date, accepted, hfinished, h.clock i date (mem_own.1 hclock), hinsertion⟩
  choose date accepted hfinished hdate hinsertion using hinsertion
  have hone : ∀ i, LeavesOne log i ↔
      (own i log).filterMap insertion = [(rowKey (requests i).dto.eventId (date i), true)] := by
    intro i
    unfold LeavesOne
    rw [hinsertion i, List.countP_singleton]
    cases accepted i <;> simp
  rw [forall_congr' hone, accepted_iff h.serves fun i => ⟨accepted i, hinsertion i⟩]
  refine and_congr ⟨fun hinj i j d hi hj hid => ?_, fun happart i j hij => ?_⟩ ?_
  · obtain rfl := Option.some.inj ((hfinished i).symm.trans hi)
    have hsame := Option.some.inj ((hfinished j).symm.trans hj)
    refine hinj ?_
    dsimp only
    rw [hid, hsame]
  · obtain ⟨hid, hsame⟩ := rowKey_inj (hdate i) (hdate j) hij
    exact happart i j (date i) (hfinished i) ((hfinished j).trans (congrArg some hsame.symm)) hid
  · refine forall_congr' fun i => ⟨fun hnew d hd => ?_, fun hnew => hnew _ (hfinished i)⟩
    obtain rfl := Option.some.inj ((hfinished i).symm.trans hd)
    exact hnew

end Requests

/-! ### One event twice -/

section Twice

/-- A request for an event. -/
def someRequest : WebhookRequest where
  method := "POST"
  url := "/webhooks/avanpost"
  body := .obj [("eventId", .str "event-1"), ("operation", .str "user.create"),
    ("targetSystem", .str "target"), ("payload", .obj [])]
  dto := someEvent
  eventId_eq := rfl
  operation_eq := rfl
  targetSystem_eq := rfl
  payload_eq := rfl
  valid := by decide

/-- The lock of the event cannot be taken. -/
def lockCall : Event AuditAns :=
  ⟨.app (.redisSet "avanpost:target:event-1" 3600), .error (.error "Connection is closed.")⟩

def clockCall (date : Time) : Event AuditAns := ⟨.app .now, date⟩

def rowCall (date : Time) (answer : Except JsError Unit) : Event AuditAns :=
  ⟨.auditLogCreate (row someRequest date (.native (requestJson someRequest)) none "error"
    (some "Connection is closed.")), answer⟩

/-- The event is sent twice, and both requests fail, at the times `date` and `date'`. -/
def twice (date date' : Time) (answer : Except JsError Unit) : List (Bool × Event AuditAns) :=
  [(false, lockCall), (true, lockCall), (false, clockCall date), (false, rowCall date (.ok ())),
    (true, clockCall date'), (true, rowCall date' answer)]

theorem lock_runs (date : Time) (answer : Except JsError Unit) :
    (intercept .caching someRequest).Runs [lockCall, clockCall date, rowCall date answer]
      (.error (.error "Connection is closed.")) :=
  ⟨_, _, rfl, _, _, rfl, _, _, rfl, rfl, rfl⟩

theorem twice_runs (date date' : Time) (answer : Except JsError Unit) (i : Bool) :
    ∃ x, (intercept .caching someRequest).Runs (own i (twice date date' answer)) x := by
  cases i with
  | false => exact ⟨_, lock_runs date (.ok ())⟩
  | true => exact ⟨_, lock_runs date' answer⟩

theorem twice_clock {date date' : Time} {answer : Except JsError Unit} (hdate : 0 ≤ date)
    (hdate' : 0 ≤ date') (i : Bool) (d : Time)
    (h : (i, ⟨.app .now, d⟩) ∈ twice date date' answer) : 0 ≤ d := by
  have hmem : d ∈ (twice date date' answer).filterMap fun call => clock call.2 :=
    List.mem_filterMap.2 ⟨_, h, rfl⟩
  rcases List.mem_pair.1 hmem with rfl | rfl
  · exact hdate
  · exact hdate'

/-- The keys of the two rows. -/
theorem rowKey_ne : rowKey "event-1" 1001 ≠ rowKey "event-1" 1000 := fun h =>
  absurd (rowKey_inj (by decide) (by decide) h).2 (by decide)

theorem handled_apart : Handled .caching (fun _ => someRequest) ∅ (twice 1000 1001 (.ok ()))
    {rowKey "event-1" 1001, rowKey "event-1" 1000} where
  runs := twice_runs 1000 1001 (.ok ())
  serves := by
    refine .other rfl (.other rfl (.other rfl (.accepted rfl (Set.notMem_empty _) (.other rfl
      (.accepted rfl ?_ ?_)))))
    · rintro (h | h)
      · exact rowKey_ne h
      · exact h
    · rw [insert_empty_eq]
      exact .nil
  clock := twice_clock (by decide) (by decide)

theorem handled_together : Handled .caching (fun _ => someRequest) ∅
    (twice 1000 1000 (.error (.error "Unique constraint failed on the fields: (eventId)")))
    {rowKey "event-1" 1000} where
  runs := twice_runs 1000 1000 _
  serves := by
    refine .other rfl (.other rfl (.other rfl (.accepted rfl (Set.notMem_empty _) (.other rfl
      (.refused rfl (Or.inl rfl) ?_)))))
    rw [insert_empty_eq]
    exact .nil
  clock := twice_clock (by decide) (by decide)

/-- Where the second fails a millisecond later, each leaves its row. -/
theorem complete_later :
    LeavesOne (twice 1000 1001 (.ok ())) false ∧ LeavesOne (twice 1000 1001 (.ok ())) true := by
  suffices hall : ∀ i, LeavesOne (twice 1000 1001 (.ok ())) i from ⟨hall false, hall true⟩
  refine (complete_iff handled_apart).2 ⟨fun i j date hi hj _ => ?_, fun i date _ => id⟩
  have hfinished : ∀ i, finishedAt (own i (twice 1000 1001 (.ok ()))) =
      some (if i then 1001 else 1000) := by
    intro i
    cases i <;> rfl
  rw [hfinished] at hi hj
  have hsame := hi.trans hj.symm
  cases i <;> cases j
  · rfl
  · exact absurd (Option.some.inj hsame) (by decide)
  · exact absurd (Option.some.inj hsame) (by decide)
  · rfl

/-- Where both fail in one millisecond, the second leaves none. -/
theorem not_complete : ∃ (log : List (Bool × Event AuditAns)) (rows' : Set String),
    Handled .caching (fun _ => someRequest) ∅ log rows' ∧ ¬ ∀ i, LeavesOne log i :=
  ⟨_, _, handled_together, fun h => absurd (h true) (by unfold LeavesOne; decide)⟩

end Twice

end AuditInterceptor

end IdmMw
