import IdmMw.Library.BoundedLog
import IdmMw.Model.LogBuffer

/-!
# The log buffer is a bounded sequence

Sequences of `append`, `clear` and `clear` for one target, from the start of the middleware.

* `clearLoop_eq`, `queryLoop_eq`: the loops, without their indices;
* `history`, `run_events`: the events of the buffer are those that neither a later `clear` nor later
  events take out;
* `WellFormed`: the invariant of the buffer;
* `query_eq`: what a query returns.
-/

namespace IdmMw.RuntimeLogBuffer

open BoundedLog

variable {js : LogRuntime}

/-! ### The loops -/

/-- The loop of `clear` has filtered what it has passed. -/
theorem clearLoop_eq (target : String) {index : ℕ} {events : List BufferedLogEvent} {cleared : ℕ}
    (hindex : index ≤ events.length) :
    clearLoop target index events cleared =
      ((events.take index).filter (fun event => event.targetSystem ≠ some target) ++ events.drop index,
        cleared + (events.take index).countP (fun event => event.targetSystem = some target)) := by
  induction index generalizing events cleared with
  | zero => rfl
  | succ index ih =>
    have hlt : index < events.length := hindex
    have htake : events.take (index + 1) = events.take index ++ [events[index]] :=
      List.take_succ_eq_append_getElem hlt
    unfold clearLoop
    rw [List.getElem?_eq_getElem hlt, htake, List.filter_append, List.countP_append]
    show (if events[index].targetSystem = some target then _ else _) = _
    split
    · next h =>
      have hlength : index ≤ (events.eraseIdx index).length := by
        rw [List.length_eraseIdx_of_lt hlt]
        omega
      have hdrop : (events.eraseIdx index).drop index = events.drop (index + 1) := by
        rw [List.eraseIdx_eq_take_drop_succ, List.drop_left']
        rw [List.length_take]
        omega
      rw [ih hlength, hdrop, List.take_eraseIdx_eq_take_of_le _ _ _ le_rfl]
      simp [h, Nat.add_assoc, Nat.add_comm]
    · next h =>
      rw [ih hlt.le, List.drop_eq_getElem_cons hlt]
      simp [h]

theorem clearLoop_all (target : String) (events : List BufferedLogEvent) :
    (clearLoop target events.length events 0).1 =
      events.filter fun event => event.targetSystem ≠ some target := by
  rw [clearLoop_eq target le_rfl, List.take_length, List.drop_length, List.append_nil]

/-- What a query asks for. -/
def selects (js : LogRuntime) (targetSystem level : Option String) (event : BufferedLogEvent) : Bool :=
  (targetSystem.isNone || event.targetSystem = targetSystem) &&
    (level.isNone || some (levelName js event.level) = level)

/-- The loop of `query` has the last of the events that it has passed, the last one first. -/
theorem queryLoop_eq {targetSystem level : Option String} {limit : ℕ} {events : List BufferedLogEvent}
    {index : ℕ} {result : List BufferedLogEvent} (hindex : index ≤ events.length)
    (hresult : result.length < limit) :
    queryLoop js targetSystem level limit events index result =
      result ++ (((events.take index).filter (selects js targetSystem level)).reverse).take
        (limit - result.length) := by
  induction index generalizing result with
  | zero => simp [queryLoop]
  | succ index ih =>
    have hlt : index < events.length := hindex
    have htake : events.take (index + 1) = events.take index ++ [events[index]] :=
      List.take_succ_eq_append_getElem hlt
    unfold queryLoop
    rw [List.getElem?_eq_getElem hlt, htake, List.filter_append, List.reverse_append]
    dsimp only
    cases hselects : selects js targetSystem level events[index] with
    | false =>
      have hskipped : (targetSystem.isSome && decide (events[index].targetSystem ≠ targetSystem)) = true ∨
          (level.isSome && decide (some (levelName js events[index].level) ≠ level)) = true := by
        rw [selects, Bool.and_eq_false_iff] at hselects
        refine hselects.imp (fun h => ?_) (fun h => ?_)
        · cases targetSystem <;> simp_all
        · cases level <;> simp_all
      simp only [List.filter_singleton, hselects, cond_false, List.reverse_nil, List.nil_append]
      rcases hskipped with h | h
      · rw [if_pos h, ih hlt.le hresult]
      · rw [if_pos h, ih hlt.le hresult, ite_self]
    | true =>
      obtain ⟨htarget, hlevel⟩ := Bool.and_eq_true_iff.1 hselects
      have hnotarget : ¬ (targetSystem.isSome &&
          decide (events[index].targetSystem ≠ targetSystem)) = true := by
        cases targetSystem <;> simp_all
      have hnolevel : ¬ (level.isSome &&
          decide (some (levelName js events[index].level) ≠ level)) = true := by
        cases level <;> simp_all
      have hsucc : limit - result.length = limit - (result ++ [events[index]]).length + 1 := by
        rw [List.length_append, List.length_singleton]
        omega
      rw [if_neg hnotarget, if_neg hnolevel, List.filter_singleton, hselects, cond_true, hsucc]
      simp only [List.reverse_singleton, List.singleton_append, List.take_succ_cons]
      split
      · next hfull =>
        have hzero : limit - (result ++ [events[index]]).length = 0 := by
          have hle : limit ≤ (result ++ [events[index]]).length := by exact_mod_cast hfull
          omega
        rw [hzero, List.take_zero]
      · next hfull =>
        have hmore : (result ++ [events[index]]).length < limit := by
          have hlt : ¬ limit ≤ (result ++ [events[index]]).length := by exact_mod_cast hfull
          omega
        rw [ih hlt.le hmore, List.append_assoc]
        rfl

/-- The limit of a query that asks for a number of events. -/
theorem normalizeLimit_natCast {limit : ℕ} (h : 0 < limit) :
    normalizeLimit (some (.num limit)) = (min limit 2000 : ℕ) := by
  have htrunc : trunc (limit : ℚ) = limit := by
    unfold trunc
    rw [if_pos (Nat.cast_nonneg limit), Int.floor_natCast]
  show min (max (trunc (limit : ℚ)) 1) 2000 = _
  rw [htrunc]
  omega

/-- The target and the level that a query asks for. -/
def requested (js : LogRuntime) (query : LogQuery) (event : BufferedLogEvent) : Bool :=
  selects js (query.targetSystem.bind nonBlank) ((query.level.bind nonBlank).map js.toLowerCase) event

/-- A query returns the last of the events that it asks for. -/
theorem query_eq (buffer : RuntimeLogBuffer) {query : LogQuery} {limit : ℕ} (hpos : 0 < limit)
    (hlimit : query.limit = some (.num limit)) :
    buffer.query js query = lastN (min limit 2000) (buffer.events.filter (requested js query)) := by
  have hmin : ([] : List BufferedLogEvent).length < min limit 2000 := by
    rw [List.length_nil]
    omega
  unfold RuntimeLogBuffer.query
  rw [hlimit, normalizeLimit_natCast hpos]
  simp only []
  rw [queryLoop_eq le_rfl hmin, List.take_length, List.nil_append, List.length_nil, Nat.sub_zero,
    List.take_reverse, List.reverse_reverse]
  rfl

/-! ### Runs -/

/-- What is done with the buffer. -/
inductive Operation
  | append (value : Json)
  | clear (targetSystem : Option String)

/-- The buffer after an operation. -/
def apply (js : LogRuntime) (buffer : RuntimeLogBuffer) : Operation → RuntimeLogBuffer
  | .append value => (buffer.append js value).2
  | .clear targetSystem => (buffer.clear targetSystem).2

/-- The buffer after operations from the start. -/
def run (js : LogRuntime) (ops : List Operation) : RuntimeLogBuffer := ops.foldl (apply js) empty

/-- The change that an operation makes, if any, and the identifier of the next event. -/
def change (js : LogRuntime) (nextId : ℕ) : Operation → List (Change BufferedLogEvent) × ℕ
  | .append value =>
    match normalize js nextId value with
    | (.ok event, nextId) => ([.append event], nextId)
    | (.error _, nextId) => ([], nextId)
  | .clear targetSystem =>
    match targetSystem.bind nonBlank with
    | none => ([.remove fun _ => true], 1)
    | some target => ([.remove fun event => event.targetSystem = some target], nextId)

/-- The events that were appended and the clears, in order: what is appended, and what is taken out of
what was appended before. -/
def history (js : LogRuntime) : ℕ → List Operation → List (Change BufferedLogEvent)
  | _, [] => []
  | nextId, op :: ops =>
    (change js nextId op).1 ++ history js (change js nextId op).2 ops

theorem spliced_eq (maxEvents : ℕ) (events : List BufferedLogEvent) :
    spliced maxEvents events = lastN maxEvents events := by
  unfold spliced
  split
  · rfl
  · next hfits => exact (lastN_of_length_le (not_lt.1 hfits)).symm

/-- An operation makes its change of the bounded sequence. -/
theorem apply_spec (js : LogRuntime) (buffer : RuntimeLogBuffer) (op : Operation) :
    (apply js buffer op).events =
        (change js buffer.nextId op).1.foldl (step MAX_LOG_EVENTS) buffer.events ∧
      (apply js buffer op).nextId = (change js buffer.nextId op).2 := by
  cases op with
  | append value =>
    show (buffer.append js value).2.events = _ ∧ (buffer.append js value).2.nextId = _
    rcases hnormalize : normalize js buffer.nextId value with ⟨e | event, nextId⟩
    · simp [append, change, hnormalize]
    · have happend : buffer.append js value =
          (.ok event, ⟨spliced MAX_LOG_EVENTS (buffer.events ++ [event]), nextId⟩) := by
        unfold append
        rw [hnormalize]
      have hchange : change js buffer.nextId (.append value) = ([.append event], nextId) := by
        simp only [change, hnormalize]
      rw [happend, hchange, List.foldl_cons, List.foldl_nil, step_append]
      dsimp only
      rw [spliced_eq]
      exact ⟨rfl, rfl⟩
  | clear targetSystem =>
    cases htarget : targetSystem.bind nonBlank with
    | none => simp [apply, clear, change, htarget]
    | some target =>
      simp only [apply, clear, change, htarget, List.foldl_cons, List.foldl_nil, step_remove,
        clearLoop_all, and_true]
      refine List.filter_congr fun event _ => ?_
      rw [decide_not]

/-- Operations make the changes of their history. -/
theorem foldl_apply_events (buffer : RuntimeLogBuffer) (ops : List Operation) :
    (ops.foldl (apply js) buffer).events =
      (history js buffer.nextId ops).foldl (step MAX_LOG_EVENTS) buffer.events := by
  induction ops generalizing buffer with
  | nil => rfl
  | cons op ops ih =>
    obtain ⟨hevents, hnextId⟩ := apply_spec js buffer op
    rw [List.foldl_cons, ih, hevents, hnextId, history, List.foldl_append]

/-- The events of the buffer are those that were appended and neither taken out nor pushed out. -/
theorem run_events (js : LogRuntime) (ops : List Operation) :
    (run js ops).events = retained MAX_LOG_EVENTS (history js 1 ops) := by
  rw [run, foldl_apply_events, ← foldl_step_nil]
  rfl

/-! ### The invariant -/

/-- The buffer is not above its capacity, and its identifiers increase up to the next one. -/
structure WellFormed (buffer : RuntimeLogBuffer) : Prop where
  length_le : buffer.events.length ≤ MAX_LOG_EVENTS
  increasing : buffer.events.Pairwise fun event event' => event.id < event'.id
  below : ∀ event ∈ buffer.events, event.id < buffer.nextId

theorem wellFormed_empty : WellFormed empty := ⟨Nat.zero_le _, .nil, by simp [empty]⟩

/-- An event gets the next identifier, and an identifier is used once. -/
theorem normalize_id {nextId next : ℕ} {value : Json} {event : BufferedLogEvent}
    (h : normalize js nextId value = (.ok event, next)) : event.id = nextId ∧ next = nextId + 1 := by
  unfold normalize at h
  split at h
  · cases h
  · split at h
    · split at h
      · obtain ⟨hevent, rfl⟩ := Prod.mk.inj h
        obtain rfl := Except.ok.inj hevent
        exact ⟨rfl, rfl⟩
      · cases h
    · obtain ⟨hevent, rfl⟩ := Prod.mk.inj h
      obtain rfl := Except.ok.inj hevent
      exact ⟨rfl, rfl⟩

theorem le_normalize_nextId (js : LogRuntime) (nextId : ℕ) (value : Json) : nextId ≤ (normalize js nextId value).2 := by
  unfold normalize
  split
  · exact le_rfl
  · split
    · split <;> exact Nat.le_succ _
    · exact Nat.le_succ _

theorem WellFormed.apply {buffer : RuntimeLogBuffer} (h : WellFormed buffer) (op : Operation) :
    WellFormed (apply js buffer op) := by
  cases op with
  | append value =>
    have hle := le_normalize_nextId js buffer.nextId value
    show WellFormed (buffer.append js value).2
    unfold append
    split
    · next e nextId heq =>
      rw [heq] at hle
      exact ⟨h.length_le, h.increasing, fun event hevent => (h.below event hevent).trans_le hle⟩
    · next event nextId heq =>
      obtain ⟨hid, rfl⟩ := normalize_id heq
      have hincreasing : (buffer.events ++ [event]).Pairwise fun event event' => event.id < event'.id := by
        refine List.pairwise_append.2 ⟨h.increasing, List.pairwise_singleton _ _, ?_⟩
        rintro earlier hearlier last hlast
        obtain rfl := List.mem_singleton.1 hlast
        rw [hid]
        exact h.below earlier hearlier
      have hbelow : ∀ event' ∈ buffer.events ++ [event], event'.id < buffer.nextId + 1 := by
        intro event' hevent'
        rcases List.mem_append.1 hevent' with hevent' | hevent'
        · exact (h.below event' hevent').trans (Nat.lt_succ_self _)
        · obtain rfl := List.mem_singleton.1 hevent'
          omega
      have hsub := lastN_sublist MAX_LOG_EVENTS (buffer.events ++ [event])
      refine ⟨?_, ?_, ?_⟩
      all_goals
        dsimp only
        rw [spliced_eq]
      · exact length_lastN_le _ _
      · exact hincreasing.sublist hsub
      · exact fun event' hevent' => hbelow event' (hsub.subset hevent')
  | clear targetSystem =>
    show WellFormed (buffer.clear targetSystem).2
    unfold clear
    split
    · exact wellFormed_empty
    · next target _ =>
      have hsub : (clearLoop target buffer.events.length buffer.events 0).1.Sublist buffer.events := by
        rw [clearLoop_all]
        exact List.filter_sublist
      exact ⟨hsub.length_le.trans h.length_le, h.increasing.sublist hsub,
        fun event hevent => h.below event (hsub.subset hevent)⟩

theorem wellFormed_run (js : LogRuntime) (ops : List Operation) : WellFormed (run js ops) := by
  suffices h : ∀ buffer, WellFormed buffer → WellFormed (ops.foldl (apply js) buffer) from
    h empty wellFormed_empty
  induction ops with
  | nil => exact fun buffer hbuffer => hbuffer
  | cons op ops ih => exact fun buffer hbuffer => ih _ (hbuffer.apply op)

/-- The buffer is a bounded sequence of the events that were appended, and a query returns the last
that it asks for. -/
theorem run_spec (js : LogRuntime) (ops : List Operation) :
    (run js ops).events.length ≤ 10000 ∧
      ((run js ops).events.Pairwise fun event event' => event.id < event'.id) ∧
      (run js ops).events = retained 10000 (history js 1 ops) ∧
      ∀ (query : LogQuery) (limit : ℕ), 0 < limit → query.limit = some (.num limit) →
        (run js ops).query js query =
          lastN (min limit 2000) ((run js ops).events.filter (requested js query)) := by
  have hrun := wellFormed_run js ops
  exact ⟨hrun.length_le, hrun.increasing, run_events js ops, fun query limit hpos hlimit =>
    query_eq _ hpos hlimit⟩

end IdmMw.RuntimeLogBuffer
