import IdmMw.Library.SlidingWindow
import IdmMw.Library.Tally
import IdmMw.Model.Metrics
import Mathlib.Tactic.Linarith

/-!
# The counts of the last five minutes

What `processedLast5Minutes` answers after any calls of the service.

* `covers_run`: the window is what has been recorded in the five minutes before the last reading;
* `IsTally`: the answer counts the samples, in all, by status and by target system;
* `Consistent`: every answer does, and no call changes an object that is not the service's;
* `consistent_iff`: when that is so;
* `shows_allowed`: what an administrator of some targets is shown counts the samples of these.
-/

namespace IdmMw

namespace MetricsService

open SlidingWindow Tally

variable {result : TargetCounts} {byStatus : StatusCounts} {sample : ProcessedEventSample}
  {samples : List ProcessedEventSample} {metrics : MetricsService} {now time timestamp : ℚ}
  {calls before : List MetricsCall} {call : MetricsCall} {status : EventStatus}
  {targetSystem : Option String}

/-! ### Counting where nothing has been set on the inherited objects -/

theorem increment_nil (counts : StatusCounts) (status : EventStatus) :
    increment [] counts status = bump counts status := by
  unfold increment bump add count
  show OrderedMap.set counts status (((counts.lookup status <|> none).getD 0) + 1) = _
  cases counts.lookup status <;> rfl

/-- The labels of a sample. -/
def labels (sample : ProcessedEventSample) : String × EventStatus :=
  (sample.targetSystem, sample.status)

theorem countSample_plain (result : TargetCounts) (h : sample.targetSystem ∉ inheritedNames) :
    countSample [] result sample =
      (.ok (bump₂ result sample.targetSystem sample.status), []) := by
  unfold countSample bump₂ row
  cases result.lookup sample.targetSystem with
  | some counts =>
    dsimp only
    rw [increment_nil]
    rfl
  | none =>
    dsimp only
    rw [if_neg h]
    have hnone : Globals.inheritedNumber [] sample.targetSystem = none := by
      unfold Globals.inheritedNumber
      split
      · rfl
      · split <;> rfl
    rw [hnone]
    dsimp only
    rw [increment_nil]
    rfl

/-- No sample has a target with an inherited name. -/
def AllPlain (samples : List ProcessedEventSample) : Prop :=
  ∀ sample ∈ samples, sample.targetSystem ∉ inheritedNames

theorem processedLast5MinutesRaw_cons {globals globals' : Globals} {result' : TargetCounts}
    (h : countSample globals result sample = (.ok result', globals')) :
    processedLast5MinutesRaw globals result (sample :: samples) =
      processedLast5MinutesRaw globals' result' samples := by
  rw [processedLast5MinutesRaw, h]

theorem processedLast5MinutesRaw_append (h : AllPlain samples) (result : TargetCounts)
    (rest : List ProcessedEventSample) :
    processedLast5MinutesRaw [] result (samples ++ rest) =
      processedLast5MinutesRaw [] (tally₂ result (samples.map labels)) rest := by
  induction samples generalizing result with
  | nil => rfl
  | cons sample samples ih =>
    rw [List.cons_append,
      processedLast5MinutesRaw_cons (countSample_plain result (h sample List.mem_cons_self))]
    exact ih (fun x hx => h x (List.mem_cons_of_mem _ hx)) _

theorem processedLast5MinutesRaw_plain (h : AllPlain samples) :
    processedLast5MinutesRaw [] [] samples = (.ok (tally₂ [] (samples.map labels)), []) := by
  have happend := processedLast5MinutesRaw_append h [] []
  rw [List.append_nil] at happend
  rw [happend]
  rfl

theorem countSamples_plain (h : AllPlain samples) (byStatus : StatusCounts)
    (result : TargetCounts) :
    countSamples [] byStatus result samples =
      (.ok (tally byStatus (samples.map ProcessedEventSample.status),
        tally₂ result (samples.map labels)), []) := by
  induction samples generalizing byStatus result with
  | nil => rfl
  | cons sample samples ih =>
    unfold countSamples
    rw [countSample_plain result (h sample List.mem_cons_self)]
    dsimp only
    rw [increment_nil]
    exact ih (fun x hx => h x (List.mem_cons_of_mem _ hx)) _ _

/-! ### The window -/

/-- What the calls have recorded. -/
def recorded (calls : List MetricsCall) : List ProcessedEventSample :=
  calls.filterMap MetricsCall.sample?

/-- The samples that are at most five minutes old. -/
def recent (now : ℚ) (samples : List ProcessedEventSample) : List ProcessedEventSample :=
  since ProcessedEventSample.timestamp (now - windowMs) samples

/-- The readings of the clock do not decrease. -/
def Clocked (calls : List MetricsCall) : Prop :=
  (calls.flatMap MetricsCall.readings).Pairwise (· ≤ ·)

/-- No event with an inherited name for its target is recorded, unless it is more than five minutes old
when the window is refreshed. -/
def PlainNames (calls : List MetricsCall) : Prop :=
  ∀ status targetSystem timestamp now, .recordEvent status targetSystem timestamp now ∈ calls →
    now - windowMs ≤ timestamp → targetSystem.getD "unknown" ∉ inheritedNames

theorem recorded_snoc (before : List MetricsCall) (call : MetricsCall) :
    recorded (before ++ [call]) = recorded before ++ call.sample?.toList := by
  unfold recorded
  rw [List.filterMap_append]
  cases h : call.sample? <;> simp [h]

theorem run_snoc (before : List MetricsCall) (call : MetricsCall) :
    run (before ++ [call]) = (run before).step call := by
  unfold run
  rw [List.foldl_append]
  rfl

/-- A sample has been recorded by a call, which took its time from the clock. -/
theorem mem_recorded (h : sample ∈ recorded calls) :
    ∃ targetSystem now, sample.targetSystem = Option.getD targetSystem "unknown" ∧
      .recordEvent sample.status targetSystem sample.timestamp now ∈ calls := by
  obtain ⟨call, hcall, hsample⟩ := List.mem_filterMap.1 h
  cases call with
  | recordEvent status targetSystem timestamp now =>
    obtain rfl := Option.some.inj hsample
    exact ⟨targetSystem, now, rfl, hcall⟩
  | processedLast5Minutes now => cases hsample

theorem clocked_append {after : List MetricsCall} :
    Clocked (before ++ after) ↔ Clocked before ∧ Clocked after ∧
      ∀ reading ∈ before.flatMap MetricsCall.readings,
        ∀ reading' ∈ after.flatMap MetricsCall.readings, reading ≤ reading' := by
  unfold Clocked
  rw [List.flatMap_append, List.pairwise_append]

theorem Clocked.sorted (h : Clocked calls) :
    Sorted ProcessedEventSample.timestamp (recorded calls) := by
  induction calls with
  | nil => exact List.Pairwise.nil
  | cons call calls ih =>
    rw [← List.singleton_append, clocked_append] at h
    obtain ⟨-, hcalls, hle⟩ := h
    cases call with
    | processedLast5Minutes now => exact ih hcalls
    | recordEvent status targetSystem timestamp now =>
      refine List.pairwise_cons.2 ⟨fun sample hmem => ?_, ih hcalls⟩
      obtain ⟨_, _, -, hcall⟩ := mem_recorded hmem
      exact hle timestamp (by simp [MetricsCall.readings]) _
        (List.mem_flatMap.2 ⟨_, hcall, List.mem_cons_self⟩)

/-- A sample that is counted when the window is refreshed was counted when it was recorded. -/
theorem allPlain_recent (h : PlainNames calls)
    (htime : ∀ reading ∈ calls.flatMap MetricsCall.readings, reading ≤ time) :
    AllPlain (recent time (recorded calls)) := by
  intro sample hmem
  obtain ⟨hrecorded, hrecent⟩ := mem_since.1 hmem
  obtain ⟨targetSystem, now, htarget, hcall⟩ := mem_recorded hrecorded
  rw [htarget]
  have hnow : now ≤ time := htime now (List.mem_flatMap.2 ⟨_, hcall, by simp [MetricsCall.readings]⟩)
  refine h _ _ _ _ hcall ?_
  linarith

/-- What a refresh leaves of a window with plain names. -/
theorem refreshProcessedWindow_plain (hglobals : metrics.globals = [])
    (hwindow : expire ProcessedEventSample.timestamp (now - windowMs) metrics.processedWindow =
      samples) (h : AllPlain samples) :
    metrics.refreshProcessedWindow now = (.ok (), { metrics with
      processedWindow := samples
      eventsProcessedLast5m := tally₂ [] (samples.map labels)
      globals := [] }) := by
  have hraw := processedLast5MinutesRaw_plain h
  rw [← hwindow] at hraw
  unfold expire at hraw hwindow
  unfold refreshProcessedWindow
  rw [hglobals]
  dsimp only
  rw [hraw, hwindow]

/-- The answer where the names are plain. -/
theorem processedLast5Minutes_plain (hglobals : metrics.globals = [])
    (hwindow : expire ProcessedEventSample.timestamp (now - windowMs) metrics.processedWindow =
      samples) (h : AllPlain samples) :
    metrics.processedLast5Minutes now =
      (.ok ⟨samples.length, tally [] (samples.map ProcessedEventSample.status),
          tally₂ [] (samples.map labels)⟩,
        { metrics with
          processedWindow := samples
          eventsProcessedLast5m := tally₂ [] (samples.map labels)
          globals := [] }) := by
  unfold processedLast5Minutes
  rw [refreshProcessedWindow_plain hglobals hwindow h]
  dsimp only
  rw [countSamples_plain h [] []]

/-- After any calls with plain names: nothing has been set on the inherited objects, and the window is
what has been recorded since five minutes before the last reading. -/
theorem covers_run (hclock : Clocked calls) (hplain : PlainNames calls)
    (htime : ∀ reading ∈ calls.flatMap MetricsCall.readings, reading ≤ time) :
    (run calls).globals = [] ∧ Covers ProcessedEventSample.timestamp (run calls).processedWindow
      (recorded calls) (time - windowMs) := by
  induction calls using List.reverseRecOn generalizing time with
  | nil => exact ⟨rfl, covers_nil _⟩
  | append_singleton before call ih =>
    have hwindowMs : (0 : ℚ) ≤ windowMs := by norm_num [windowMs]
    obtain ⟨hbefore, hcall, hle⟩ := clocked_append.1 hclock
    have hplainBefore : PlainNames before := fun _ _ _ _ hmem =>
      hplain _ _ _ _ (List.mem_append_left _ hmem)
    have hreading : ∀ reading ∈ call.readings, reading ≤ time := fun reading hmem =>
      htime reading (by simp [hmem])
    rw [run_snoc]
    cases call with
    | processedLast5Minutes now =>
      have hnow : now ≤ time := hreading now (by simp [MetricsCall.readings])
      have hlast : ∀ reading ∈ before.flatMap MetricsCall.readings, reading ≤ now :=
        fun reading hmem => hle reading hmem now (by simp [MetricsCall.readings])
      obtain ⟨hglobals, hcovers⟩ := ih hbefore hplainBefore hlast
      have hanswer := processedLast5Minutes_plain hglobals
        (hcovers.expire_eq hbefore.sorted le_rfl) (allPlain_recent hplainBefore hlast)
      have hexpired := (hcovers.expire hbefore.sorted le_rfl).mono
        (sub_le_sub_right hnow windowMs)
      rw [hcovers.expire_eq hbefore.sorted le_rfl] at hexpired
      have hrecorded : recorded (before ++ [.processedLast5Minutes now]) = recorded before := by
        rw [recorded_snoc]
        exact List.append_nil _
      rw [hrecorded]
      show ((run before).processedLast5Minutes now).2.globals = [] ∧
        Covers _ ((run before).processedLast5Minutes now).2.processedWindow _ _
      rw [hanswer]
      exact ⟨rfl, hexpired⟩
    | recordEvent status targetSystem timestamp now =>
      have hnow : now ≤ time := hreading now (by simp [MetricsCall.readings])
      have htimestamp : timestamp ≤ now := by
        simpa [Clocked, MetricsCall.readings] using hcall
      have hlast : ∀ reading ∈ before.flatMap MetricsCall.readings, reading ≤ timestamp :=
        fun reading hmem => hle reading hmem timestamp (by simp [MetricsCall.readings])
      obtain ⟨hglobals, hcovers⟩ := ih hbefore hplainBefore hlast
      let sample : ProcessedEventSample := ⟨timestamp, status, targetSystem.getD "unknown"⟩
      have hrecord : Covers ProcessedEventSample.timestamp
          ((run before).processedWindow ++ [sample]) (recorded before ++ [sample])
          (timestamp - windowMs) := hcovers.record (sub_le_self timestamp hwindowMs)
      have hrecorded : recorded (before ++ [.recordEvent status targetSystem timestamp now]) =
          recorded before ++ [sample] := recorded_snoc before _
      have hsorted := hclock.sorted
      rw [hrecorded] at hsorted
      have hcutoff : timestamp - windowMs ≤ now - windowMs := sub_le_sub_right htimestamp windowMs
      have hreadings : ∀ reading ∈
          (before ++ [MetricsCall.recordEvent status targetSystem timestamp now]).flatMap
            MetricsCall.readings,
          reading ≤ now := by
        intro reading hmem
        rw [List.flatMap_append] at hmem
        rcases List.mem_append.1 hmem with hmem | hmem
        · exact (hlast reading hmem).trans htimestamp
        · have : reading = timestamp ∨ reading = now := by
            simpa [MetricsCall.readings] using hmem
          rcases this with rfl | rfl
          · exact htimestamp
          · exact le_rfl
      have hall := allPlain_recent hplain hreadings
      rw [hrecorded] at hall ⊢
      have hrefresh := @refreshProcessedWindow_plain _ { run before with
          eventsProcessed := inc (run before).eventsProcessed status (targetSystem.getD "unknown")
          processedWindow := (run before).processedWindow ++ [sample] } now hglobals
        (hrecord.expire_eq hsorted hcutoff) hall
      show ((run before).recordEvent status targetSystem timestamp now).2.globals = [] ∧
        Covers _ ((run before).recordEvent status targetSystem timestamp now).2.processedWindow _ _
      unfold recordEvent
      rw [hrefresh]
      have hexpired := (hrecord.expire hsorted hcutoff).mono (sub_le_sub_right hnow windowMs)
      rw [hrecord.expire_eq hsorted hcutoff] at hexpired
      exact ⟨rfl, hexpired⟩

/-! ### The law -/

/-- The answer counts the samples: in all, by status, and by target system and status. -/
structure IsTally (samples : List ProcessedEventSample) (answer : ProcessedLast5Minutes) : Prop where
  total : answer.total = samples.length
  byStatus : ∀ status, count answer.byStatus status = samples.countP fun sample =>
    sample.status = status
  byTargetSystem : ∀ targetSystem status, count₂ answer.byTargetSystem targetSystem status =
    samples.countP fun sample => sample.targetSystem = targetSystem ∧ sample.status = status
  status_total : Tally.total answer.byStatus = answer.total
  target_total : total₂ answer.byTargetSystem = answer.total

theorem isTally_tally (samples : List ProcessedEventSample) :
    IsTally samples ⟨samples.length, tally [] (samples.map ProcessedEventSample.status),
      tally₂ [] (samples.map labels)⟩ where
  total := rfl
  byStatus := by
    intro status
    have hcount := count_tally [] (samples.map ProcessedEventSample.status) status
    rw [hcount, List.count_eq_countP, List.countP_map]
    show 0 + _ = _
    rw [Nat.zero_add]
    refine List.countP_congr fun sample _ => ?_
    simp
  byTargetSystem := by
    intro targetSystem status
    have hcount := count₂_tally₂ [] (samples.map labels) targetSystem status
    rw [hcount, List.countP_map]
    show 0 + _ = _
    rw [Nat.zero_add]
    rfl
  status_total := by
    rw [total_tally, List.length_map]
    exact Nat.zero_add _
  target_total := by
    rw [total₂_tally₂, List.length_map]
    exact Nat.zero_add _

/-- No call sets anything on an object that is not the service's, and each answer counts the samples that
are at most five minutes old. -/
def Consistent (calls : List MetricsCall) : Prop :=
  ∀ before call after, calls = before ++ call :: after →
    (run (before ++ [call])).globals = (run before).globals ∧
    ∀ now, call = .processedLast5Minutes now → ∃ answer,
      ((run before).processedLast5Minutes now).1 = .ok answer ∧
        IsTally (recent now (recorded before)) answer

/-- The first event with an inherited name sets a count on an object that is not the service's. -/
theorem globals_recordEvent
    (hclock : Clocked (before ++ [.recordEvent status targetSystem timestamp now]))
    (hplain : PlainNames before) (hrecent : now - windowMs ≤ timestamp)
    (hname : targetSystem.getD "unknown" ∈ inheritedNames) :
    (run (before ++ [.recordEvent status targetSystem timestamp now])).globals ≠ [] := by
  have hwindowMs : (0 : ℚ) ≤ windowMs := by norm_num [windowMs]
  have hsorted := hclock.sorted
  obtain ⟨hbefore, hcall, hle⟩ := clocked_append.1 hclock
  have htimestamp : timestamp ≤ now := by
    simpa [Clocked, MetricsCall.readings] using hcall
  have hlast : ∀ reading ∈ before.flatMap MetricsCall.readings, reading ≤ timestamp :=
    fun reading hmem => hle reading hmem timestamp (by simp [MetricsCall.readings])
  obtain ⟨hglobals, hcovers⟩ := covers_run hbefore hplain hlast
  let sample : ProcessedEventSample := ⟨timestamp, status, targetSystem.getD "unknown"⟩
  have hrecorded : recorded (before ++ [.recordEvent status targetSystem timestamp now]) =
      recorded before ++ [sample] := recorded_snoc before _
  rw [hrecorded] at hsorted
  have hcutoff : timestamp - windowMs ≤ now - windowMs := sub_le_sub_right htimestamp windowMs
  have hrecord : Covers ProcessedEventSample.timestamp ((run before).processedWindow ++ [sample])
      (recorded before ++ [sample]) (timestamp - windowMs) :=
    hcovers.record (sub_le_self timestamp hwindowMs)
  have hwindow := hrecord.expire_eq hsorted hcutoff
  have hkept : since ProcessedEventSample.timestamp (now - windowMs) [sample] = [sample] :=
    since_eq_self (by simpa using hrecent)
  rw [since_append, hkept] at hwindow
  have hall : AllPlain (since ProcessedEventSample.timestamp (now - windowMs) (recorded before)) :=
    allPlain_recent hplain fun reading hmem => (hlast reading hmem).trans htimestamp
  -- the samples before are counted, and then that of the event
  have hnone : (tally₂ [] ((since ProcessedEventSample.timestamp (now - windowMs)
      (recorded before)).map labels)).lookup sample.targetSystem = none := by
    rw [lookup_tally₂]
    · rfl
    · rw [List.map_map]
      intro hmem
      obtain ⟨sample', hmem', htarget⟩ := List.mem_map.1 hmem
      refine hall sample' hmem' ?_
      rw [show sample'.targetSystem = sample.targetSystem from htarget]
      exact hname
  have hraw := processedLast5MinutesRaw_append hall [] [sample]
  rw [← hwindow, processedLast5MinutesRaw, countSample, hnone] at hraw
  dsimp only at hraw
  rw [if_pos hname] at hraw
  dsimp only at hraw
  rw [processedLast5MinutesRaw] at hraw
  rw [run_snoc]
  show ((run before).recordEvent status targetSystem timestamp now).2.globals ≠ []
  unfold recordEvent refreshProcessedWindow
  unfold expire at hraw
  rw [hglobals]
  dsimp only
  rw [hraw]
  exact List.cons_ne_nil _ _

/-- Every answer counts what is at most five minutes old, and no other object is changed, exactly if no
event is counted whose target system has an inherited name. -/
theorem consistent_iff (h : Clocked calls) : Consistent calls ↔ PlainNames calls := by
  constructor
  · intro hconsistent
    have hbefore : ∀ before after, calls = before ++ after → PlainNames before := by
      intro before
      induction before using List.reverseRecOn with
      | nil => exact fun _ _ _ _ _ _ hmem => absurd hmem List.not_mem_nil
      | append_singleton before call ih =>
        rintro after rfl
        rw [List.append_assoc] at h hconsistent ih
        have hplain := ih _ rfl
        intro status targetSystem timestamp now hmem hrecent
        rcases List.mem_append.1 hmem with hmem | hmem
        · exact hplain status targetSystem timestamp now hmem hrecent
        · obtain rfl := List.mem_singleton.1 hmem
          intro hname
          have hclock : Clocked (before ++ [.recordEvent status targetSystem timestamp now]) := by
            rw [← List.append_assoc] at h
            exact (clocked_append.1 h).1
          refine globals_recordEvent hclock hplain hrecent hname ?_
          rw [(hconsistent before _ after rfl).1]
          exact (covers_run (clocked_append.1 hclock).1 hplain fun reading hreading =>
            (clocked_append.1 hclock).2.2 reading hreading now (by simp [MetricsCall.readings])).1
    exact hbefore calls [] (List.append_nil calls).symm
  · rintro hplain before call after rfl
    have hplainCall : PlainNames (before ++ [call]) := fun status targetSystem timestamp now hmem =>
      hplain status targetSystem timestamp now (by
        rw [← List.singleton_append, ← List.append_assoc]
        exact List.mem_append_left _ hmem)
    have hclock : Clocked (before ++ [call]) := by
      rw [← List.singleton_append, ← List.append_assoc] at h
      exact (clocked_append.1 h).1
    have hplainBefore : PlainNames before := fun status targetSystem timestamp now hmem =>
      hplainCall status targetSystem timestamp now (List.mem_append_left _ hmem)
    obtain ⟨hbefore, -, hle⟩ := clocked_append.1 hclock
    obtain ⟨last, hlast⟩ : ∃ last, ∀ reading ∈ (before ++ [call]).flatMap MetricsCall.readings,
        reading ≤ last := (List.finite_toSet _).bddAbove
    have hlastBefore : ∀ reading ∈ before.flatMap MetricsCall.readings, reading ≤ last :=
      fun reading hmem => hlast reading (by
        rw [List.flatMap_append]
        exact List.mem_append_left _ hmem)
    refine ⟨?_, ?_⟩
    · rw [(covers_run hclock hplainCall hlast).1, (covers_run hbefore hplainBefore hlastBefore).1]
    · rintro now rfl
      have hnow : ∀ reading ∈ before.flatMap MetricsCall.readings, reading ≤ now :=
        fun reading hmem => hle reading hmem now (by simp [MetricsCall.readings])
      obtain ⟨hglobals, hcovers⟩ := covers_run hbefore hplainBefore hnow
      rw [processedLast5Minutes_plain hglobals (hcovers.expire_eq hbefore.sorted le_rfl)
        (allPlain_recent hplainBefore hnow)]
      exact ⟨_, rfl, isTally_tally _⟩

theorem consistent_unknown :
    Consistent [.recordEvent .failed none 0 0, .processedLast5Minutes 300000] := by
  refine (consistent_iff ?_).2 ?_
  · norm_num [Clocked, MetricsCall.readings]
  · intro status targetSystem timestamp now hmem _
    obtain ⟨-, rfl, -⟩ : status = .failed ∧ targetSystem = none ∧ timestamp = 0 ∧ now = 0 := by
      simpa using hmem
    decide

/-- An event for a target with the name `constructor` sets a count on `Object`. -/
theorem not_consistent :
    Clocked [.recordEvent .success (some "constructor") 0 0, .processedLast5Minutes 0] ∧
      ¬ Consistent [.recordEvent .success (some "constructor") 0 0, .processedLast5Minutes 0] := by
  refine ⟨by norm_num [Clocked, MetricsCall.readings], fun h => ?_⟩
  have hclock : Clocked ([] ++ [.recordEvent .success (some "constructor") 0 0]) := by
    norm_num [Clocked, MetricsCall.readings]
  have hplain : PlainNames [] := fun _ _ _ _ hmem => absurd hmem List.not_mem_nil
  refine globals_recordEvent hclock hplain (by norm_num [windowMs]) (by decide) ?_
  exact (h [] _ _ rfl).1

/-! ### What an administrator is shown -/

theorem filtered_eq_addAll (entries : StatusCounts) (byStatus : StatusCounts) (total : ℕ) :
    entries.foldl (fun counted entry =>
      (OrderedMap.set counted.1 entry.1 ((counted.1.lookup entry.1).getD 0 + entry.2),
        counted.2 + entry.2)) (byStatus, total) =
    (addAll byStatus entries, total + Tally.total entries) := by
  induction entries generalizing byStatus total with
  | nil => rfl
  | cons entry entries ih =>
    rw [List.foldl_cons, ih]
    show _ = (_, total + (entry.2 + Tally.total entries))
    rw [← Nat.add_assoc]
    rfl

theorem weigh_flatMap (w : EventStatus → ℕ) (counts : TargetCounts) :
    weigh w (counts.flatMap Prod.snd) = weigh₂ w counts := by
  induction counts with
  | nil => rfl
  | cons entry counts ih =>
    have happend : ∀ xs ys : StatusCounts, weigh w (xs ++ ys) = weigh w xs + weigh w ys := by
      intro xs ys
      unfold weigh
      rw [List.map_append, List.sum_append]
    rw [List.flatMap_cons, happend, ih]
    rfl

/-- What is shown of the counts of the samples counts those of the targets that are allowed. -/
theorem isTally_filtered (samples : List ProcessedEventSample) (allowed : List String) :
    IsTally (samples.filter fun sample => allowed.contains sample.targetSystem)
      (AdminService.filteredProcessedLast5Minutes
        ⟨samples.length, tally [] (samples.map ProcessedEventSample.status),
          tally₂ [] (samples.map labels)⟩ (some allowed)) := by
  let shown := samples.filter fun sample => allowed.contains sample.targetSystem
  have hrows : (tally₂ [] (samples.map labels)).filter (fun entry => allowed.contains entry.1) =
      tally₂ [] (shown.map labels) := by
    rw [filter_tally₂ (fun target => allowed.contains target), List.filter_map]
    rfl
  have hweigh : ∀ w : EventStatus → ℕ,
      weigh w ((tally₂ [] (shown.map labels)).flatMap Prod.snd) =
        (shown.map fun sample => w sample.status).sum := by
    intro w
    rw [weigh_flatMap, weigh₂_tally₂, List.map_map]
    exact Nat.zero_add _
  have htotal : Tally.total ((tally₂ [] (shown.map labels)).flatMap Prod.snd) = shown.length := by
    rw [total_eq_weigh, hweigh]
    simp
  unfold AdminService.filteredProcessedLast5Minutes
  dsimp only
  rw [hrows, filtered_eq_addAll, htotal]
  refine ⟨Nat.zero_add _, ?_, ?_, ?_, ?_⟩
  · intro status
    dsimp only
    rw [count_addAll, hweigh]
    show 0 + _ = _
    rw [Nat.zero_add, sum_ite_eq_countP]
  · exact (isTally_tally shown).byTargetSystem
  · dsimp only
    rw [total_eq_weigh, weigh_addAll, ← total_eq_weigh, ← total_eq_weigh, htotal]
    rfl
  · exact ((isTally_tally shown).target_total.trans (Nat.zero_add _).symm)

/-- After any calls that count no event with an inherited name, an administrator of some targets is shown
the counts of the samples of these that are at most five minutes old. -/
theorem shows_allowed (hclock : Clocked (before ++ [.processedLast5Minutes now]))
    (hplain : PlainNames before) (allowed : List String) :
    ∃ answer, ((run before).processedLast5Minutes now).1 = .ok answer ∧
      IsTally ((recent now (recorded before)).filter fun sample =>
          allowed.contains sample.targetSystem)
        (AdminService.filteredProcessedLast5Minutes answer (some allowed)) := by
  obtain ⟨hbefore, -, hle⟩ := clocked_append.1 hclock
  have hnow : ∀ reading ∈ before.flatMap MetricsCall.readings, reading ≤ now :=
    fun reading hmem => hle reading hmem now (by simp [MetricsCall.readings])
  obtain ⟨hglobals, hcovers⟩ := covers_run hbefore hplain hnow
  rw [processedLast5Minutes_plain hglobals (hcovers.expire_eq hbefore.sorted le_rfl)
    (allPlain_recent hplain hnow)]
  exact ⟨_, rfl, isTally_filtered _ allowed⟩

theorem shows_allowed_unknown :
    ∃ answer, ((run [.recordEvent .failed none 0 0]).processedLast5Minutes 300000).1 = .ok answer ∧
      IsTally ((recent 300000 (recorded [.recordEvent .failed none 0 0])).filter fun sample =>
          ["unknown"].contains sample.targetSystem)
        (AdminService.filteredProcessedLast5Minutes answer (some ["unknown"])) := by
  refine shows_allowed ?_ ?_ ["unknown"]
  · norm_num [Clocked, MetricsCall.readings]
  · intro status targetSystem timestamp now hmem _
    obtain ⟨-, rfl, -⟩ : status = .failed ∧ targetSystem = none ∧ timestamp = 0 ∧ now = 0 := by
      simpa using hmem
    decide

end MetricsService

end IdmMw
