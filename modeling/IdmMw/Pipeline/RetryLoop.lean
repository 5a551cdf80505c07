import IdmMw.Model.Retry

/-!
# The retry loop

`RetryService.execute` calls a function until it succeeds, at most `maxRetries + 1` times, and sleeps
between two calls.

* `Loop`: a trace as calls with the sleeps between them;
* `Spec`: how many calls there are for a sequence of outcomes, what is returned, and how long the sleeps
  are;
* `executeFrom_runs_iff`: the runs of the loop, call by call; `execute_spec`: they meet the
  specification, and there is one for every sequence of outcomes.
-/

namespace IdmMw

open Async

namespace RetryService

variable {α : Type} {fn : Prog α} {opts : RetryOptions} {t : List (Async.Event Ans)}
  {x : Except JsError α}

/-- The delay before the next attempt, without jitter. -/
def cappedDelay (opts : RetryOptions) (attempt : ℕ) : ℚ :=
  min (opts.baseDelayMs * 2 ^ attempt) opts.maxDelayMs

/-- What the process does between two calls: with jitter, it draws a number first. -/
inductive Pause (opts : RetryOptions) (attempt : ℕ) : List (Async.Event Ans) → ℚ → Prop
  | plain (h : opts.jitter = false) :
      Pause opts attempt [⟨.sleep (cappedDelay opts attempt), ()⟩] (cappedDelay opts attempt)
  | jittered (h : opts.jitter = true) (r : ℚ) :
      Pause opts attempt
        [⟨.random, r⟩, ⟨.sleep (⌊cappedDelay opts attempt * (1 / 2 + r * (1 / 2))⌋ : ℤ), ()⟩]
        (⌊cappedDelay opts attempt * (1 / 2 + r * (1 / 2))⌋ : ℤ)

/-- A trace as calls from the given attempt on, by their outcomes, with sleeps between them, by their
lengths. -/
inductive Loop (fn : Prog α) (opts : RetryOptions) :
    ℕ → List (Async.Event Ans) → List (Except JsError α) → List ℚ → Prop
  | last {attempt : ℕ} {t : List (Async.Event Ans)} {x : Except JsError α} (h : fn.Runs t x) :
      Loop fn opts attempt t [x] []
  | more {attempt : ℕ} {t u t' : List (Async.Event Ans)} {e : JsError} {delay : ℚ}
      {outcomes : List (Except JsError α)} {delays : List ℚ} (h : fn.Runs t (.error e))
      (hpause : Pause opts attempt u delay) (hrest : Loop fn opts (attempt + 1) t' outcomes delays) :
      Loop fn opts attempt (t ++ (u ++ t')) (.error e :: outcomes) (delay :: delays)

/-- The outcomes of a loop with so many retries left, and its result. -/
inductive Ends : ℕ → List (Except JsError α) → Except JsError α → Prop
  | success {remaining : ℕ} (a : α) : Ends remaining [.ok a] (.ok a)
  | exhausted (e : JsError) : Ends 0 [.error e] (.error e.toError)
  | retried {remaining : ℕ} {e : JsError} {outcomes : List (Except JsError α)}
      {x : Except JsError α} (h : Ends remaining outcomes x) :
      Ends (remaining + 1) (.error e :: outcomes) x

/-! ### Runs -/

theorem pause_runs_iff {attempt : ℕ} {next : Prog α} :
    (do
      let delay ← calculateDelay attempt opts
      sleep delay
      next : Prog α).Runs t x ↔
      ∃ u t' delay, t = u ++ t' ∧ Pause opts attempt u delay ∧ next.Runs t' x := by
  unfold calculateDelay
  cases hjitter : opts.jitter with
  | true =>
    constructor
    · rintro ⟨r, _, rfl, ⟨⟩, t', rfl, hnext⟩
      exact ⟨_, t', _, rfl, .jittered hjitter r, hnext⟩
    · rintro ⟨u, t', delay, rfl, hpause, hnext⟩
      cases hpause with
      | plain h => exact absurd (h.symm.trans hjitter) Bool.false_ne_true
      | jittered h r => exact ⟨r, _, rfl, (), t', rfl, hnext⟩
  | false =>
    constructor
    · rintro ⟨⟨⟩, t', rfl, hnext⟩
      exact ⟨_, t', _, rfl, .plain hjitter, hnext⟩
    · rintro ⟨u, t', delay, rfl, hpause, hnext⟩
      cases hpause with
      | plain h => exact ⟨(), t', rfl, hnext⟩
      | jittered h r => exact absurd (hjitter.symm.trans h) Bool.false_ne_true

/-- The runs of the loop are calls with sleeps between them, which end as they should. -/
theorem executeFrom_runs_iff {attempt remaining : ℕ} :
    (executeFrom fn opts attempt remaining).Runs t x ↔
      ∃ outcomes delays, Loop fn opts attempt t outcomes delays ∧ Ends remaining outcomes x := by
  induction remaining generalizing attempt t with
  | zero =>
    constructor
    · intro h
      rcases runs_tryCatch.1 h with ⟨a, rfl, hrun⟩ | ⟨e, t₁, t₂, rfl, hrun, rfl, rfl⟩
      · exact ⟨[.ok a], [], .last hrun, .success a⟩
      · exact ⟨[.error e], [], .last (by simpa using hrun), .exhausted e⟩
    · rintro ⟨outcomes, delays, hloop, hends⟩
      refine runs_tryCatch.2 ?_
      cases hends with
      | success a =>
        cases hloop with
        | last hrun => exact Or.inl ⟨a, rfl, hrun⟩
      | exhausted e =>
        cases hloop with
        | last hrun => exact Or.inr ⟨e, t, [], by simp, hrun, rfl, rfl⟩
        | more _ _ hrest => cases hrest
  | succ remaining ih =>
    constructor
    · intro h
      rcases runs_tryCatch.1 h with ⟨a, rfl, hrun⟩ | ⟨e, t₁, t₂, rfl, hrun, hrest⟩
      · exact ⟨[.ok a], [], .last hrun, .success a⟩
      · obtain ⟨u, t', delay, rfl, hpause, hnext⟩ := pause_runs_iff.1 hrest
        obtain ⟨outcomes, delays, hloop, hends⟩ := ih.1 hnext
        exact ⟨_, _, .more hrun hpause hloop, .retried hends⟩
    · rintro ⟨outcomes, delays, hloop, hends⟩
      refine runs_tryCatch.2 ?_
      cases hends with
      | success a =>
        cases hloop with
        | last hrun => exact Or.inl ⟨a, rfl, hrun⟩
      | retried hends =>
        cases hloop with
        | last hrun => cases hends
        | more hrun hpause hrest =>
          exact Or.inr ⟨_, _, _, rfl, hrun,
            pause_runs_iff.2 ⟨_, _, _, rfl, hpause, ih.2 ⟨_, _, hrest, hends⟩⟩⟩

/-! ### The specification -/

/-- The outcomes begin the sequence. -/
def Begins (outcomes : List (Except JsError α)) (outcome : ℕ → Except JsError α) : Prop :=
  ∀ i y, outcomes[i]? = some y → outcome i = y

/-- The first success of the sequence. -/
structure IsFirstSuccess (outcome : ℕ → Except JsError α) (k : ℕ) : Prop where
  success : (outcome k).isOk = true
  first : ∀ j < k, (outcome j).isOk = false

/-- What a loop should do for a sequence of outcomes. -/
structure Spec (opts : RetryOptions) (outcome : ℕ → Except JsError α)
    (outcomes : List (Except JsError α)) (delays : List ℚ) (x : Except JsError α) : Prop where
  calls : ∀ k, IsFirstSuccess outcome k → outcomes.length = min (k + 1) (opts.maxRetries + 1)
  exhausted : (∀ k, (outcome k).isOk = false) → outcomes.length = opts.maxRetries + 1
  /-- the outcome of the last call; of an error that is no `Error`, the `Error` with its text -/
  result : x = (outcome (outcomes.length - 1)).mapError JsError.toError
  sleeps : delays.length + 1 = outcomes.length
  capped : ∀ delay ∈ delays, delay ≤ opts.maxDelayMs
  monotone : opts.jitter = false → delays.Pairwise (· ≤ ·)
  jittered : opts.jitter = true → ∀ i delay, delays[i]? = some delay →
    ((⌊cappedDelay opts i / 2⌋ : ℤ) : ℚ) ≤ delay ∧ delay ≤ cappedDelay opts i

/-- The numbers that are drawn are at least 0 and less than 1. -/
def DrawsFractions (t : List (Async.Event Ans)) : Prop := ∀ r, ⟨.random, r⟩ ∈ t → 0 ≤ r ∧ r < 1

theorem DrawsFractions.left {u : List (Async.Event Ans)} (h : DrawsFractions (t ++ u)) :
    DrawsFractions t := fun r hr => h r (List.mem_append_left _ hr)

theorem DrawsFractions.right {u : List (Async.Event Ans)} (h : DrawsFractions (t ++ u)) :
    DrawsFractions u := fun r hr => h r (List.mem_append_right _ hr)

/-! ### The number of calls -/

theorem Ends.result {remaining : ℕ} {outcomes : List (Except JsError α)}
    (h : Ends remaining outcomes x) {outcome : ℕ → Except JsError α} (hbegins : Begins outcomes outcome) :
    outcomes ≠ [] ∧ x = (outcome (outcomes.length - 1)).mapError JsError.toError := by
  induction h generalizing outcome with
  | success a =>
    exact ⟨by simp, (congrArg (Except.mapError JsError.toError) (hbegins 0 _ rfl)).symm⟩
  | exhausted e =>
    exact ⟨by simp, (congrArg (Except.mapError JsError.toError) (hbegins 0 _ rfl)).symm⟩
  | @retried remaining e outcomes x h ih =>
    have hnext : Begins outcomes fun i => outcome (i + 1) := fun i y hi => hbegins (i + 1) y hi
    obtain ⟨hne, hx⟩ := ih hnext
    refine ⟨by simp, ?_⟩
    have hpos := List.length_pos_iff.2 hne
    rw [hx, List.length_cons, show outcomes.length + 1 - 1 = outcomes.length - 1 + 1 by omega]

theorem Ends.length_of_success {remaining k : ℕ} {outcomes : List (Except JsError α)}
    (h : Ends remaining outcomes x) {outcome : ℕ → Except JsError α} (hbegins : Begins outcomes outcome)
    (hk : IsFirstSuccess outcome k) : outcomes.length = min (k + 1) (remaining + 1) := by
  induction h generalizing outcome k with
  | success a =>
    cases k with
    | zero => simp
    | succ k =>
      have hfailed := hk.first 0 (Nat.succ_pos k)
      rw [hbegins 0 _ rfl] at hfailed
      cases hfailed
  | exhausted e => simp
  | @retried remaining e outcomes x h ih =>
    cases k with
    | zero =>
      have hsuccess := hk.success
      rw [hbegins 0 _ rfl] at hsuccess
      cases hsuccess
    | succ k =>
      have hnext : Begins outcomes fun i => outcome (i + 1) := fun i y hi => hbegins (i + 1) y hi
      have hlength := ih hnext ⟨hk.success, fun j hj => hk.first (j + 1) (Nat.succ_lt_succ hj)⟩
      rw [List.length_cons, hlength]
      omega

theorem Ends.length_of_failure {remaining : ℕ} {outcomes : List (Except JsError α)}
    (h : Ends remaining outcomes x) {outcome : ℕ → Except JsError α} (hbegins : Begins outcomes outcome)
    (hfailed : ∀ k, (outcome k).isOk = false) : outcomes.length = remaining + 1 := by
  induction h generalizing outcome with
  | success a =>
    have hfirst := hfailed 0
    rw [hbegins 0 _ rfl] at hfirst
    cases hfirst
  | exhausted e => rfl
  | @retried remaining e outcomes x h ih =>
    have hnext : Begins outcomes fun i => outcome (i + 1) := fun i y hi => hbegins (i + 1) y hi
    rw [List.length_cons, ih hnext fun k => hfailed (k + 1)]

/-! ### The sleeps -/

theorem cappedDelay_le (opts : RetryOptions) (attempt : ℕ) :
    cappedDelay opts attempt ≤ opts.maxDelayMs := min_le_right _ _

theorem cappedDelay_nonneg (hbase : 0 ≤ opts.baseDelayMs) (hmax : 0 ≤ opts.maxDelayMs)
    (attempt : ℕ) : 0 ≤ cappedDelay opts attempt :=
  le_min (mul_nonneg hbase (by positivity)) hmax

theorem cappedDelay_mono (hbase : 0 ≤ opts.baseDelayMs) {i j : ℕ} (h : i ≤ j) :
    cappedDelay opts i ≤ cappedDelay opts j := by
  unfold cappedDelay
  refine min_le_min_right _ (mul_le_mul_of_nonneg_left ?_ hbase)
  exact pow_le_pow_right₀ (by norm_num) h

/-- A delay with jitter. -/
theorem jittered_bounds {capped r : ℚ} (hcapped : 0 ≤ capped) (hr : 0 ≤ r ∧ r < 1) :
    ((⌊capped / 2⌋ : ℤ) : ℚ) ≤ (⌊capped * (1 / 2 + r * (1 / 2))⌋ : ℤ) ∧
      ((⌊capped * (1 / 2 + r * (1 / 2))⌋ : ℤ) : ℚ) ≤ capped := by
  constructor
  · refine Int.cast_le.2 (Int.floor_le_floor ?_)
    nlinarith [mul_nonneg hcapped hr.1]
  · refine (Int.floor_le _).trans ?_
    nlinarith [mul_nonneg hcapped (sub_nonneg.2 hr.2.le)]

/-- The length of a pause. -/
structure Fits (opts : RetryOptions) (attempt : ℕ) (delay : ℚ) : Prop where
  plain : opts.jitter = false → delay = cappedDelay opts attempt
  jittered : opts.jitter = true →
    ((⌊cappedDelay opts attempt / 2⌋ : ℤ) : ℚ) ≤ delay ∧ delay ≤ cappedDelay opts attempt

theorem Fits.le {attempt : ℕ} {delay : ℚ} (h : Fits opts attempt delay) :
    delay ≤ opts.maxDelayMs := by
  cases hjitter : opts.jitter with
  | false => exact (h.plain hjitter).le.trans (cappedDelay_le opts attempt)
  | true => exact (h.jittered hjitter).2.trans (cappedDelay_le opts attempt)

theorem Pause.fits {attempt : ℕ} {delay : ℚ} (h : Pause opts attempt t delay)
    (hbase : 0 ≤ opts.baseDelayMs) (hmax : 0 ≤ opts.maxDelayMs) (ht : DrawsFractions t) :
    Fits opts attempt delay := by
  cases h with
  | plain hjitter =>
    refine ⟨fun _ => rfl, fun htrue => ?_⟩
    rw [hjitter] at htrue
    cases htrue
  | jittered hjitter r =>
    refine ⟨fun hfalse => ?_, fun _ => ?_⟩
    · rw [hjitter] at hfalse
      cases hfalse
    · exact jittered_bounds (cappedDelay_nonneg hbase hmax attempt) (ht r List.mem_cons_self)

theorem Loop.fits {attempt : ℕ} {outcomes : List (Except JsError α)} {delays : List ℚ}
    (h : Loop fn opts attempt t outcomes delays) (hbase : 0 ≤ opts.baseDelayMs)
    (hmax : 0 ≤ opts.maxDelayMs) (ht : DrawsFractions t) :
    delays.length + 1 = outcomes.length ∧
      ∀ i delay, delays[i]? = some delay → Fits opts (attempt + i) delay := by
  induction h with
  | last h => exact ⟨rfl, by simp⟩
  | @more attempt t u t' e delay outcomes delays h hpause hrest ih =>
    obtain ⟨hlength, hfits⟩ := ih ht.right.right
    refine ⟨congrArg (· + 1) hlength, fun i delay' hi => ?_⟩
    cases i with
    | zero =>
      obtain rfl := Option.some.inj hi
      exact hpause.fits hbase hmax ht.right.left
    | succ i =>
      rw [show attempt + (i + 1) = attempt + 1 + i by omega]
      exact hfits i delay' hi

theorem pairwise_of_fits {delays : List ℚ} (hbase : 0 ≤ opts.baseDelayMs)
    (hjitter : opts.jitter = false)
    (h : ∀ i delay, delays[i]? = some delay → Fits opts i delay) : delays.Pairwise (· ≤ ·) := by
  refine List.pairwise_iff_getElem.2 fun i j hi hj hij => ?_
  rw [(h i _ (List.getElem?_eq_getElem hi)).plain hjitter,
    (h j _ (List.getElem?_eq_getElem hj)).plain hjitter]
  exact cappedDelay_mono hbase hij.le

/-! ### Every sequence of outcomes -/

theorem exists_pause (opts : RetryOptions) (attempt : ℕ) :
    ∃ u delay, Pause opts attempt u delay ∧ DrawsFractions u := by
  cases hjitter : opts.jitter with
  | false =>
    refine ⟨_, _, .plain hjitter, fun r hr => ?_⟩
    simp at hr
  | true =>
    refine ⟨_, _, .jittered hjitter 0, fun r hr => ?_⟩
    obtain rfl : r = 0 := by simpa using hr
    norm_num

/-- A loop may meet any sequence of outcomes that the function may have. -/
theorem exists_loop {outcome : ℕ → Except JsError α}
    (h : ∀ i, ∃ t, fn.Runs t (outcome i) ∧ DrawsFractions t) (attempt remaining : ℕ) :
    ∃ t outcomes delays x, Loop fn opts attempt t outcomes delays ∧ Ends remaining outcomes x ∧
      Begins outcomes outcome ∧ DrawsFractions t := by
  induction remaining generalizing attempt outcome with
  | zero =>
    obtain ⟨t, hrun, ht⟩ := h 0
    refine ⟨t, [outcome 0], [], (outcome 0).mapError JsError.toError, .last hrun, ?_, ?_, ht⟩
    · cases outcome 0 with
      | ok a => exact .success a
      | error e => exact .exhausted e
    · rintro (_ | i) y hi
      · exact Option.some.inj hi
      · simp at hi
  | succ remaining ih =>
    obtain ⟨t, hrun, ht⟩ := h 0
    cases hfirst : outcome 0 with
    | ok a =>
      rw [hfirst] at hrun
      refine ⟨t, [.ok a], [], _, .last hrun, .success a, ?_, ht⟩
      rintro (_ | i) y hi
      · exact hfirst.trans (Option.some.inj hi)
      · simp at hi
    | error e =>
      rw [hfirst] at hrun
      have hnext : ∀ i, ∃ t, fn.Runs t ((fun i => outcome (i + 1)) i) ∧ DrawsFractions t :=
        fun i => h (i + 1)
      obtain ⟨t', outcomes, delays, x, hloop, hends, hbegins, ht'⟩ := ih hnext (attempt + 1)
      obtain ⟨u, delay, hpause, hu⟩ := exists_pause opts attempt
      refine ⟨_, _, _, x, .more hrun hpause hloop, .retried hends, ?_, fun r hr => ?_⟩
      · rintro (_ | i) y hi
        · exact hfirst.trans (Option.some.inj hi)
        · exact hbegins i y hi
      · rcases List.mem_append.1 hr with hr | hr
        · exact ht r hr
        · rcases List.mem_append.1 hr with hr | hr
          · exact hu r hr
          · exact ht' r hr

/-- The loop meets its specification in every run; and for every sequence of outcomes of the function
there is a run. -/
theorem execute_spec (fn : Prog α) (opts : RetryOptions) (hbase : 0 ≤ opts.baseDelayMs)
    (hmax : 0 ≤ opts.maxDelayMs) :
    (∀ t x, (execute fn opts).Runs t x → DrawsFractions t →
      ∃ outcomes delays, Loop fn opts 0 t outcomes delays ∧
        ∀ outcome, Begins outcomes outcome → Spec opts outcome outcomes delays x) ∧
    ∀ outcome, (∀ i, ∃ t, fn.Runs t (outcome i) ∧ DrawsFractions t) →
      ∃ t x outcomes delays, (execute fn opts).Runs t x ∧ DrawsFractions t ∧
        Loop fn opts 0 t outcomes delays ∧ Begins outcomes outcome := by
  constructor
  · intro t x hrun ht
    obtain ⟨outcomes, delays, hloop, hends⟩ := executeFrom_runs_iff.1 hrun
    obtain ⟨hlength, hfits⟩ := hloop.fits hbase hmax ht
    simp only [Nat.zero_add] at hfits
    refine ⟨outcomes, delays, hloop, fun outcome hbegins => ?_⟩
    refine ⟨fun k hk => hends.length_of_success hbegins hk, hends.length_of_failure hbegins,
      (hends.result hbegins).2, hlength, fun delay hdelay => ?_,
      fun hjitter => pairwise_of_fits hbase hjitter hfits,
      fun hjitter i delay hi => (hfits i delay hi).jittered hjitter⟩
    obtain ⟨i, hi⟩ := List.mem_iff_getElem?.1 hdelay
    exact (hfits i delay hi).le
  · intro outcome h
    obtain ⟨t, outcomes, delays, x, hloop, hends, hbegins, ht⟩ := exists_loop h 0 opts.maxRetries
    exact ⟨t, x, outcomes, delays, executeFrom_runs_iff.2 ⟨outcomes, delays, hloop, hends⟩, ht, hloop,
      hbegins⟩

/-- A function that always throws, with the default options. -/
theorem execute_spec_timeouts : ∃ t x outcomes delays,
    (execute (throw (.error "timeout") : Prog Unit) {}).Runs t x ∧ DrawsFractions t ∧
      Loop (throw (.error "timeout") : Prog Unit) {} 0 t outcomes delays ∧
      Begins outcomes fun _ => .error (.error "timeout") :=
  (execute_spec _ {} (by norm_num) (by norm_num)).2 _ fun _ =>
    ⟨[], ⟨rfl, rfl⟩, fun r hr => by simp at hr⟩

end RetryService

end IdmMw
