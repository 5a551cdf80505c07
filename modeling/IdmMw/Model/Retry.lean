import IdmMw.Model.Encryption

/-!
# Retries

`RetryService.execute`, the loop over the attempts of one asynchronous function, and
`RetryPolicyService.forTarget`, the policy of a target system: defaults, then the lease of the
settings, then what the target's own configuration overrides.
-/

namespace IdmMw

open Async

/-- `RetryOptions`, with the defaults of `RetryService`. -/
structure RetryOptions where
  maxRetries : ℕ := 3
  baseDelayMs : ℚ := 1000
  maxDelayMs : ℚ := 30000
  jitter : Bool := true

/-- A complete `TargetRetryPolicy`, with `DEFAULT_RETRY_POLICY` as defaults. -/
structure TargetRetryPolicy extends RetryOptions where
  dlqLeaseSeconds : ℚ := 300

namespace RetryService

variable {α : Type}

def calculateDelay (attempt : ℕ) (opts : RetryOptions) : Prog ℚ :=
  let capped := min (opts.baseDelayMs * 2 ^ attempt) opts.maxDelayMs
  if opts.jitter then do
    let r ← random
    pure (⌊capped * (1 / 2 + r * (1 / 2))⌋ : ℤ)
  else pure capped

/-- The loop from the given attempt on, with `remaining = maxRetries - attempt` retries left. -/
def executeFrom (fn : Prog α) (opts : RetryOptions) : (attempt remaining : ℕ) → Prog α
  | _, 0 => tryCatch fn fun e => throw e.toError
  | attempt, remaining + 1 => tryCatch fn fun _ => do
    let delay ← calculateDelay attempt opts
    sleep delay
    executeFrom fn opts (attempt + 1) remaining

def execute (fn : Prog α) (opts : RetryOptions) : Prog α := executeFrom fn opts 0 opts.maxRetries

end RetryService

namespace RetryPolicyService

/-- A partial policy. -/
structure PartialPolicy where
  maxRetries : Option ℕ := none
  baseDelayMs : Option ℕ := none
  maxDelayMs : Option ℕ := none
  jitter : Option Bool := none
  dlqLeaseSeconds : Option ℕ := none

/-- `Number(undefined)` is no integer, so a missing value is not overridden. -/
def positiveInteger (value : Option Json) : Option ℕ :=
  match value.bind Json.toNumber with
  | some q => if q.den = 1 ∧ 0 < q then some q.num.toNat else none
  | none => none

def normalizePolicy : Option Json → PartialPolicy
  | some (.obj raw) =>
    { maxRetries := positiveInteger (raw.lookup "maxRetries")
      baseDelayMs := positiveInteger (raw.lookup "baseDelayMs")
      maxDelayMs := positiveInteger (raw.lookup "maxDelayMs")
      jitter := match raw.lookup "jitter" with
        | some (.bool b) => some b
        | _ => none
      dlqLeaseSeconds := positiveInteger (raw.lookup "dlqLeaseSeconds") }
  | _ => {}

/-- `{ ...this, ...policy }`. -/
def override (base : TargetRetryPolicy) (policy : PartialPolicy) : TargetRetryPolicy where
  maxRetries := policy.maxRetries.getD base.maxRetries
  baseDelayMs := (policy.baseDelayMs.map fun n => (n : ℚ)).getD base.baseDelayMs
  maxDelayMs := (policy.maxDelayMs.map fun n => (n : ℚ)).getD base.maxDelayMs
  jitter := policy.jitter.getD base.jitter
  dlqLeaseSeconds := (policy.dlqLeaseSeconds.map fun n => (n : ℚ)).getD base.dlqLeaseSeconds

variable (app : App)

/-- The policy that the answer to the configuration lookup stands for. -/
def policyOf : Option Column → Except JsError TargetRetryPolicy
  | none => .ok { dlqLeaseSeconds := app.config.dlqLeaseSeconds }
  | some column =>
    match JsonHelper.fromJson app column with
    | .error e => .error e
    | .ok config =>
      .ok (override { dlqLeaseSeconds := app.config.dlqLeaseSeconds }
        (normalizePolicy (config.get? "retryPolicy")))

/-- A failing lookup counts as an unknown target; a configuration that cannot be read throws. -/
def forTarget (targetSystem : String) : Prog TargetRetryPolicy := do
  let item ← tryCatch (targetSystemConfig targetSystem) fun _ => pure none
  Async.ofExcept (policyOf app item)

end RetryPolicyService

end IdmMw
