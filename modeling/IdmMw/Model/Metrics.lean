import IdmMw.Library.OrderedMap
import IdmMw.Model.Requests

/-!
# The metrics of processed events

`MetricsService` keeps the events of the last five minutes and counts them into plain objects, by
status and by target system. A plain object gives, for a name that it does not have, what
`Object.prototype` has under it: an object that is not the service's own.

* `Globals`: what has been set on those objects;
* `countSample`, `processedLast5MinutesRaw`: the counting of samples;
* `MetricsService`: the state; `recordEvent`, `processedLast5Minutes`, `run`;
* `AdminService.filteredProcessedLast5Minutes`: what an administrator of some targets is shown.

The order of the keys of an object is that in which they were first set, also for keys that look like
numbers.
-/

namespace IdmMw

deriving instance DecidableEq for EventStatus

def EventStatus.text : EventStatus → String
  | success => "success"
  | failed => "failed"

structure ProcessedEventSample where
  timestamp : ℚ
  status : EventStatus
  targetSystem : String

/-- `Record<string, number>` by status. -/
abbrev StatusCounts := List (EventStatus × ℕ)

/-- `Record<string, Record<string, number>>`: by target system, then by status. -/
abbrev TargetCounts := List (String × StatusCounts)

/-! ### Plain objects -/

/-- The names that a plain object inherits. -/
def inheritedNames : List String :=
  ["constructor", "__defineGetter__", "__defineSetter__", "hasOwnProperty", "__lookupGetter__",
    "__lookupSetter__", "isPrototypeOf", "propertyIsEnumerable", "toString", "valueOf", "__proto__",
    "toLocaleString"]

/-- What has been set on the objects that `{}[name]` gives for the inherited names, by name. Under
`__proto__` it is `Object.prototype` itself, from which all objects inherit. -/
abbrev Globals := List (String × StatusCounts)

namespace Globals

def ofObject (globals : Globals) (name : String) : StatusCounts := (globals.lookup name).getD []

/-- What every object inherits under the name of a status. -/
def inherited (globals : Globals) (status : EventStatus) : Option ℕ :=
  (globals.ofObject "__proto__").lookup status

/-- The number that a plain object inherits under a name. -/
def inheritedNumber (globals : Globals) (name : String) : Option ℕ :=
  if name = EventStatus.success.text then globals.inherited .success
  else if name = EventStatus.failed.text then globals.inherited .failed
  else none

end Globals

/-- `counts[status] = (counts[status] ?? 0) + 1` -/
def increment (globals : Globals) (counts : StatusCounts) (status : EventStatus) : StatusCounts :=
  OrderedMap.set counts status
    (((counts.lookup status <|> globals.inherited status).getD 0) + 1)

/-- `result[targetSystem] ??= {}`, and one more under the status. -/
def countSample (globals : Globals) (result : TargetCounts) (sample : ProcessedEventSample) :
    Except JsError TargetCounts × Globals :=
  match result.lookup sample.targetSystem with
  | some counts =>
    (.ok (OrderedMap.set result sample.targetSystem (increment globals counts sample.status)),
      globals)
  | none =>
    if sample.targetSystem ∈ inheritedNames then
      (.ok result, OrderedMap.set globals sample.targetSystem
        (increment globals (globals.ofObject sample.targetSystem) sample.status))
    else
      match globals.inheritedNumber sample.targetSystem with
      | some count => (.error (.error
          s!"Cannot create property '{sample.status.text}' on number '{count}'"), globals)
      | none =>
        (.ok (OrderedMap.set result sample.targetSystem (increment globals [] sample.status)),
          globals)

/-! ### The service -/

namespace MetricsService

/-- `5 * 60 * 1000` -/
def windowMs : ℚ := 300000

def processedLast5MinutesRaw (globals : Globals) (result : TargetCounts) :
    List ProcessedEventSample → Except JsError TargetCounts × Globals
  | [] => (.ok result, globals)
  | sample :: samples =>
    match countSample globals result sample with
    | (.ok result, globals) => processedLast5MinutesRaw globals result samples
    | (.error error, globals) => (.error error, globals)

end MetricsService

/-- The gauge and the counter have a value for each pair of labels. -/
structure MetricsService where
  processedWindow : List ProcessedEventSample
  eventsProcessed : TargetCounts
  eventsProcessedLast5m : TargetCounts
  globals : Globals

structure ProcessedLast5Minutes where
  total : ℕ
  byStatus : StatusCounts
  byTargetSystem : TargetCounts

namespace MetricsService

def initial : MetricsService := ⟨[], [], [], []⟩

/-- `now` is the reading of the clock. -/
def refreshProcessedWindow (metrics : MetricsService) (now : ℚ) :
    Except JsError Unit × MetricsService :=
  let window := metrics.processedWindow.dropWhile fun sample =>
    decide (sample.timestamp < now - windowMs)
  match processedLast5MinutesRaw metrics.globals [] window with
  | (.ok counts, globals) =>
    (.ok (), { metrics with
      processedWindow := window
      eventsProcessedLast5m := counts
      globals := globals })
  | (.error error, globals) =>
    (.error error, { metrics with
      processedWindow := window
      eventsProcessedLast5m := []
      globals := globals })

/-- `inc({ status, targetSystem })` -/
def inc (counts : TargetCounts) (status : EventStatus) (targetSystem : String) : TargetCounts :=
  OrderedMap.set counts targetSystem (increment [] ((counts.lookup targetSystem).getD []) status)

/-- `timestamp` and `now` are the readings of the clock. -/
def recordEvent (metrics : MetricsService) (status : EventStatus) (targetSystem : Option String)
    (timestamp now : ℚ) : Except JsError Unit × MetricsService :=
  let targetSystem := targetSystem.getD "unknown"
  refreshProcessedWindow { metrics with
    eventsProcessed := inc metrics.eventsProcessed status targetSystem
    processedWindow := metrics.processedWindow ++ [⟨timestamp, status, targetSystem⟩] } now

/-- The loop of `processedLast5Minutes`. -/
def countSamples (globals : Globals) (byStatus : StatusCounts) (byTargetSystem : TargetCounts) :
    List ProcessedEventSample → Except JsError (StatusCounts × TargetCounts) × Globals
  | [] => (.ok (byStatus, byTargetSystem), globals)
  | sample :: samples =>
    match countSample globals byTargetSystem sample with
    | (.ok byTargetSystem, globals') =>
      countSamples globals' (increment globals byStatus sample.status) byTargetSystem samples
    | (.error error, globals') => (.error error, globals')

def processedLast5Minutes (metrics : MetricsService) (now : ℚ) :
    Except JsError ProcessedLast5Minutes × MetricsService :=
  match refreshProcessedWindow metrics now with
  | (.error error, metrics) => (.error error, metrics)
  | (.ok (), metrics) =>
    match countSamples metrics.globals [] [] metrics.processedWindow with
    | (.error error, globals) => (.error error, { metrics with globals := globals })
    | (.ok (byStatus, byTargetSystem), globals) =>
      (.ok ⟨metrics.processedWindow.length, byStatus, byTargetSystem⟩,
        { metrics with globals := globals })

end MetricsService

/-- A call of the service, with the readings of the clock. -/
inductive MetricsCall
  | recordEvent (status : EventStatus) (targetSystem : Option String) (timestamp now : ℚ)
  | processedLast5Minutes (now : ℚ)

def MetricsCall.readings : MetricsCall → List ℚ
  | recordEvent _ _ timestamp now => [timestamp, now]
  | processedLast5Minutes now => [now]

/-- What the call records. -/
def MetricsCall.sample? : MetricsCall → Option ProcessedEventSample
  | recordEvent status targetSystem timestamp _ =>
    some ⟨timestamp, status, targetSystem.getD "unknown"⟩
  | processedLast5Minutes _ => none

namespace MetricsService

def step (metrics : MetricsService) : MetricsCall → MetricsService
  | .recordEvent status targetSystem timestamp now =>
    (metrics.recordEvent status targetSystem timestamp now).2
  | .processedLast5Minutes now => (metrics.processedLast5Minutes now).2

def run (calls : List MetricsCall) : MetricsService := calls.foldl step initial

end MetricsService

/-! ### What an administrator is shown -/

/-- `allowedTargetSystems` is `undefined` for an administrator of all targets. -/
def AdminService.filteredProcessedLast5Minutes (snapshot : ProcessedLast5Minutes)
    (allowedTargetSystems : Option (List String)) : ProcessedLast5Minutes :=
  match allowedTargetSystems with
  | none => snapshot
  | some allowed =>
    let byTargetSystem := snapshot.byTargetSystem.filter fun entry => allowed.contains entry.1
    let counted := (byTargetSystem.flatMap Prod.snd).foldl (fun counted entry =>
      (OrderedMap.set counted.1 entry.1 ((counted.1.lookup entry.1).getD 0 + entry.2),
        counted.2 + entry.2)) (([], 0) : StatusCounts × ℕ)
    ⟨counted.2, counted.1, byTargetSystem⟩

end IdmMw
