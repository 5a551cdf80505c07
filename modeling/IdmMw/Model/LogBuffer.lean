import IdmMw.Library.Utf8
import IdmMw.Model.GroupMapping

/-!
# The log buffer

`RuntimeLogBuffer`: the last events that the middleware logged, as an administrator sees them, and
`LogBufferStream`, which the logger writes to.

* `BufferedLogEvent`, `normalize`: an event, and what is kept of a record;
* `append`, `clear`, `query`: the operations of the buffer;
* `LogBufferStream`: the bytes of the logger, line by line.

The readings of the clock are no part of the model: the time of an event that brings none is `none`,
and so is the text of the moment when it was received.
-/

namespace IdmMw

/-- Conversions of the language that the log needs. -/
structure LogRuntime extends Runtime where
  /-- `JSON.parse(text)`; `none` where it throws -/
  parse : String → Option Json
  /-- `new Date(time).toISOString()` -/
  isoText : ℚ → String

/-- `number | string` -/
inductive LogLevel
  | number (n : ℚ)
  | text (s : String)

structure BufferedLogEvent where
  id : ℕ
  /-- `none` for the moment when the event is received -/
  time : Option ℚ
  receivedAt : Option String
  level : LogLevel
  msg : Option String
  event : Option String
  diagnostic : Bool
  diagnosticLevel : Option String
  targetSystem : Option String
  context : Option String
  method : Option String
  path : Option String
  status : Option ℤ
  responseTime : Option ℚ
  details : Option (List (String × Json))

structure LogQuery where
  targetSystem : Option String
  level : Option String
  limit : Option Json

def MAX_LOG_EVENTS : ℕ := 10000

def SUMMARY_KEYS : List String :=
  ["time", "level", "msg", "event", "diagnostic", "diagnosticLevel", "targetSystem", "context",
    "method", "path", "status", "responseTime", "req", "res", "err"]

def DETAIL_KEYS : List String :=
  ["apiPath", "authMode", "baseUrlOrigin", "errorCode", "errorName", "eventId",
    "hasDefaultUserGroupId", "hasDescription", "hasEmail", "hasFirstNameLastName",
    "hasGroupsField", "hasPassword", "hasUserGroups", "hasUsername", "hints", "mode", "operation",
    "receivedAt", "requestSummary", "responseContentLength", "responseContentType",
    "responseSummary", "retrySessionAuth", "userGroupIds", "usernameLength"]

def LEVEL_BY_NUMBER : List (ℚ × String) :=
  [(10, "trace"), (20, "debug"), (30, "info"), (40, "warn"), (50, "error"), (60, "fatal")]

structure RuntimeLogBuffer where
  events : List BufferedLogEvent
  nextId : ℕ

namespace RuntimeLogBuffer

variable (js : LogRuntime)

/-- The buffer when the middleware starts. -/
def empty : RuntimeLogBuffer := ⟨[], 1⟩

/-! ### What is kept of a record -/

/-- `Math.trunc(x)` -/
def trunc (x : ℚ) : ℤ := if 0 ≤ x then ⌊x⌋ else ⌈x⌉

def stringValue : Option Json → Option String
  | some (.str value) => if trimmed value = [] then none else some value
  | _ => none

def numberValue : Option Json → Option ℚ
  | some (.num value) => some value
  | _ => none

def statusValue (value : Option Json) : Option ℤ := (numberValue value).map trunc

def logLevel : Option Json → LogLevel
  | some (.num value) => .number value
  | some (.str value) => .text value
  | _ => .text "info"

def safePath (value : Option Json) : Option String :=
  (stringValue value).map fun raw => String.ofList (raw.toList.takeWhile (· ≠ '?'))

/-- The property of an object that a record may have; nothing of another value. -/
def objectValue (value : Option Json) (key : String) : Option Json :=
  match value with
  | some (.obj fields) => fields.lookup key
  | _ => none

def requestMethod (value : Json) : Option String := stringValue (objectValue (value.get? "req") "method")

def requestPath (value : Json) : Option String := safePath (objectValue (value.get? "req") "url")

def responseStatus (value : Json) : Option ℤ :=
  statusValue (objectValue (value.get? "res") "statusCode")

def isDiagnostic (value : Json) : Bool :=
  match value.get? "diagnostic" with
  | some (.bool true) => true
  | _ => false

def details (value : Json) : Option (List (String × Json)) :=
  match value with
  | .obj fields =>
    if !isDiagnostic value then none
    else
      let kept := fields.filter fun field =>
        !SUMMARY_KEYS.contains field.1 && DETAIL_KEYS.contains field.1
      if kept.length > 0 then some kept else none
  | _ => none

/-- The event that `normalize` makes of a record, but for the moment of its time. -/
def normalizeAt (id : ℕ) (value : Json) (time : Option ℚ) : BufferedLogEvent where
  id := id
  time := time
  receivedAt := time.map js.isoText
  level := logLevel (value.get? "level")
  msg := stringValue (value.get? "msg")
  event := stringValue (value.get? "event")
  diagnostic := isDiagnostic value
  diagnosticLevel := stringValue (value.get? "diagnosticLevel")
  targetSystem := stringValue (value.get? "targetSystem")
  context := stringValue (value.get? "context")
  method := (stringValue (value.get? "method")).or (requestMethod value)
  path := (safePath (value.get? "path")).or (requestPath value)
  status := (statusValue (value.get? "status")).or (responseStatus value)
  responseTime := numberValue (value.get? "responseTime")
  details := details value

/-- Whether there is a date of that time, in milliseconds. -/
def isDate (time : ℚ) : Bool := |time| ≤ 8640000000000000

/-- What `normalize` makes of a record, and the identifier of the next event. -/
def normalize (nextId : ℕ) : Json → Except JsError BufferedLogEvent × ℕ
  | .null => (.error (.error "Cannot read properties of null"), nextId)
  | value =>
    -- the identifier is taken before the date is written
    match numberValue (value.get? "time") with
    | some time =>
      if isDate time then (.ok (normalizeAt js nextId value (some time)), nextId + 1)
      else (.error (.error "Invalid time value"), nextId + 1)
    | none => (.ok (normalizeAt js nextId value none), nextId + 1)

/-! ### The operations -/

/-- The events without the first that are too many. -/
def spliced (maxEvents : ℕ) (events : List BufferedLogEvent) : List BufferedLogEvent :=
  if events.length > maxEvents then events.drop (events.length - maxEvents) else events

/-- The event that is added, and the buffer with it. -/
def append (buffer : RuntimeLogBuffer) (value : Json) :
    Except JsError BufferedLogEvent × RuntimeLogBuffer :=
  match normalize js buffer.nextId value with
  | (.error e, nextId) => (.error e, { buffer with nextId := nextId })
  | (.ok event, nextId) =>
    (.ok event, { events := spliced MAX_LOG_EVENTS (buffer.events ++ [event]), nextId := nextId })

/-- The loop of `clear`, from the event before `index` down to the first. -/
def clearLoop (targetSystem : String) : ℕ → List BufferedLogEvent → ℕ → List BufferedLogEvent × ℕ
  | 0, events, cleared => (events, cleared)
  | index + 1, events, cleared =>
    if (events[index]?.bind (·.targetSystem)) = some targetSystem then
      clearLoop targetSystem index (events.eraseIdx index) (cleared + 1)
    else clearLoop targetSystem index events cleared

/-- How many events are cleared, and the buffer without them. -/
def clear (buffer : RuntimeLogBuffer) (targetSystem : Option String) : ℕ × RuntimeLogBuffer :=
  match targetSystem.bind nonBlank with
  | none => (buffer.events.length, ⟨[], 1⟩)
  | some targetSystem =>
    let (events, cleared) := clearLoop targetSystem buffer.events.length buffer.events 0
    (cleared, { buffer with events := events })

def normalizeLimit (value : Option Json) : ℤ :=
  match value.bind Json.toNumber with
  | none => 200
  | some parsed => min (max (trunc parsed) 1) 2000

def levelName : LogLevel → String
  | .number value => (LEVEL_BY_NUMBER.lookup value).getD (js.numberText value)
  | .text value => js.toLowerCase value

/-- The loop of `query`, from the event before `index` down to the first. -/
def queryLoop (targetSystem level : Option String) (limit : ℤ) (events : List BufferedLogEvent) :
    ℕ → List BufferedLogEvent → List BufferedLogEvent
  | 0, result => result
  | index + 1, result =>
    match events[index]? with
    | none => result
    | some event =>
      if targetSystem.isSome && event.targetSystem ≠ targetSystem then
        queryLoop targetSystem level limit events index result
      else if level.isSome && some (levelName js event.level) ≠ level then
        queryLoop targetSystem level limit events index result
      else if limit ≤ (result ++ [event]).length then result ++ [event]
      else queryLoop targetSystem level limit events index (result ++ [event])

def query (buffer : RuntimeLogBuffer) (query : LogQuery) : List BufferedLogEvent :=
  let limit := normalizeLimit query.limit
  let targetSystem := query.targetSystem.bind nonBlank
  -- a level that is blank selects nothing, like none
  let level := (query.level.bind nonBlank).map js.toLowerCase
  (queryLoop js targetSystem level limit buffer.events buffer.events.length []).reverse

end RuntimeLogBuffer

/-! ### The stream -/

/-- `pending`: the beginning of a line of which the end has not come. -/
structure LogBufferStream where
  pending : List Char

namespace LogBufferStream

variable (js : LogRuntime)

/-- The record for a line that is none: a message of level 30, at the moment when it is received. -/
def plainRecord (trimmed : List Char) : Json :=
  .obj [("level", .num 30), ("msg", .str (String.ofList trimmed))]

/-- What a line adds to the buffer: the events, and the buffer with them. -/
def appendLine (buffer : RuntimeLogBuffer) (line : List Char) :
    List BufferedLogEvent × RuntimeLogBuffer :=
  if trimChars line = [] then ([], buffer)
  else
    let plain := fun buffer : RuntimeLogBuffer =>
      match buffer.append js (plainRecord (trimChars line)) with
      | (.ok event, buffer) => ([event], buffer)
      | (.error _, buffer) => ([], buffer)
    match js.parse (String.ofList (trimChars line)) with
    | none => plain buffer
    | some value =>
      match buffer.append js value with
      | (.ok event, buffer) => ([event], buffer)
      | (.error _, buffer) => plain buffer

def appendLines : RuntimeLogBuffer → List (List Char) → List BufferedLogEvent × RuntimeLogBuffer
  | buffer, [] => ([], buffer)
  | buffer, line :: lines =>
    let (events, buffer) := appendLine js buffer line
    let (rest, buffer) := appendLines buffer lines
    (events ++ rest, buffer)

/-- What a chunk adds to the buffer. The chunk is decoded by itself. -/
def write (stream : LogBufferStream) (buffer : RuntimeLogBuffer) (chunk : List UInt8) :
    List BufferedLogEvent × LogBufferStream × RuntimeLogBuffer :=
  let pending := stream.pending ++ Utf8.decode chunk
  let lines := pending.splitOn '\n'
  let (events, buffer) := appendLines js buffer lines.dropLast
  (events, ⟨lines.getLastD []⟩, buffer)

/-- What the chunks add to the buffer, one after another. -/
def writeAll : LogBufferStream → RuntimeLogBuffer → List (List UInt8) →
    List BufferedLogEvent × LogBufferStream × RuntimeLogBuffer
  | stream, buffer, [] => ([], stream, buffer)
  | stream, buffer, chunk :: chunks =>
    let (events, stream, buffer) := write js stream buffer chunk
    let (rest, stream, buffer) := writeAll stream buffer chunks
    (events ++ rest, stream, buffer)

end LogBufferStream

end IdmMw
