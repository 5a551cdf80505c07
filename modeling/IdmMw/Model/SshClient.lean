import IdmMw.Model.LinuxConnector

/-!
# A command over SSH

The promise of `execSshWithInput`: a client of its own is connected for every command, and its events
settle the promise. Only what the handlers do is here; the events may come in any order, and an event
without a handler is lost.

* `SshEvent`: what the client and the stream of the command report;
* `SshCommand.step`: the handlers; the promise is settled once;
* `settlement`: what the promise is settled with, if it is.
-/

namespace IdmMw

inductive SshEvent
  /-- the client is connected, and `exec` is called -/
  | ready
  /-- the callback of `exec`: an error, or the stream of the command -/
  | exec (error : Option JsError)
  | stdout (chunk : String)
  | stderr (chunk : String)
  /-- the stream is closed: with an exit code, or with the signal that ended the command -/
  | close (code : Option ℕ) (signal : Option String)
  /-- an error of the connection -/
  | error (error : JsError)

/-- What the handlers of one command know. -/
structure SshCommand where
  /-- `exec` has been called -/
  executed : Bool
  /-- the stream has its handlers -/
  streaming : Bool
  stdout : String
  stderr : String
  settled : Option (Except JsError String)

namespace SshCommand

def connecting : SshCommand := ⟨false, false, "", "", none⟩

/-- `resolve` or `reject`: only the first counts. -/
def settle (command : SshCommand) (outcome : Except JsError String) : SshCommand :=
  { command with settled := command.settled.or (some outcome) }

/-- What the handler of `close` makes of the exit code. -/
def outcome (command : SshCommand) : Option ℕ → Except JsError String
  | some (code + 1) => .error (.error
      s!"SSH command failed with code {code + 1}: {trim command.stderr}")
  -- `code && code !== 0` does not hold of `0`, and neither of `null`
  | some 0 | none => .ok command.stdout

def step (command : SshCommand) : SshEvent → SshCommand
  | .ready => { command with executed := true }
  | .exec (some error) => if command.executed then command.settle (.error error) else command
  | .exec none => { command with streaming := command.streaming || command.executed }
  | .stdout chunk =>
    if command.streaming then { command with stdout := command.stdout ++ chunk } else command
  | .stderr chunk =>
    if command.streaming then { command with stderr := command.stderr ++ chunk } else command
  | .close code _ =>
    if command.streaming then command.settle (command.outcome code) else command
  | .error error => command.settle (.error error)

end SshCommand

/-- What the promise of a command is settled with, by the events. -/
def settlement (events : List SshEvent) : Option (Except JsError String) :=
  (events.foldl SshCommand.step SshCommand.connecting).settled

end IdmMw
