import QueryWire.Logging
import QueryWire.Picture
import QueryWire.Script.Evaluation

/-!
Sessions with the log: setting it up, asking for loggers and sending records through them. Each step
shows what was written meanwhile, and how the package logger stands after it.
-/

namespace QueryWire.Logging

variable [Platform]

inductive Step where
  | setup (level propagate : Option Script)
  /-- Asks for a logger; without a name, for the package logger. -/
  | get (name : Option Script)
  | log (name : Option Script) (level : Int) (message : Text)
  /-- Puts a collecting handler on the root, or removes it. -/
  | rootHandler (on : Bool)
  /-- Removes the handlers of the package logger. -/
  | clear

structure Answer where
  outcome : Outcome
  emission : Emission := {}
  /-- The package logger after the step. -/
  level : Picture
  propagate : Outcome
  handlers : List Handler

structure Session where
  store : Store := .empty
  logging : Logging := .initial

namespace Session

def argument (default : Value) : Option Script → Run Value
  | none => return default
  | some script => script.eval []

def loggerPicture (logging : Logging) (logger : Logger) : Run Picture := do
  let level ← (logging.effectiveLevel logger).toValue.picture
  return .list [.text logger.name, level, .bool (← logging.hasHandlers logger)]

abbrev Taken := Except Fault Picture × Emission × Logging

def setup (logging : Logging) (level propagate : Option Script) : StateM Store Taken := do
  let arguments : Run (Value × Value) := do
    let level ← argument (.text "INFO") level
    return (level, ← argument (.bool false) propagate)
  match ← arguments.run with
  | .error fault => return (.error fault, {}, logging)
  | .ok (level, propagate) =>
    let logged ← logging.setup level propagate
    return (logged.verdict.map fun _ => .text packageName, logged.emission, logged.logging)

def find (logging : Logging) (name : Option Script) : Run (Logging × Logger) := do
  logging.logger (← argument .null name)

def use (logging : Logging) (name : Option Script) (record : Option (Int × Text)) :
    StateM Store Taken := do
  match ← (find logging name).run with
  | .error fault => return (.error fault, {}, logging)
  | .ok (logging, logger) =>
    let logged : Logged :=
      match record with
      | some (level, message) => logging.send logger level message
      | none => { logging }
    match logged.verdict with
    | .error fault => return (.error fault, logged.emission, logged.logging)
    | .ok () =>
      return (← (loggerPicture logged.logging logger).run, logged.emission, logged.logging)

def take (logging : Logging) : Step → StateM Store Taken
  | .setup level propagate => setup logging level propagate
  | .get name => use logging name none
  | .log name level message => use logging name (some (level, message))
  | .rootHandler on => return (.ok .null, {}, { logging with rootHandler := on })
  | .clear => return (.ok .null, {}, logging.clear)

def answer (logging : Logging) (step : Step) : StateM Store (Answer × Logging) := do
  let (result, emission, logging) ← take logging step
  let outcome ←
    match result with
    | .ok picture => pure (.completed picture)
    | .error fault => Outcome.ofFault fault
  let propagate ← Outcome.ofPicture logging.propagate.picture
  let level :=
    match logging.level with
    | .number n => .int n
    | .flag value => .bool value
  return ({ outcome, emission, level, propagate, handlers := logging.handlers }, logging)

def run : Session → List Step → List Answer
  | _, [] => []
  | session, step :: rest =>
    let ((answer, logging), store) := (answer session.logging step).run session.store
    answer :: run { store, logging } rest

end Session

def runSteps (steps : List Step) : List Answer := Session.run {} steps

end QueryWire.Logging
