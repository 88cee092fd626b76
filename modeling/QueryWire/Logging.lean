import QueryWire.Value.Display
import QueryWire.Value.Equality

/-!
The log of the library. Loggers form a tree under the root by the dots in their names; the package
logger has handlers, a level and a flag of its own, and those below it inherit. A record that is
accepted goes to the handlers on its way up, and if there are none at all, serious ones are written
bare. The flag may be a value that counts neither as true nor as false, which shows where it is
asked for.
-/

namespace QueryWire

variable [Platform]

inductive Handler where
  | silent
  /-- Writes a line for each record to the error stream. -/
  | stream
deriving DecidableEq

def Handler.name : Handler → String
  | .silent => "NullHandler"
  | .stream => "StreamHandler"

/-- A level as it was set; a flag counts as zero or one. -/
inductive Threshold where
  | number (n : Int)
  | flag (value : Bool)

namespace Threshold

def toInt : Threshold → Int
  | .number n => n
  | .flag value => if value then 1 else 0

def toValue : Threshold → Value
  | .number n => .int n
  | .flag value => .bool value

end Threshold

inductive Logger where
  | root
  | named (name : Text)
deriving DecidableEq

def packageName : Text := "faunaquery"

/-- The state of all loggers. Only the package logger and the root have any of their own. -/
structure Logging where
  level : Threshold := .number 0
  propagate : Value := .bool true
  handlers : List Handler := [.silent]
  /-- Whether records that reach the root are collected there. -/
  rootHandler : Bool := false
  /-- The names of the loggers that have been asked for. The client asks for its own at once. -/
  known : List Text := [packageName, "faunaquery.client"]
  /-- Which levels loggers were found to accept or not since the level of the package was set. -/
  decided : List ((Logger × Int) × Bool) := []

structure Emission where
  stderr : Text := []
  root : List Text := []

def Logger.package : Logger := .named packageName

def Logger.name : Logger → Text
  | .root => "root"
  | .named name => name

def Logger.ofName (name : Text) : Logger :=
  if name.isEmpty ∨ name = "root" then .root else .named name

/-- The level of the root, and the least level of records that are written without any handler. -/
def warningLevel : Int := 30

def debugLevel : Int := 10

/-- The names of levels; of two names for one level the first is printed. -/
def levelNames : List (String × Int) :=
  [("CRITICAL", 50), ("FATAL", 50), ("ERROR", 40), ("WARNING", 30), ("WARN", 30), ("INFO", 20),
    ("DEBUG", 10), ("NOTSET", 0)]

def levelName (level : Int) : Text :=
  match levelNames.find? fun entry => entry.2 == level with
  | some (name, _) => name
  | none => "Level " ++ Numeral.ofInt level

def levelOfName? (name : Text) : Option Int :=
  (levelNames.find? fun entry => Text.ofString entry.1 == name).map Prod.snd

/-- The names that may be above a name, nearest first, at most `fuel` of them: what stands before
its last dot, and so on. A dot right before the one that was cut at is passed over. -/
def namesAbove : (fuel : Nat) → Text → List Text
  | 0, _ => []
  | fuel + 1, name =>
    match Text.cutLast? '.' name with
    | none | some ([], _) => []
    | some (before, _) => before :: namesAbove fuel before.dropLast

/-- Whether the way from a name to the root, in at most `fuel` steps, passes the package logger. A
logger's parent is the nearest name above it that is known. -/
def passesPackage (known : List Text) : (fuel : Nat) → Text → Bool
  | 0, name => name == packageName
  | fuel + 1, name =>
    name == packageName ||
      match (namesAbove name.length name).find? known.contains with
      | some parent => passesPackage known fuel parent
      | none => false

namespace Logging

def initial : Logging := {}

def isWithinPackage (logging : Logging) : Logger → Bool
  | .root => false
  | .named name => passesPackage logging.known name.length name

def effectiveLevel (logging : Logging) (logger : Logger) : Threshold :=
  if logging.isWithinPackage logger && logging.level.toInt ≠ 0 then logging.level
  else .number warningLevel

def packageHandlers (logging : Logging) (logger : Logger) : List Handler :=
  if logging.isWithinPackage logger then logging.handlers else []

def reachesRoot (logging : Logging) (logger : Logger) : Except Fault Bool :=
  if logging.isWithinPackage logger then logging.propagate.truth else .ok true

def hasHandlers (logging : Logging) (logger : Logger) : Except Fault Bool :=
  if (logging.packageHandlers logger).isEmpty then do
    return (← logging.reachesRoot logger) && logging.rootHandler
  else .ok true

/-- Whether a level reaches that of a logger. Levels of zero and below never do. -/
def reaches (logging : Logging) (logger : Logger) (level : Int) : Bool :=
  decide (0 < level) && decide ((logging.effectiveLevel logger).toInt ≤ level)

/-- Whether a logger accepts a level. What was found once is not looked at again, even if the logger
has got another parent meanwhile. -/
def accepts (logging : Logging) (logger : Logger) (level : Int) : Bool :=
  (logging.decided.lookup (logger, level)).getD (logging.reaches logger level)

/-- The line of the stream handler; the time is left open. -/
def streamLine (logger : Logger) (level : Int) (message : Text) : Text :=
  "TIME [" ++ levelName level ++ "] " ++ logger.name ++ ": " ++ message ++ "\n"

def rootLine (logger : Logger) (level : Int) (message : Text) : Text :=
  logger.name ++ " " ++ levelName level ++ " " ++ message

def handled (logger : Logger) (level : Int) (message : Text) : Handler → Text
  | .silent => []
  | .stream => streamLine logger level message

/-- Hands a record to the handlers on its way up. Those of the package come before its flag is asked
for. -/
def deliver (logging : Logging) (logger : Logger) (level : Int) (message : Text) :
    Emission × Except Fault Unit :=
  let handlers := logging.packageHandlers logger
  let lines := handlers.flatMap (handled logger level message)
  match logging.reachesRoot logger with
  | .error fault => ({ stderr := lines }, .error fault)
  | .ok upward =>
    if upward && logging.rootHandler then
      ({ stderr := lines, root := [rootLine logger level message] }, .ok ())
    else if handlers.isEmpty && decide (warningLevel ≤ level) then
      ({ stderr := message ++ "\n" }, .ok ())
    else ({ stderr := lines }, .ok ())

end Logging

structure Logged where
  logging : Logging
  emission : Emission := {}
  verdict : Except Fault Unit := .ok ()

namespace Logging

/-- Sends a record through a logger. There is no record of a level that is too long to be named. -/
def send (logging : Logging) (logger : Logger) (level : Int) (message : Text) : Logged :=
  let accepted := logging.accepts logger level
  let logging := { logging with decided := ((logger, level), accepted) :: logging.decided }
  if accepted then
    if Numeral.fits level then
      let (emission, verdict) := logging.deliver logger level message
      { logging, emission, verdict }
    else { logging, verdict := .error .tooManyDigits }
  else { logging }

def remember (logging : Logging) : Logger → Logging
  | .root => logging
  | .named name => { logging with known := name :: logging.known }

/-- The logger of a name, known from then on. Null is the package logger, an empty name the root. -/
def logger (logging : Logging) (name : Value) : Except Fault (Logging × Logger) := do
  match name with
  | .null => return (logging.remember .package, .package)
  | .text name => return (logging.remember (.ofName name), .ofName name)
  | name =>
    if ← name.truth then throw (.ambient .typeError [])
    return (logging, .root)

/-- The level that a name stands for. A name is what equals its own plain form. -/
def readLevelName (level : Value) : Run Threshold := do
  let name ← level.plain
  if ← (Value.text name).eq level then
    match levelOfName? name with
    | some n => return .number n
    | none => throw (.ambient .valueError [])
  else
    let _ ← level.display
    throw (.ambient .typeError [])

def readLevel : Value → Run Threshold
  | .int n => return .number n
  | .bool value => return .flag value
  | level => readLevelName level

def clear (logging : Logging) : Logging := { logging with handlers := [] }

def installHandler (logging : Logging) : Except Fault Logging := do
  let logging := if ← logging.hasHandlers .package then logging.clear else logging
  return { logging with handlers := logging.handlers ++ [.stream] }

/-- Sends the records of the package to the error stream. The handler is installed before the level
is looked at, and a level that is refused leaves it there. The level is announced at last; of one
that is too long to be shown nothing is. -/
def setup (logging : Logging) (level propagate : Value) : StateM Store Logged := do
  match logging.installHandler with
  | .error fault => return { logging, verdict := .error fault }
  | .ok logging =>
    match ← (readLevel level).run with
    | .error fault => return { logging, verdict := .error fault }
    | .ok threshold =>
      let logging := { logging with level := threshold, propagate, decided := [] }
      match ← level.plain.run with
      | .error _ => return { logging.send .package debugLevel [] with emission := {} }
      | .ok shown =>
        return logging.send .package debugLevel ("Logging initialized at level: " ++ shown)

end Logging

end QueryWire
