import QueryWire.Expr.Conversion
import QueryWire.Value.Display

/-!
Making and changing the builders of index and class parameters. A setter that refuses its argument
leaves the builder as it was; one that accepts it changes the one cell that all holders of the
builder share.
-/

namespace QueryWire

inductive Setter where
  | read
  | reverse
  | active
  | unique
  | serialized
  | terms
  | values
  | partitions
  | permissions
  | data
  | historyDays
  | ttlDays
deriving DecidableEq

namespace Setter

def default? : Setter → Option Value
  | .reverse | .active | .unique | .serialized => some (.bool true)
  | _ => none

def appliesTo : Setter → BuilderKind → Bool
  | .read, kind => kind == .indexPermission
  | .reverse, kind => kind == .indexValue
  | .active, kind | .unique, kind | .serialized, kind | .terms, kind | .values, kind
  | .partitions, kind => kind == .indexParams
  | .historyDays, kind | .ttlDays, kind => kind == .classParams
  | .permissions, kind | .data, kind => kind == .indexParams || kind == .classParams

end Setter

def maxPartitions : Int := 65535

def checkPartitions (argument : Value) : Run Int := do
  match argument with
  | .int count =>
    if 1 ≤ count ∧ count ≤ maxPartitions then return count
    let shown ← displayInt count
    throw (.refused .valueError
      ("Partitions must be between 1 and " ++ Numeral.ofInt maxPartitions ++ ", got " ++ shown))
  | argument =>
    let shown ← argument.display
    throw (.refused .typeError ("Partitions must be an integer, got " ++ shown))

def userData (argument : Value) : Run Value := do
  match argument with
  | .object fields => return .object fields
  | argument => (← Run.conversion).mapping argument

def IndexParams.set (params : IndexParams) (argument : Value) : Setter → Run IndexParams
  | .active => return { params with active := argument }
  | .unique => return { params with unique := argument }
  | .serialized => return { params with serialized := argument }
  | .terms => return { params with terms := some (← argument.collect) }
  | .values => return { params with values := some (← argument.collect) }
  | .partitions => do
    return { params with partitions := some (← checkPartitions argument) }
  | .permissions => return { params with permissions := argument }
  | .data => do
    let data ← userData argument
    return { params with data := some data }
  | _ => throw .noAttribute

def ClassParams.set (params : ClassParams) (argument : Value) : Setter → Run ClassParams
  | .historyDays => return { params with historyDays := argument }
  | .ttlDays => return { params with ttlDays := argument }
  | .permissions => return { params with permissions := argument }
  | .data => do
    let data ← userData argument
    return { params with data := some data }
  | _ => throw .noAttribute

def Builder.set (builder : Builder) (argument : Value) (setter : Setter) : Run Builder :=
  match builder, setter with
  | .indexValue source _, .reverse => return .indexValue source argument
  | .indexPermission _, .read => return .indexPermission argument
  | .indexParams params, setter => .indexParams <$> params.set argument setter
  | .classParams params, setter => .classParams <$> params.set argument setter
  | _, _ => throw .noAttribute

namespace Run

def adjust (handle : Nat) (setter : Setter) (argument : Value) : Run Unit := do
  let builder ← builderAt handle
  setBuilder handle (← builder.set argument setter)

def newTerm (source : Value) : Run Value := do return .term (← identity) source

def newIndexValue (source : Value) : Run Value := allocate (.indexValue source (.bool false))

def newIndexPermission : Run Value := allocate (.indexPermission .null)

/-- The source of an index is converted at once. -/
def newIndexParams (name source : Value) : Run Value := do
  let source ← (← conversion).expr source
  allocate (.indexParams { name, source })

def newClassParams (name : Value) : Run Value := allocate (.classParams { name })

end Run

/-- A path to a field: a sequence of segments, at least one, and not a single text. -/
def fieldSource (path : Value) : Run Value := do
  match path with
  | .text path =>
    throw (.refused .typeError
      ("Field path must be a sequence of segments, got " ++ Quoted.text path))
  | path =>
    let segments ← path.toTuple
    if !(← segments.truth) then throw (.refused .valueError "Field path must not be empty")
    Run.enclose (.fieldSource segments)

def bindingSource (name : Value) : Run Value := Run.enclose (.bindingSource name)

end QueryWire
