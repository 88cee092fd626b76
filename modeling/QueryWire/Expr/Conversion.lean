import QueryWire.Value.Iteration

/-!
Conversion of values into expression nodes. Nodes stay as they are, plain data becomes literals,
arrays and objects, and what has a form of its own gives that form, as it is. Builders give a
snapshot: a node that later changes to the builder do not reach.
-/

namespace QueryWire

/-- What a conversion goes by, all through the value that is converted. -/
structure Conversion (m : Type → Type) where
  /-- What is done with each collection and node that is made. Those that a program holds get their
  identities here; those that go on the wire at once stay as they are. -/
  keep : Value → m Value
  /-- The current form of the builder with a given handle. -/
  snapshot : Nat → m Value

def Value.notConvertible (value : Value) : Fault :=
  .refused .typeError
    ("Cannot convert " ++ Text.ofString value.typeName ++ " to an expression")

namespace Conversion

variable {m : Type → Type} [Monad m]

def literal (conversion : Conversion m) (value : Value) : m Value :=
  conversion.keep (.literal value)

def array (conversion : Conversion m) (items : List Value) : m Value := do
  conversion.keep (.array (← conversion.keep (.tuple items)))

def pair (conversion : Conversion m) (key value : Value) : m Value :=
  conversion.keep (.tuple [key, value])

def object (conversion : Conversion m) (pairs : List Value) : m Value := do
  conversion.keep (.object (← conversion.keep (.tuple pairs)))

def record (conversion : Conversion m) (fields : List (Text × Value)) : m Value := do
  conversion.object (← fields.mapM fun (key, value) => conversion.pair (.text key) value)

variable [MonadExcept Fault m]

def sourceField (conversion : Conversion m) : Value → m (Text × Value)
  | .fieldSource (.tuple path) => do
    return ("field", ← conversion.array (← path.mapM conversion.literal))
  | .bindingSource name => do return ("binding", ← conversion.literal name)
  | _ => throw Fault.noAttribute

/-- The form that a value defines for itself, which need not be a node. -/
def form (conversion : Conversion m) : Value → m Value
  | .term _ source => do conversion.record [← conversion.sourceField source]
  | .builder _ handle _ => conversion.snapshot handle
  | .foreign _ form true => return form
  | .foreign _ form false => throw (Fault.notCallable form)
  | _ => throw Fault.noAttribute

mutual

def expr (conversion : Conversion m) : Value → m Value
  | .null => conversion.literal .null
  | .bool value => conversion.literal (.bool value)
  | .int value => conversion.literal (.int value)
  | .float value => conversion.literal (.float value)
  | .text value => conversion.literal (.text value)
  | .list items => do conversion.array (← exprItems conversion items)
  | .tuple items => do conversion.array (← exprItems conversion items)
  | .dict entries => do conversion.object (← exprFields conversion entries)
  | .view entries => do conversion.object (← exprFields conversion entries)
  | .term identity source => conversion.form (.term identity source)
  | .builder _ handle _ => conversion.snapshot handle
  | .foreign _ form true => return form
  | value => if value.isNode then return value else throw value.notConvertible

def exprItems (conversion : Conversion m) : List Value → m (List Value)
  | [] => return []
  | item :: items => do
    let first ← expr conversion item
    return first :: (← exprItems conversion items)

/-- Keys stay as they are; they are judged on the wire only. -/
def exprFields (conversion : Conversion m) : List (Value × Value) → m (List Value)
  | [] => return []
  | (key, value) :: entries => do
    let first ← conversion.pair key (← expr conversion value)
    return first :: (← exprFields conversion entries)

end

def mapping (conversion : Conversion m) : Value → m Value
  | .dict entries | .view entries => do
    conversion.object (← conversion.exprFields entries)
  | .array items => throw (Fault.notCallable items)
  | _ => throw Fault.noAttribute

def literalField (conversion : Conversion m) (key : Text) (value : Value) : m (Text × Value) := do
  return (key, ← conversion.literal value)

def formsField (conversion : Conversion m) (key : Text) :
    Option (List Value) → m (List (Text × Value))
  | none => return []
  | some items => do return [(key, ← conversion.array (← items.mapM conversion.form))]

def fieldUnlessNull (key : Text) (convert : Value → m Value) : Value → m (List (Text × Value))
  | .null => return []
  | value => do return [(key, ← convert value)]

end Conversion

def optionalField (key : Text) : Option Value → List (Text × Value)
  | none => []
  | some value => [(key, value)]

section

variable {m : Type → Type} [Monad m] [MonadExcept Fault m]

def IndexParams.form (conversion : Conversion m) (params : IndexParams) : m Value := do
  let name ← conversion.literalField "name" params.name
  let active ← conversion.literalField "active" params.active
  let unique ← conversion.literalField "unique" params.unique
  let serialized ← conversion.literalField "serialized" params.serialized
  let terms ← conversion.formsField "terms" params.terms
  let values ← conversion.formsField "values" params.values
  let partitions ←
    match params.partitions with
    | none => pure []
    | some count => pure [← conversion.literalField "partitions" (.int count)]
  let permissions ← Conversion.fieldUnlessNull "permissions" conversion.form params.permissions
  let always : List (Text × Value) :=
    [name, ("source", params.source), active, unique, serialized]
  conversion.record <|
    always ++ terms ++ values ++ partitions ++ permissions ++ optionalField "data" params.data

/-- The parameters as an object node; fields that are null are left out. -/
def ClassParams.form (conversion : Conversion m) (params : ClassParams) : m Value := do
  let name ← conversion.literalField "name" params.name
  let history ←
    Conversion.fieldUnlessNull "history_days" conversion.literal params.historyDays
  let ttl ← Conversion.fieldUnlessNull "ttl_days" conversion.literal params.ttlDays
  let permissions ← Conversion.fieldUnlessNull "permissions" conversion.form params.permissions
  conversion.record <|
    name :: history ++ ttl ++ permissions ++ optionalField "data" params.data

def Builder.form (conversion : Conversion m) : Builder → m Value
  | .indexValue source reverse => do
    let field ← conversion.sourceField source
    conversion.record [field, ← conversion.literalField "reverse" reverse]
  | .indexParams params => params.form conversion
  | .classParams params => params.form conversion
  | .indexPermission .null => conversion.record []
  | .indexPermission read => conversion.record [("read", read)]

namespace Store

/-- Snapshots through at most `fuel` builders within one another. -/
def snapshotWithin (store : Store) (keep : Value → m Value) : (fuel : Nat) → Nat → m Value
  | 0, _ => throw Fault.tooDeep
  | fuel + 1, handle =>
    match store.builders[handle]? with
    | some builder => builder.form ⟨keep, store.snapshotWithin keep fuel⟩
    | none => throw Fault.noAttribute

/-- Conversion by what is in the store now. A chain of builders longer than there are builders meets
one of them twice, and never ends. -/
def conversion (store : Store) (keep : Value → m Value) : Conversion m :=
  ⟨keep, store.snapshotWithin keep store.builders.length⟩

def expr (store : Store) (value : Value) : Except Fault Value := (store.conversion pure).expr value

end Store

end

/-- Conversion by what is in the store now, into nodes that have identities where they need them. -/
def Run.conversion : Run (Conversion Run) := do return (← store).conversion enclose

/-- The object node of a sequence of pairs; repeated keys are kept. -/
def Value.objectOfPairs (pairs : Value) : Run Value := do
  let conversion ← Run.conversion
  let iteration ← pairs.iteration
  let fields ← iteration.forEach fun item => do
    let (key, value) ← item.unpackPair
    conversion.pair key (← conversion.expr value)
  conversion.object fields

end QueryWire
