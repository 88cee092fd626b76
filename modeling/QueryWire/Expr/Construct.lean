import QueryWire.Expr.Conversion

/-!
The function calls of the query language. Each one converts its argument when it is made, so that a
builder can be changed and used again afterwards.
-/

namespace QueryWire.Construct

variable {m : Type → Type} [Monad m]

def call (construct : Construct) (conversion : Conversion m) (argument : Value) : m Value :=
  conversion.keep (.query construct (.text construct.verb) argument)

variable [MonadExcept Fault m]

def newIndex (conversion : Conversion m) (params : Value) : m Value := do
  createIndex.call conversion (← conversion.form params)

def newClass (conversion : Conversion m) (params : Value) : m Value := do
  createClass.call conversion (← conversion.form params)

/-- Creates a child database; an api version and data are left out when they are null. -/
def newDatabase (conversion : Conversion m) (name apiVersion data : Value) : m Value := do
  let data ← Conversion.fieldUnlessNull "data" conversion.mapping data
  let name : Text × Value := ("name", ← conversion.expr name)
  let apiVersion ← Conversion.fieldUnlessNull "api_version" conversion.expr apiVersion
  createDatabase.call conversion (← conversion.record (name :: apiVersion ++ data))

def newGet (conversion : Conversion m) (ref : Value) : m Value := do
  get.call conversion (← conversion.expr ref)

def newDelete (conversion : Conversion m) (ref : Value) : m Value := do
  delete.call conversion (← conversion.expr ref)

end QueryWire.Construct
