import QueryWire.Builder
import QueryWire.Expr.Tree
import QueryWire.Response
import QueryWire.Response.Errors

/-!
Fields and methods of values. Nodes, responses and failures have the parts they are made of;
builders have setters, each of which gives the builder itself; nodes have plain data, and what can
be converted has a form.
-/

namespace QueryWire

variable [Platform]

inductive Field where
  | value
  | items
  | fields
  | id
  | parent
  | verb
  | argument
  | resource
  | ref
  | timestamp
  | data
  | code
  | description
  | position
  | errors
  | codes
  | firstCode
  | message
  /-- What a failure was made with, as a tuple. -/
  | parts
  | body
  | status
  | form
  /-- One that no value has. -/
  | unknown
deriving DecidableEq

inductive Method where
  | set (setter : Setter)
  /-- The plain data of a node. -/
  | tree
  /-- The form of what can be converted. -/
  | form
  /-- A field that is called like a method. -/
  | field (field : Field)
deriving DecidableEq

namespace Value

def failureField : Failure Value → Field → Except Fault Value
  | cause, .message => .ok cause.message
  | cause, .code => .ok cause.code
  | .badRequest _ _ reported, .errors => .ok reported
  | .notFound _ _ reported, .errors => .ok reported
  | .database _ content _, .body => .ok content
  | .database _ _ status, .status => .ok status
  | _, _ => .error .noAttribute

def readField (value : Value) (field : Field) : Run Value := do
  match value, field with
  | .literal value, .value => return value
  | .array items, .items => return items
  | .object fields, .fields => return fields
  | .ref id _, .id => return id
  | .ref _ parent, .parent => return parent
  | .query _ verb _, .verb => return verb
  | .query _ _ argument, .argument => return argument
  | .level value, .value => return value
  | .response resource, .resource => return resource
  | .response resource, .ref => resource.resourceRef
  | .response resource, .timestamp => return resource.resourceTimestamp
  | .response resource, .data => return resource.resourceData
  | .errorDetail code _ _, .code => return code
  | .errorDetail _ description _, .description => return description
  | .errorDetail _ _ position, .position => return position
  | .errors details, .errors => return details
  | .errors details, .codes => details.codes
  | .errors details, .firstCode => details.firstCode
  | .foreign _ form false, .form => return form
  | .failure own cause, .parts => return (Value.tuple [cause.message]).withIdentity own 0
  | .failure _ cause, field => failureField cause field
  | _, _ => throw .noAttribute

def setterArgument (setter : Setter) : List Value → Except Fault Value
  | [argument] => .ok argument
  | [] =>
    match setter.default? with
    | some value => .ok value
    | none => .error .badCall
  | _ => .error .badCall

/-- Calls a setter of a builder. Only responses have something else under the name of a setter. -/
def callSetter (value : Value) (setter : Setter) (arguments : List Value) : Run Value :=
  match value, setter with
  | .builder kind handle _, setter => do
    if !setter.appliesTo kind then throw .noAttribute
    Run.adjust handle setter (← setterArgument setter arguments)
    return value
  | .response resource, .data => throw (.notCallable resource.resourceData)
  | _, _ => throw .noAttribute

def hasForm : Value → Bool
  | .term .. | .builder .. | .foreign .. => true
  | _ => false

def nullary (present : Bool) (arguments : List Value) (body : Run Value) : Run Value :=
  if !present then throw .noAttribute
  else if !arguments.isEmpty then throw .badCall
  else body

def callMethod (value : Value) (method : Method) (arguments : List Value) : Run Value :=
  match method with
  | .set setter => value.callSetter setter arguments
  | .tree => nullary value.isNode arguments (value.tree Run.enclose)
  | .form => nullary value.hasForm arguments do (← Run.conversion).form value
  | .field field => do throw (.notCallable (← value.readField field))

end Value

end QueryWire
