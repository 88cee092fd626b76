import QueryWire.Expr.Wire
import QueryWire.Response
import QueryWire.Response.Errors

/-!
Pictures: what can be seen of a value from outside. A node shows its fields, a builder the text it
would have on the wire, and a fault its kind and what it has to tell. Taking a picture can change
the store, since a builder that reads a one-shot sequence reads it for its picture too.
-/

namespace QueryWire

variable [Platform]

inductive Picture where
  | null
  | bool (value : Bool)
  | int (value : Int)
  | float (text : Text)
  | text (value : Text)
  | bytes (value : Octets)
  | list (items : List Picture)
  | tuple (items : List Picture)
  | dict (entries : List (Picture × Picture))
  | node (kind : String) (fields : List (String × Picture))
  | builder (kind : String) (wire : Text)
  /-- A builder without a text on the wire, and the fault that says why. -/
  | brokenBuilder (kind : String) (fault : Picture)
  | fault (kind : String) (details : List (String × Picture))
  /-- A failure that is held as a value and not raised. -/
  | failure (fault : Picture)
  | other (typeName : String)

namespace Value

mutual

def depth : Value → Nat
  | .list items | .tuple items | .set items | .cursor _ items => depthOfItems items + 1
  | .dict entries | .view entries => depthOfEntries entries + 1
  | .literal part | .array part | .object part | .level part | .response part | .errors part
  | .fieldSource part | .bindingSource part | .term _ part | .foreign _ part _ => depth part + 1
  | .ref id parent => max (depth id) (depth parent) + 1
  | .query _ verb argument => max (depth verb) (depth argument) + 1
  | .errorDetail code description position =>
    max (depth code) (max (depth description) (depth position)) + 1
  | .failure _ cause => depthOfFailure cause + 1
  | _ => 0

def depthOfItems : List Value → Nat
  | [] => 0
  | item :: items => max (depth item) (depthOfItems items)

def depthOfEntries : List (Value × Value) → Nat
  | [] => 0
  | (key, value) :: entries => max (max (depth key) (depth value)) (depthOfEntries entries)

def depthOfFailure : Failure Value → Nat
  | .plain _ message code => max (depth message) (depth code)
  | .unauthorized message => depth message
  | .emptyResponse message => depth message
  | .badRequest _ code reported => max (depth code) (depth reported)
  | .notFound _ code reported => max (depth code) (depth reported)
  | .database _ body status => max (depth body) (depth status)

end

def failureFields : Failure Value → List (String × Value)
  | .badRequest message code reported | .notFound message code reported =>
    [("message", .text message), ("code", code), ("errors", reported)]
  | .database message body status =>
    [("message", .text message), ("code", .null), ("body", body), ("status", status)]
  | cause => [("message", cause.message), ("code", cause.code)]

def pictureFields (picture : Value → Run Picture) (fields : List (String × Value)) :
    Run (List (String × Picture)) :=
  fields.mapM fun (name, value) => do return (name, ← picture value)

def failurePicture (picture : Value → Run Picture) (cause : Failure Value) : Run Picture := do
  return .fault cause.name (← pictureFields picture (failureFields cause))

def faultPicture (picture : Value → Run Picture) : Fault → Run Picture
  | .failure cause => failurePicture picture cause
  | .refused kind message => return .fault kind.name [("message", .text message)]
  | .ambient kind _ => return .fault kind.name []

def builderPicture (picture : Value → Run Picture) (value : Value) : Run Picture :=
  tryCatch (do return .builder value.typeName (← serialize value)) fun fault => do
    return .brokenBuilder value.typeName (← faultPicture picture fault)

def errorsPicture (picture : Value → Run Picture) (details : Value) : Run Picture := do
  let iteration ← details.iteration
  let entries ← iteration.forEach picture
  let codes ← picture (← details.codes)
  let first ← picture (← details.firstCode)
  let count ← details.length
  let text ← (Value.errors details).plain
  return .node "FaunaErrors" [("errors", .list entries), ("codes", codes), ("first_code", first),
    ("len", .int count), ("text", .text text)]

def pictureWithin : (fuel : Nat) → Value → Run Picture
  | _, .null => return .null
  | _, .bool value => return .bool value
  | _, .int value => return .int value
  | _, .float value => return .float value.toText
  | _, .text value => return .text value
  | _, .bytes value => return .bytes value
  | 0, value => return .other value.typeName
  | fuel + 1, value => do
    let picture := pictureWithin fuel
    let node (fields : List (String × Value)) : Run Picture := do
      return .node value.typeName (← pictureFields picture fields)
    match value with
    | .list items => return .list (← items.mapM picture)
    | .tuple items => return .tuple (← items.mapM picture)
    | .dict entries =>
      return .dict (← entries.mapM fun (key, value) => do
        let key ← picture key
        return (key, ← picture value))
    | .literal value => node [("value", value)]
    | .array items => node [("items", items)]
    | .object fields => node [("fields", fields)]
    | .ref id parent => node [("id", id), ("class_ref", parent)]
    | .query _ verb argument => node [("verb", verb), ("argument", argument)]
    | .level value => node [("value", value)]
    | .errorDetail code description position =>
      node [("code", code), ("description", description), ("position", position)]
    | .response resource =>
      node [("resource", resource), ("ref", ← resource.resourceRef),
        ("ts", resource.resourceTimestamp), ("data", resource.resourceData)]
    | .errors details => errorsPicture picture details
    | .term .. | .builder .. => builderPicture picture value
    | .failure _ cause => return .failure (← failurePicture picture cause)
    | value => return .other value.typeName

def picture (value : Value) : Run Picture := pictureWithin (value.depth + 1) value

end Value

def Fault.picture (fault : Fault) : Run Picture := Value.faultPicture Value.picture fault

inductive Outcome where
  | completed (picture : Picture)
  | failed (picture : Picture)

namespace Outcome

/-- The picture of a fault; one that cannot be taken shows nothing. -/
def ofFault (fault : Fault) : StateM Store Outcome := do
  match ← fault.picture.run with
  | .ok picture => return failed picture
  | .error _ => return failed (.other "")

def ofPicture (picture : Run Picture) : StateM Store Outcome := do
  match ← picture.run with
  | .ok picture => return completed picture
  | .error fault => ofFault fault

def ofResult : Except Fault Value → StateM Store Outcome
  | .ok value => ofPicture value.picture
  | .error fault => ofFault fault

end Outcome

end QueryWire
