import QueryWire.Expr.Tree
import QueryWire.Json.Printer

/-!
The wire format: an expression tree as JSON text. Where a tree cannot be written, the failure says
why; only a node without the method that is asked for, or one without any wire form, is another
fault.
-/

namespace QueryWire

namespace Value

def notCompliant : Fault :=
  .ambient .valueError "Out of range float values are not JSON compliant"

/-- A dict key as JSON writes it: numbers, booleans and null become texts. -/
def jsonKey : Value → Except Fault Text
  | .text key => .ok key
  | .int key => displayInt key
  | .float key => if key.isFinite then .ok key.toText else .error notCompliant
  | .bool key => .ok (if key then "true" else "false")
  | .null => .ok "null"
  | key => .error (.ambient .typeError
      ("keys must be str, int, float, bool or None, not " ++ Text.ofString key.operandName))

mutual

/-- Plain data as a JSON tree. Keys that become the same text are all kept. -/
def toJson : Value → Except Fault Json
  | .null => .ok .null
  | .bool value => .ok (.bool value)
  | .int value => if Numeral.fits value then .ok (.int value) else .error .tooManyDigits
  | .float value => if value.isFinite then .ok (.float value) else .error notCompliant
  | .text value => .ok (.text value)
  | .list items => do return .array (← toJsonItems items)
  | .tuple items => do return .array (← toJsonItems items)
  | .dict entries => do return .object (← toJsonMembers entries)
  | value => .error (.ambient .typeError
      ("Object of type " ++ Text.ofString value.typeName ++ " is not JSON serializable"))

def toJsonItems : List Value → Except Fault (List Json)
  | [] => .ok []
  | item :: items => do
    let first ← toJson item
    return first :: (← toJsonItems items)

def toJsonMembers : List (Value × Value) → Except Fault (List (Text × Json))
  | [] => .ok []
  | (key, value) :: entries => do
    let key ← jsonKey key
    let value ← toJson value
    return (key, value) :: (← toJsonMembers entries)

end

mutual

def ofJson : Json → Value
  | .null => .null
  | .bool value => .bool value
  | .int value => .int value
  | .float value => .float value
  | .text value => .text value
  | .array items => .list (ofJsonItems items)
  | .object members => .dict (ofJsonMembers members)

def ofJsonItems : List Json → List Value
  | [] => []
  | item :: items => ofJson item :: ofJsonItems items

def ofJsonMembers : List (Text × Json) → List (Value × Value)
  | [] => []
  | (key, value) :: members => (.text key, ofJson value) :: ofJsonMembers members

end

end Value

/-- What a type or value fault becomes when it stops a serialization; other faults stay. -/
def serializationFault : Fault → Fault
  | .refused kind message =>
    if kind.isA .typeError || kind.isA .valueError then
      .serialization ("Cannot serialize expression: " ++ message)
    else .refused kind message
  | .ambient kind message =>
    if kind.isA .typeError || kind.isA .valueError then
      .serialization ("Cannot serialize expression: " ++ message)
    else .ambient kind message
  | fault => fault

def serialize (value : Value) : Run Text :=
  tryCatch (do
    let node ← (← get).expr value
    let plain ← node.tree pure
    let json ← plain.toJson
    return json.render)
  fun fault => throw (serializationFault fault)

end QueryWire
