import QueryWire.Number.Binary64
import QueryWire.Text

/-!
JSON trees as they are written. Members keep their order, and nothing forbids a repeated key here;
integers and binary numbers are kept apart.
-/

namespace QueryWire

inductive Json where
  | null
  | bool (value : Bool)
  | int (value : Int)
  | float (value : Binary64)
  | text (value : Text)
  | array (items : List Json)
  | object (members : List (Text × Json))
deriving Inhabited

namespace Json

/-- Members in which a repeated key has its last value at its first place. -/
def insertMember (key : Text) (value : Json) : List (Text × Json) → List (Text × Json)
  | [] => [(key, value)]
  | (found, old) :: rest =>
    if found = key then (found, value) :: rest else (found, old) :: insertMember key value rest

end Json

end QueryWire
