import QueryWire.Value.Display

/-!
References to classes, databases, indexes, functions and instances, and their reading from the data
of a response. A reference is an id below a parent, which is a reference again or null.
-/

namespace QueryWire

namespace Value

def refWithin (collection : String) (name : Value) : Value :=
  .ref name (.ref (.text collection) .null)

def classRef (name : Value) : Value := refWithin "classes" name

def databaseRef (name : Value) : Value := refWithin "databases" name

def indexRef (name : Value) : Value := refWithin "indexes" name

def functionRef (name : Value) : Value := refWithin "functions" name

def refuseRef (data : Value) : Run Value := do
  throw (.refused .valueError ("Not a ref: " ++ (← data.display)))

mutual

/-- Reads a mapping whose `@ref` is a mapping with an `id`. A parent that counts as false is none.
-/
def readRef : Value → Run Value
  | .dict entries => readRefEntries (.dict entries) entries
  | .view entries => readRefEntries (.view entries) entries
  | data => refuseRef data

def readRefEntries (data : Value) : List (Value × Value) → Run Value
  | [] => refuseRef data
  | (key, body) :: entries =>
    if key.keyText? = some "@ref" then readRefBody data body else readRefEntries data entries

def readRefBody (data : Value) : Value → Run Value
  | .dict entries | .view entries =>
    match lookup "id" entries with
    | some id => do
      let id ← id.plain
      return .ref (.text id) (← readRefParent entries)
    | none => refuseRef data
  | _ => refuseRef data

def readRefParent : List (Value × Value) → Run Value
  | [] => return .null
  | (key, parent) :: entries =>
    if key.keyText? = some "class" then do
      if ← parent.truth then readRef parent else return .null
    else readRefParent entries

end

end Value

end QueryWire
