import QueryWire.Expr.Ref

/-!
What a successful query gives: a response with a resource, which is an object with a reference, a
timestamp and data of its own if it is an instance.
-/

namespace QueryWire.Value

def readResponse : Value → Except Fault Value
  | .dict body | .view body => .ok (.response ((lookup "resource" body).getD .null))
  | _ => .error .noAttribute

def resourceRef : Value → Run Value
  | .dict fields =>
    match lookup "ref" fields with
    | none => return .null
    | some data =>
      tryCatch data.readRef fun fault =>
        if fault.isA .valueError then return .null else throw fault
  | _ => return .null

def resourceField (key : Text) : Value → Value
  | .dict fields => (lookup key fields).getD .null
  | _ => .null

def resourceTimestamp (resource : Value) : Value := resourceField "ts" resource

def resourceData (resource : Value) : Value := resourceField "data" resource

end QueryWire.Value
