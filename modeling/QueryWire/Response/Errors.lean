import QueryWire.Value.Display
import QueryWire.Value.Equality

/-!
The errors that a rejected query reports, and the failures that carry them. A body of errors is read
completely or not at all: one bad entry makes the whole body unreadable.
-/

namespace QueryWire

variable [Platform]

namespace Value

def refuseEntry (problem : Text) (value : Value) : Run Value := do
  throw (.refused .valueError (problem ++ (← value.display)))

def missingEntry (key : Text) : Fault :=
  .refused .valueError ("Error entry is missing " ++ Quoted.text key)

def readErrorDetail (entry : Value) : Run Value := do
  match entry with
  | .dict fields =>
    match lookup "code" fields, lookup "description" fields with
    | none, _ => throw (missingEntry "code")
    | some _, none => throw (missingEntry "description")
    | some code, some description =>
      match (lookup "position" fields).getD (.list []) with
      | .list position =>
        let code ← code.plain
        let description ← description.plain
        let position ← Run.enclose (.list position)
        Run.enclose (.errorDetail (.text code) (.text description) position)
      | position => refuseEntry "Error position must be a list, got " position
  | entry => refuseEntry "Error entry must be an object, got " entry

def readErrors (body : Value) : Run Value := do
  match body with
  | .dict fields =>
    match lookup "errors" fields with
    | some (.list entries) =>
      let details ← Run.enclose (.list (← entries.mapM readErrorDetail))
      Run.enclose (.errors details)
    | _ => refuseEntry "Not an errors body: " body
  | body => refuseEntry "Not an errors body: " body

end Value

namespace Failure

def message : Failure Value → Value
  | .plain _ message _ | .unauthorized message | .emptyResponse message => message
  | .badRequest message .. | .notFound message .. | .database message .. => .text message

def code : Failure Value → Value
  | .plain _ _ code | .badRequest _ code _ | .notFound _ code _ => code
  | .unauthorized _ => .text "unauthorized"
  | .emptyResponse _ | .database .. => .null

end Failure

namespace Value

def code : Value → Except Fault Value
  | .errorDetail code _ _ => .ok code
  | .failure _ cause => .ok cause.code
  | _ => .error .noAttribute

def codes (details : Value) : Run Value := do
  let iteration ← details.iteration
  let codes ← iteration.forEach fun detail => detail.code
  Run.enclose (.list codes)

def notSubscriptable (value : Value) : Fault :=
  .ambient .typeError (Fault.quotedType value ++ " object is not subscriptable")

/-- The first item of a sequence that has one. A mapping gives what it has under the key zero. -/
def first : Value → Except Fault Value
  | .list (item :: _) | .tuple (item :: _) => .ok item
  | .text (point :: _) => .ok (.text [point])
  | .bytes (octet :: _) => .ok (.int octet.toNat)
  | .dict entries | .view entries => do
    match ← findKey (sameKey (.int 0)) entries with
    | some found => return found
    | none => throw (.ambient .keyError [])
  | value => .error (notSubscriptable value)

def firstCode (details : Value) : Except Fault Value := do
  if ← details.truth then (← details.first).code else return .null

end Value

namespace Failure

def ofErrors (opening : Text) (make : Text → Value → Value → Failure Value) (errors : Value) :
    Run (Failure Value) := do
  let shown ← errors.plain
  match errors with
  | .errors details => return make (opening ++ shown) (← details.firstCode) errors
  | _ => throw .noAttribute

def ofRejection (errors : Value) : Run (Failure Value) :=
  ofErrors "Bad request: " .badRequest errors

def ofAbsence (errors : Value) : Run (Failure Value) := ofErrors "Not found: " .notFound errors

def ofResponse (body status : Value) : Run (Failure Value) := do
  let shownStatus ← status.plain
  let shownBody ← body.plain
  return .database ("Database error (status " ++ shownStatus ++ "): " ++ shownBody) body status

end Failure

end QueryWire
