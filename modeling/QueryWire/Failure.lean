import QueryWire.Text

/-!
The failures that queries end in. Each carries what its kind has to tell; the parts that callers may
fill with anything are of a type left open here.
-/

namespace QueryWire

/-- Failures that carry a message and an optional code and nothing else. -/
inductive Failure.Kind where
  | general
  | connection
  | timeout
  | other
  | configuration
  | serialization
deriving DecidableEq

inductive Failure (α : Type) where
  | plain (kind : Failure.Kind) (message code : α)
  /-- The secret was rejected. -/
  | unauthorized (message : α)
  /-- A successful response had no body. -/
  | emptyResponse (message : α)
  /-- The query was rejected; the code is that of the first error. -/
  | badRequest (message : Text) (code errors : α)
  /-- What the query refers to does not exist. -/
  | notFound (message : Text) (code errors : α)
  /-- Any other failed response. -/
  | database (message : Text) (body status : α)

namespace Failure

def Kind.name : Kind → String
  | .general => "FaunaError"
  | .connection => "ConnectionError"
  | .timeout => "TimeoutError"
  | .other => "OtherError"
  | .configuration => "ConfigurationError"
  | .serialization => "SerializationError"

def name {α : Type} : Failure α → String
  | .plain kind _ _ => kind.name
  | .unauthorized _ => "Unauthorized"
  | .emptyResponse _ => "EmptyResponse"
  | .badRequest .. => "BadRequest"
  | .notFound .. => "NotFound"
  | .database .. => "DatabaseError"

end Failure

end QueryWire
