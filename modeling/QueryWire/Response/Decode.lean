import QueryWire.Expr.Wire
import QueryWire.Json.Reader
import QueryWire.Platform
import QueryWire.Response
import QueryWire.Response.Errors
import QueryWire.Text.Utf8

/-!
Decoding of responses. Status and body decide between a decoded value and a failure; the caller's
decoder sees the text of a successful response only, and where it refuses the text with a value
fault the response counts as failed.
-/

namespace QueryWire

variable [Platform]

def loads (text : Text) : Except Fault Value :=
  match Json.parse Platform.nesting text with
  | .ok json => .ok (.ofJson json)
  | .error .malformed => .error (.ambient .jsonDecodeError [])
  | .error .tooManyDigits => .error .tooManyDigits
  | .error .tooDeep => .error .tooDeep

def parseResponse (text : Text) : Except Fault Value := do
  match ← loads text with
  | .dict body => (Value.dict body).readResponse
  | other =>
    throw (.refused .valueError
      ("Expected a JSON object, got " ++ Text.ofString other.typeName))

/-- What a caller does with the text of a successful response. -/
abbrev Decoder := Text → Except Fault Value

namespace Decoder

def response : Decoder := parseResponse

def json : Decoder := loads

def text : Decoder := fun content => .ok (.text content)

def length : Decoder := fun content => .ok (.int content.length)

def failing (kind : FaultKind) : Decoder := fun _ => .error (.ambient kind [])

end Decoder

def databaseFault (text : Text) (status : Int) : Fault :=
  match (Failure.ofResponse (.text text) (.int status)).alone with
  | .ok cause => .failure cause
  | .error fault => fault

def emptyResponse : Failure Value := .emptyResponse (.text "Empty response")

def unauthorized : Failure Value := .unauthorized (.text "Unauthorized")

def rejection (status : Int) (text : Text) : Fault :=
  match loads text >>= fun body => body.readErrors.alone with
  | .ok errors =>
    let cause := if status = 400 then Failure.ofRejection errors else Failure.ofAbsence errors
    match cause.alone with
    | .ok cause => .failure cause
    | .error fault => fault
  | .error fault => if fault.isA .valueError then databaseFault text status else fault

/-- The decoded value of a response, or why there is none. Besides failing, a decoder may do
whatever the monad lets it do. -/
def decodeResponse {m : Type → Type} [Monad m] [MonadExcept Fault m] {α : Type} (status : Int)
    (body : Octets) (decoder : Text → m α) : m α :=
  if status = 401 then throw (.failure unauthorized)
  else match Utf8.decode? body with
    | none => throw (databaseFault (Utf8.decodeReplacing body) status)
    | some text =>
      if 200 ≤ status ∧ status < 300 then
        if text.isEmpty then throw (.failure emptyResponse)
        else tryCatch (decoder text) fun fault =>
          throw (if fault.isA .valueError then databaseFault text status else fault)
      else if status = 400 ∨ status = 404 then throw (rejection status text)
      else throw (databaseFault text status)

end QueryWire
