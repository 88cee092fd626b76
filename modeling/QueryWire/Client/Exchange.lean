import QueryWire.Client.Stream
import QueryWire.Response.Decode
import QueryWire.Url.Quoting

/-!
One query as an exchange: a request goes out, a response comes back, its body is read to the end
and decoded. The trace of an exchange tells what became visible on the way, however it ends: the
requests that reached the transport, the records of the log, the texts that the caller's decoder was
called with, whether a streamed body was closed, and the cookies that were set.
-/

namespace QueryWire

variable [Platform]

structure Request where
  url : Text
  contentType : Text
  contentLength : Text
  authorization : Text
  apiVersion : Text
  cookie? : Option Text
  content : Octets

namespace Request

def method : String := "POST"

def body (request : Request) : Text := Utf8.decodeReplacing request.content

end Request

/-- What the client logs of a query, always at the level DEBUG. -/
inductive LogRecord where
  | querying (payload : Text)
  | answered (status : Int)
  | received (octets : Octets)

/-- A record as it is shown, which it cannot be if it has a number with too many digits. -/
def LogRecord.line? (record : LogRecord) : Option Text :=
  let message : Option Text :=
    match record with
    | .querying payload => some ("Querying with: " ++ payload)
    | .answered status =>
      if Numeral.fits status then some ("Got response status " ++ Numeral.ofInt status) else none
    | .received octets => some ("Got response: " ++ Quoted.octets octets)
  message.map (("faunaquery.client DEBUG " : Text) ++ ·)

structure Trace where
  requests : List Request := []
  log : List LogRecord := []
  /-- The texts that the decoder was called with. -/
  decoded : List Text := []
  /-- The stream of the response, if it came with one. -/
  stream : Option Stream := none
  /-- The cookies that the response has set. -/
  cookies : List Text := []

abbrev Exchange := ExceptT Fault (StateM Trace)

/-- The authorization that a request carries: that of its url if it names a user or a password,
which are percent-decoded, and otherwise that of the endpoint. -/
def Endpoint.presented (endpoint : Endpoint) : Text :=
  let (user, password) := endpoint.uri.credentials
  if user.isEmpty && password.isEmpty then endpoint.authorization
  else
    let decoded (part : Text) : Octets :=
      (Utf8.decodeReplacing (Url.unquote part)).flatMap Utf8.encodePoint
    basicCredentials (decoded user ++ [0x3A] ++ decoded password)

/-- Whether a header can name the host, which only ASCII can be written in. -/
def Url.isSendable (url : Url) : Bool := url.host.all (·.isAscii)

def Endpoint.request (endpoint : Endpoint) (cookies : List Text) (payload : Text) :
    Except Fault Request :=
  match Utf8.encode payload with
  | .ok content =>
    if endpoint.uri.isSendable then .ok {
      url := endpoint.uri.toText
      contentType := "application/json"
      contentLength := Numeral.ofNat content.length
      authorization := endpoint.presented
      apiVersion := "2.1"
      cookie? := Platform.cookie? endpoint.uri cookies
      content }
    else .error (.ambient .unicodeEncodeError [])
  | .error _ => .error (.ambient .unicodeEncodeError [])

def sendFault (fault : Fault) : Fault :=
  match fault with
  | .ambient kind message =>
    if kind.isA .timeoutException then .timeout ("Request timed out: " ++ message)
    else if kind.isA .transportError then .connection ("Request failed: " ++ message)
    else if kind.isA .httpError then .other ("Request failed: " ++ message)
    else fault
  | fault => fault

def readFault (fault : Fault) : Fault :=
  match fault with
  | .ambient kind message =>
    if kind.isA .timeoutException then .timeout ("Reading response timed out: " ++ message)
    else if kind.isA .transportError || kind.isA .streamError then
      .connection ("Reading response failed: " ++ message)
    else if kind.isA .httpError then .other ("Reading response failed: " ++ message)
    else fault
  | fault => fault

def deadlineFault (timeout : Binary64) (fault : Fault) : Fault :=
  if fault.isA .deadline then .timeout ("Request timed out after " ++ timeout.toText ++ "s")
  else fault

namespace Exchange

def reporting {α : Type} (report : Fault → Fault) (exchange : Exchange α) : Exchange α :=
  tryCatch exchange fun fault => throw (report fault)

def note (record : LogRecord) : Exchange Unit :=
  modify fun trace => { trace with log := trace.log ++ [record] }

def send (request : Request) (reply : Reply) : Exchange (Int × Body) := do
  modify fun trace => { trace with requests := trace.requests ++ [request] }
  match reply with
  | .response status cookies body =>
    modify fun trace => { trace with cookies := trace.cookies ++ cookies }
    if let .stream stream := body then
      modify fun trace => { trace with stream := some stream }
    return (status, body)
  | .interrupted interruption => throw interruption.fault

def closeStream : Exchange Unit :=
  modify fun trace => { trace with stream := trace.stream.map Stream.close }

def receive : Body → Exchange Octets
  | .whole octets => return octets
  | .stream stream => do
    try stream.readAll finally closeStream

def observed (decoder : Decoder) (text : Text) : Exchange Value := do
  modify fun trace => { trace with decoded := trace.decoded ++ [text] }
  decoder text

/-- Sends a request and decodes the response, inside of a coroutine. -/
def perform (request : Request) (decoder : Decoder) (reply : Reply) : Exchange Value := do
  let (status, body) ← reporting sendFault (send request reply)
  note (.answered status)
  let octets ← reporting readFault (receive body)
  note (.received octets)
  reporting Fault.leave (decodeResponse status octets (observed decoder))

end Exchange

end QueryWire
