import QueryWire.Number.Reading
import QueryWire.Text.Base64
import QueryWire.Text.Utf8
import QueryWire.Url.Parse
import QueryWire.Value.Display

/-!
The settings of a client and what is built from them. Settings hold whatever they were given; the
building checks the uri first, then the secret, and makes a transport last, so that a refused uri or
secret leaves no transport behind.
-/

namespace QueryWire

variable [Platform]

structure Disruption where
  kind : FaultKind
  message : Text

namespace Disruption

def text (disruption : Disruption) : Text :=
  match disruption.kind with
  | .streamConsumed =>
    "Attempted to read or stream some content, but the content has already been streamed. " ++
    "For requests, this could be due to passing a generator as request content, and then " ++
    "receiving a redirect response or a secondary request as part of an authentication flow." ++
    "For responses, this could be due to attempting to stream the response content more than once."
  | .streamClosed => "Attempted to read or stream content, but the stream has been closed."
  | .responseNotRead =>
    "Attempted to access streaming response content, without having called \x60read()\x60."
  | .requestNotRead =>
    "Attempted to access streaming request content, without having called \x60read()\x60."
  | _ => disruption.message

def raised (disruption : Disruption) : Fault := .ambient disruption.kind disruption.text

/-- What comes out of a transport or of a stream, which are coroutines. -/
def fault (disruption : Disruption) : Fault := disruption.raised.leave

end Disruption

/-- A transport that a caller provides. Whether it counts as true is asked where one is needed, and
asking may fail. -/
structure Transport where
  truth : Except Disruption Bool := .ok true

structure Settings where
  secret : Value
  uri : Value := .text "https://db.fauna.com"
  /-- In seconds; one minute if it is never set. -/
  timeout : Binary64 := .finite false (60 * 2 ^ (47 : Nat)) (-47)
  transport : Option Transport := none

namespace Settings

/-- The number of seconds that a value stands for. A NaN gets the given identity. -/
def seconds (identity : Nat) : Value → Except Fault Binary64
  | .duration microseconds => .ok (.ofQuotient (microseconds < 0) microseconds.natAbs 1000000)
  | .bool value => .ok (.ofQuotient false (if value then 1 else 0) 1)
  | .int value =>
    match Binary64.ofInt? value with
    | some number => .ok number
    | none => .error (.ambient .overflowError [])
  | .float value => .ok value
  | .text spelling =>
    match Binary64.ofText? identity spelling with
    | some number => .ok number
    | none => .error (.ambient .valueError [])
  | .bytes spelling =>
    match Binary64.ofOctets? identity spelling with
    | some number => .ok number
    | none => .error (.ambient .valueError [])
  | _ => .error (.ambient .typeError [])

def withTimeout (settings : Settings) (identity : Nat) (timeout : Value) :
    Except Fault Settings := do
  let seconds ← seconds identity timeout
  if seconds.isAtMostZero then
    throw (.refused .valueError ("Timeout must be positive, got " ++ seconds.toText))
  return { settings with timeout := seconds }

end Settings

structure Endpoint where
  uri : Url
  timeout : Binary64
  authorization : Text

def classText (value : Value) : Text :=
  "<class '" ++ Text.ofString value.typeOrigin ++ Text.ofString value.typeName ++ "'>"

def refuseUri (uri : Value) (reason : Text) : Run Url := do
  throw (.configuration ("Invalid uri " ++ (← uri.display) ++ ": " ++ reason))

def readUri (uri : Value) : Run Url := do
  match uri with
  | .url url => return url
  | .text text =>
    match Url.parse text with
    | .ok url => return url
    | .error .unencodable => throw (.ambient .unicodeEncodeError [])
    | .error fault => refuseUri uri fault.message
  | uri =>
    let shown ← uri.display
    refuseUri uri
      ("Invalid type for url.  Expected str or httpx.URL, got " ++ classText uri ++ ": " ++ shown)

def Url.hostName? (url : Url) : Option Text :=
  if (Text.ofString "xn--").isPrefixOf url.host then Platform.decodeHost url.host
  else some url.host

/-- Whether a url names a web server. Its host is not looked at unless the scheme is right. -/
def Url.isWeb (url : Url) : Except Fault Bool :=
  if url.scheme = "http" ∨ url.scheme = "https" then
    match url.hostName? with
    | some name => .ok (name ≠ [])
    | none => .error (.ambient .idnaError [])
  else .ok false

def checkUri (uri : Value) : Run Url := do
  let url ← readUri uri
  if ← url.isWeb then return url
  else refuseUri uri "expected an http(s) url with a host"

def Utf8.Refusal.message (refusal : Utf8.Refusal) : Text :=
  let last := refusal.position + refusal.run.length - 1
  let found : Text :=
    match refusal.run with
    | [point] =>
      "character '\\u" ++ Text.hex 4 point.val ++ "' in position " ++
        Numeral.ofNat refusal.position
    | _ =>
      "characters in position " ++ Numeral.ofNat refusal.position ++ "-" ++ Numeral.ofNat last
  "'utf-8' codec can't encode " ++ found ++ ": surrogates not allowed"

def basicCredentials (octets : Octets) : Text := "Basic " ++ Base64.encode octets

/-- The secret is the user name, and the password is empty. -/
def basicAuthorization (secret : Value) : Run Text := do
  let user ← secret.plain
  match Utf8.encode (user ++ ":") with
  | .ok octets => return basicCredentials octets
  | .error refusal => throw (.configuration ("Secret cannot be encoded: " ++ refusal.message))

def transportFault (disruption : Disruption) : Fault :=
  if disruption.kind.isA .osError || disruption.kind.isA .valueError then
    .configuration ("Cannot create transport: " ++ disruption.text)
  else disruption.raised

structure Build where
  endpoint : Except Fault Endpoint
  transports : Nat

def Settings.endpoint (settings : Settings) : Run Endpoint := do
  let uri ← checkUri settings.uri
  return ⟨uri, settings.timeout, ← basicAuthorization settings.secret⟩

def Settings.isFurnished (settings : Settings) : Except Disruption Bool :=
  match settings.transport with
  | some transport => transport.truth
  | none => .ok false

/-- Gives an endpoint a transport. Unless one was provided it is made, which may fail. -/
def Settings.furnish (settings : Settings) (failing : Option Disruption) :
    Except Fault Endpoint → Build
  | .error fault => ⟨.error fault, 0⟩
  | .ok endpoint =>
    match settings.isFurnished, failing with
    | .ok true, _ => ⟨.ok endpoint, 0⟩
    | .ok false, none => ⟨.ok endpoint, 1⟩
    | .ok false, some disruption => ⟨.error (transportFault disruption), 1⟩
    | .error disruption, _ => ⟨.error (transportFault disruption), 0⟩

def Settings.build (settings : Settings) (failing : Option Disruption) : StateM Store Build :=
  return settings.furnish failing (← settings.endpoint.run)

end QueryWire
