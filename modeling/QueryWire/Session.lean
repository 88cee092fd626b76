import QueryWire.Client
import QueryWire.Picture
import QueryWire.Script.Evaluation

/-!
Sessions: one set of client settings and one client at a time, taken through steps. A step that
fails leaves settings and client as they were, and the session goes on, unless a query was
interrupted: then its event loop has been stopped midway, and what comes of it is left open.
-/

namespace QueryWire

variable [Platform]

inductive BodyScript where
  | whole (body : Script)
  /-- Chunks that are followed by an interruption, if there is one. -/
  | chunks (chunks : List Script) (interruption : Option Interruption)

inductive ReplyScript where
  | response (status : Int) (cookies : List Text) (body : BodyScript)
  | interrupted (interruption : Interruption)

def bodyOctets : Value → Except Fault Octets
  | .bytes octets => .ok octets
  | .text content =>
    match Utf8.encode content with
    | .ok octets => .ok octets
    | .error _ => .error (.ambient .unicodeEncodeError [])
  | _ => .error (.ambient .typeError [])

def Script.octets (script : Script) : Run Octets := do bodyOctets (← script.eval [])

namespace ReplyScript

def make : ReplyScript → Run Reply
  | .interrupted interruption => return .interrupted interruption
  | .response status cookies (.whole body) => do
    return .response status cookies (.whole (← body.octets))
  | .response status cookies (.chunks chunks interruption) => do
    let chunks ← chunks.mapM Script.octets
    return .response status cookies (.stream { chunks, interruption })

end ReplyScript

structure Session where
  store : Store := .empty
  settings : Option Settings := none
  client : Option Client := none
  isOver : Bool := false

namespace Session

inductive Step where
  /-- Begins new settings with a secret. -/
  | builder (secret : Script)
  | uri (uri : Script)
  | timeout (timeout : Script)
  /-- Provides a transport, or none. -/
  | transport (transport : Option Transport)
  /-- Builds a client; the making of a transport may be planned to fail. -/
  | build (blocking : Bool) (failing : Option Disruption)
  | query (query : Script) (decoder : Decoder) (reply : ReplyScript)
  | close
  | enter

structure Answer where
  outcome : Outcome
  /-- How many transports a build made. -/
  transports : Option Nat := none
  /-- What was visible of a query. -/
  trace : Option Trace := none

def missing : Outcome := .failed (.fault FaultKind.attributeError.name [])

def configure (session : Session) (change : Settings → Run Settings) : Outcome × Session :=
  match session.settings with
  | none => (missing, session)
  | some settings =>
    let (result, store) := (change settings).run.run session.store
    match result with
    | .ok settings => (.completed (.bool true), { session with store, settings := some settings })
    | .error fault =>
      let (outcome, store) := (Outcome.ofFault fault).run store
      (outcome, { session with store })

def endpointPicture (endpoint : Endpoint) : Picture :=
  .list [.text endpoint.uri.toText, .float endpoint.timeout.toText, .text endpoint.authorization]

def build (session : Session) (blocking : Bool) (failing : Option Disruption) : Answer × Session :=
  match session.settings with
  | none =>
    ({ outcome := missing, transports := some 0 }, session)
  | some settings =>
    let (built, store) := (settings.build failing).run session.store
    match built.endpoint with
    | .ok endpoint =>
      ({ outcome := .completed (endpointPicture endpoint), transports := some built.transports },
        { session with store, client := some { endpoint, blocking } })
    | .error fault =>
      let (outcome, store) := (Outcome.ofFault fault).run store
      ({ outcome, transports := some built.transports }, { session with store })

def query (session : Session) (script : Script) (decoder : Decoder) (reply : ReplyScript) :
    StateM Store Report := do
  let prepared : Run (Value × Reply) := do
    let value ← script.eval []
    return (value, ← reply.make)
  match session.client, ← prepared.run with
  | some client, .ok (value, reply) => client.query value decoder reply
  | none, .ok _ => return { result := .error .noAttribute }
  | _, .error fault => return { result := .error fault }

def withClient (session : Session) (answer : Picture) (change : Client → Client) :
    Answer × Session :=
  match session.client with
  | none => ({ outcome := missing }, session)
  | some client =>
    ({ outcome := .completed answer }, { session with client := some (change client) })

def step (session : Session) : Step → Answer × Session
  | .builder secret =>
    let (result, store) := (secret.eval []).run.run session.store
    match result with
    | .ok secret =>
      ({ outcome := .completed .null }, { session with store, settings := some { secret } })
    | .error fault =>
      let (outcome, store) := (Outcome.ofFault fault).run store
      ({ outcome }, { session with store })
  | .uri script =>
    let (outcome, session) := session.configure fun settings => do
      return { settings with uri := ← script.eval [] }
    ({ outcome }, session)
  | .timeout script =>
    let (outcome, session) := session.configure fun settings => do
      settings.withTimeout (← Run.identity) (← script.eval [])
    ({ outcome }, session)
  | .transport transport =>
    let (outcome, session) := session.configure fun settings =>
      return { settings with transport }
    ({ outcome }, session)
  | .build blocking failing => session.build blocking failing
  | .query script decoder reply =>
    let (report, store) := (session.query script decoder reply).run session.store
    let (outcome, store) := (Outcome.ofResult report.result).run store
    ({ outcome, trace := some report.trace }, { session with
      store
      client := session.client.map (·.receive report)
      isOver := session.isOver || report.isInterrupted })
  | .close => session.withClient .null Client.close
  | .enter => session.withClient (.bool true) id

def run : Session → List Step → List Answer
  | _, [] => []
  | session, step :: rest =>
    let (answer, next) := session.step step
    answer :: if next.isOver then [] else next.run rest

end Session

def runSession (steps : List Session.Step) : List Session.Answer := Session.run {} steps

end QueryWire
