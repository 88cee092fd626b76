import QueryWire.Proofs.Client.Exchange
import QueryWire.Proofs.Client.Request
import QueryWire.Proofs.Json.Printable

/-!
Queries of a client. A value that cannot be put on the wire reaches nobody; any other is sent in one
request if the client is open and a header can name its host, whatever comes back. Where a response
arrives the query ends as the decoding of its status and its body does, and what pieces the body
came in makes no difference. A closed client sends nothing.
-/

namespace QueryWire

/-- Neither the deadline of a query nor the coroutine that it runs in makes anything else of a
fault. -/
structure Fault.Passes (fault : Fault) : Prop where
  punctual : fault.isA .deadline = false
  contained : fault.isA .stopIteration = false

/-- A decoder whose faults come out of a query as they are. -/
def Decoder.Transparent (decoder : Decoder) : Prop :=
  ∀ text fault, decoder text = .error fault → fault.Passes

theorem deadlineFault_of_punctual (timeout : Binary64) (fault : Fault)
    (punctual : fault.isA .deadline = false) : deadlineFault timeout fault = fault := by
  rw [deadlineFault, punctual]
  rfl

theorem Fault.leave_of_contained (fault : Fault) (contained : fault.isA .stopIteration = false) :
    fault.leave = fault := by
  rw [leave, contained]
  rfl

theorem Fault.Passes.reported {fault : Fault} (passes : fault.Passes) (timeout : Binary64) :
    deadlineFault timeout fault.leave = fault := by
  rw [fault.leave_of_contained passes.contained, deadlineFault_of_punctual _ _ passes.punctual]

theorem Typed.passes {fault : Fault} (typed : Typed (.error fault)) : fault.Passes := by
  obtain ⟨resource, same⟩ | ⟨cause, same⟩ | same | same := typed
  · nomatch same
  all_goals
    rw [Except.error.inj same]
    exact ⟨rfl, rfl⟩

section

variable [Platform]

theorem passes_decodeResponse (status : Int) (body : Octets) (decoder : Decoder)
    (transparent : decoder.Transparent) (fault : Fault)
    (ended : decodeResponse status body decoder = .error fault) : fault.Passes := by
  obtain ⟨cause, typed, failed⟩ | ⟨text, decoded⟩ := decodeResponse_shape status body
  · rw [failed] at ended
    cases ended
    exact typed.passes
  · rw [decoded] at ended
    cases decided : decoder text with
    | ok value =>
      rw [decided] at ended
      nomatch ended
    | error cause =>
      rw [decided] at ended
      cases ended
      split
      next => exact (typed_databaseFault text status).passes
      next => exact transparent text cause decided

omit [Platform] in
theorem mapError_of_passes {α : Type} (timeout : Binary64) (verdict : Except Fault α)
    (passes : ∀ fault, verdict = .error fault → fault.Passes) :
    verdict.mapError (fun fault => deadlineFault timeout fault.leave) = verdict := by
  cases verdict with
  | ok value => rfl
  | error fault => exact congrArg Except.error ((passes fault rfl).reported timeout)

namespace Client

variable (client : Client) (value : Value) (decoder : Decoder) (reply : Reply) (store : Store)

def report : Report := ((client.query value decoder reply).run store).1

theorem report_open (opened : client.isOpen = true) :
    client.report value decoder reply store =
      match (serialize value).outcome store with
      | .error fault => { result := .error fault }
      | .ok payload =>
        { result := (ExceptT.run (client.exchange payload decoder reply) {}).1
          trace := (ExceptT.run (client.exchange payload decoder reply) {}).2 } := by
  have awake : (client.blocking && !client.isOpen) = false := by simp [opened]
  unfold report query Run.outcome
  simp only [awake, Bool.false_eq_true, ↓reduceIte, StateT.run, bind, StateT.bind, ExceptT.run]
  cases serialize value store with
  | mk verdict after => cases verdict <;> rfl

theorem run_exchange (opened : client.isOpen = true) (payload : Text) (request : Request)
    (made : client.endpoint.request client.cookies payload = .ok request) :
    ExceptT.run (client.exchange payload decoder reply) {} =
      ((reply.verdict decoder).mapError (deadlineFault client.endpoint.timeout),
        { requests := [request]
          log := .querying payload :: reply.records
          decoded := reply.decoded decoder
          stream := reply.stream?.map Stream.close
          cookies := reply.cookies }) := by
  have sent : (liftM (client.endpoint.request client.cookies payload) : Exchange Request) =
      pure request := by
    rw [made]
    rfl
  have awake : (!client.isOpen) = false := by simp [opened]
  rw [exchange, Exchange.run_bind, Exchange.run_note, sent, pure_bind, awake]
  simp only [Bool.false_eq_true, ↓reduceIte, Exchange.run_reporting, Exchange.run_perform,
    Option.or_none]
  rfl

theorem run_exchange_unsent (payload : Text) (fault : Fault)
    (unmade : client.endpoint.request client.cookies payload = .error fault) :
    ExceptT.run (client.exchange payload decoder reply) {} =
      (.error fault, { log := [.querying payload] }) := by
  have stopped : (liftM (client.endpoint.request client.cookies payload) : Exchange Request) =
      throw fault := by
    rw [unmade]
    rfl
  rw [exchange, Exchange.run_bind, Exchange.run_note, stopped]
  rfl

theorem run_exchange_closed (closed : client.isOpen = false) (payload : Text) (request : Request)
    (made : client.endpoint.request client.cookies payload = .ok request) :
    ExceptT.run (client.exchange payload decoder reply) {} =
      (.error closedFault, { log := [.querying payload] }) := by
  have sent : (liftM (client.endpoint.request client.cookies payload) : Exchange Request) =
      pure request := by
    rw [made]
    rfl
  rw [exchange, Exchange.run_bind, Exchange.run_note, sent, pure_bind, closed]
  rfl

def unsentFault : Fault :=
  if client.endpoint.uri.isSendable then closedFault else .ambient .unicodeEncodeError []

/-- What a query comes to that is not sent. A client that is not blocking notices that it is closed
only when the request is due, so what does not serialize is still told first. -/
def refusal : Report :=
  if client.blocking && !client.isOpen then { result := .error closedFault }
  else
    match (serialize value).outcome store with
    | .error fault => { result := .error fault }
    | .ok payload => {
        result := .error client.unsentFault
        trace := { log := [.querying payload] } }

theorem report_unsent (unsent : client.isOpen = false ∨ client.endpoint.uri.isSendable = false) :
    client.report value decoder reply store = client.refusal value store := by
  unfold report query refusal
  cases client.blocking && !client.isOpen with
  | true => rfl
  | false =>
    simp only [Bool.false_eq_true, ↓reduceIte, StateT.run, bind, StateT.bind, ExceptT.run]
    cases serialized : serialize value store with
    | mk verdict after =>
      have outcome : (serialize value).outcome store = verdict := congrArg Prod.fst serialized
      rw [outcome]
      cases verdict with
      | error fault => rfl
      | ok payload =>
        have ran : ExceptT.run (client.exchange payload decoder reply) {} =
            (.error client.unsentFault, { log := [.querying payload] }) := by
          cases sendable : client.endpoint.uri.isSendable with
          | false =>
            rw [client.run_exchange_unsent decoder reply payload _
              (client.endpoint.request_unsendable _ sendable payload), unsentFault, sendable]
            rfl
          | true =>
            have closed : client.isOpen = false := unsent.resolve_right (by simp [sendable])
            obtain ⟨request, made, -⟩ := client.endpoint.request_of_serialize client.cookies
              sendable value store payload outcome
            rw [client.run_exchange_closed decoder reply closed payload request made, unsentFault,
              sendable]
            rfl
        unfold ExceptT.run at ran
        simp only [ran]
        rfl

theorem report_unserialized (opened : client.isOpen = true) (fault : Fault)
    (unserialized : (serialize value).outcome store = .error fault) :
    client.report value decoder reply store = { result := .error fault } := by
  rw [client.report_open value decoder reply store opened, unserialized]

/-- A client that is open notices that no header can name its host when the request is due. -/
theorem report_unsendable (opened : client.isOpen = true)
    (unsendable : client.endpoint.uri.isSendable = false) (payload : Text)
    (serialized : (serialize value).outcome store = .ok payload) :
    client.report value decoder reply store = {
      result := .error (.ambient .unicodeEncodeError [])
      trace := { log := [.querying payload] } } := by
  have awake : (client.blocking && !client.isOpen) = false := by simp [opened]
  rw [client.report_unsent value decoder reply store (.inr unsendable), refusal, awake, serialized,
    unsentFault, unsendable]
  rfl

theorem leaves_query :
    ((client.query value decoder reply).run store).2 =
      if client.blocking && !client.isOpen then store else (serialize value).leaves store := by
  unfold Run.leaves
  rw [query]
  split
  · rfl
  · simp only [StateT.run, bind, StateT.bind, ExceptT.run]
    cases serialize value store with
    | mk verdict after => cases verdict <;> rfl

omit [Platform] in
theorem refusal_fails :
    (∃ fault, (client.refusal value store).result = .error fault) ∧
      (client.refusal value store).trace.requests = [] := by
  rw [refusal]
  split
  · exact ⟨⟨_, rfl⟩, rfl⟩
  · cases (serialize value).outcome store <;> exact ⟨⟨_, rfl⟩, rfl⟩

end Client

/-- A reply that brings a text, encoded, as its whole body. -/
def Reply.Brings (reply : Reply) (status : Int) (content : Text) : Prop :=
  ∃ octets, Utf8.encode content = .ok octets ∧ reply.arrival = .ok (status, octets)

/-- The reply that brings the text of a JSON tree, one octet for each code point. -/
def Reply.written (status : Int) (json : Json) : Reply :=
  .response status [] (.whole (json.render.map fun point => .ofNat point.val))

omit [Platform] in
theorem Reply.written_brings (status : Int) (json : Json) :
    (written status json).Brings status json.render :=
  ⟨_, (Json.printable_render json).encode, rfl⟩

/-- A query that is due to be sent: its client is open, its host can be named, and its value has a
text on the wire. -/
structure Dispatch where
  client : Client
  value : Value
  store : Store
  payload : Text
  opened : client.isOpen = true
  sendable : client.endpoint.uri.isSendable = true
  serialized : (serialize value).outcome store = .ok payload

namespace Dispatch

variable (dispatch : Dispatch) (decoder : Decoder) (reply : Reply)

def report : Report := dispatch.client.report dispatch.value decoder reply dispatch.store

/-- What is visible of a query beyond its request depends on the reply, but for one line. -/
theorem report_eq :
    ∃ request, request.Carries dispatch.client.endpoint dispatch.payload ∧
      dispatch.report decoder reply = {
        result := (reply.verdict decoder).mapError (deadlineFault dispatch.client.endpoint.timeout)
        trace := {
          requests := [request]
          log := .querying dispatch.payload :: reply.records
          decoded := reply.decoded decoder
          stream := reply.stream?.map Stream.close
          cookies := reply.cookies } } := by
  obtain ⟨request, made, carries, -⟩ := dispatch.client.endpoint.request_of_serialize
    dispatch.client.cookies dispatch.sendable dispatch.value dispatch.store dispatch.payload
    dispatch.serialized
  refine ⟨request, carries, ?_⟩
  rw [report, Client.report_open _ _ _ _ _ dispatch.opened, dispatch.serialized]
  simp only [Client.run_exchange _ _ _ dispatch.opened _ _ made]

theorem result_report :
    (dispatch.report decoder reply).result =
      (reply.verdict decoder).mapError (deadlineFault dispatch.client.endpoint.timeout) := by
  obtain ⟨request, -, same⟩ := dispatch.report_eq decoder reply
  rw [same]

/-- Where a whole body arrives, a query comes to what the decoding of the response comes to, as the
coroutine and the deadline report it. -/
theorem result_of_arrival {status : Int} {octets : Octets}
    (arrived : reply.arrival = .ok (status, octets)) :
    (dispatch.report decoder reply).result =
      (decodeResponse status octets decoder).mapError fun fault =>
        deadlineFault dispatch.client.endpoint.timeout fault.leave := by
  rw [result_report, Reply.verdict, arrived]
  change ((decodeResponse status octets decoder).mapError _).mapError _ = _
  cases decodeResponse status octets decoder <;> rfl

theorem result_of_brings {status : Int} {content : Text} (brings : reply.Brings status content) :
    ∃ octets, Utf8.encode content = .ok octets ∧ (dispatch.report decoder reply).result =
      (decodeResponse status octets decoder).mapError fun fault =>
        deadlineFault dispatch.client.endpoint.timeout fault.leave := by
  obtain ⟨octets, encoded, arrived⟩ := brings
  exact ⟨octets, encoded, dispatch.result_of_arrival decoder reply arrived⟩

theorem log_report :
    (dispatch.report decoder reply).trace.log =
      .querying dispatch.payload :: reply.records := by
  obtain ⟨request, -, same⟩ := dispatch.report_eq decoder reply
  rw [same]

theorem decoded_report :
    (dispatch.report decoder reply).trace.decoded = reply.decoded decoder := by
  obtain ⟨request, -, same⟩ := dispatch.report_eq decoder reply
  rw [same]

end Dispatch

/-- What serializes is sent in one request, whatever comes back, if a header can name the host, and
what does not is not sent. -/
theorem Client.query_sends_once (client : Client) (opened : client.isOpen = true) (value : Value)
    (decoder : Decoder) (reply : Reply) (store : Store) :
    match (serialize value).outcome store with
    | .error fault =>
      (client.report value decoder reply store).result = .error fault ∧
        (client.report value decoder reply store).trace.requests = []
    | .ok payload =>
      if client.endpoint.uri.isSendable then
        ∃ request, (client.report value decoder reply store).trace.requests = [request] ∧
          Request.method = "POST" ∧ request.Carries client.endpoint payload
      else
        (client.report value decoder reply store).result =
            .error (.ambient .unicodeEncodeError []) ∧
          (client.report value decoder reply store).trace.requests = [] := by
  cases serialized : (serialize value).outcome store with
  | error fault =>
    rw [client.report_unserialized value decoder reply store opened fault serialized]
    exact ⟨rfl, rfl⟩
  | ok payload =>
    cases sendable : client.endpoint.uri.isSendable with
    | true =>
      let dispatch : Dispatch := ⟨client, value, store, payload, opened, sendable, serialized⟩
      obtain ⟨request, carries, same⟩ := dispatch.report_eq decoder reply
      refine ⟨request, ?_, rfl, carries⟩
      change (dispatch.report decoder reply).trace.requests = [request]
      rw [same]
    | false =>
      dsimp only
      rw [client.report_unsendable value decoder reply store opened sendable payload serialized]
      exact ⟨rfl, rfl⟩

end

def Client.nearby : Client where
  endpoint := {
    uri := {
      scheme := "http", userinfo := [], host := "localhost", port := some 8443, path := "/"
      query := none, fragment := none }
    timeout := .finite false 1 0
    authorization := "Basic c2VjcmV0Og==" }
  blocking := false

/-- A request goes out although nothing ever comes back, and says that it has eight octets. -/
theorem Client.nearby_sends_once :
    nearby.isOpen = true ∧
      ∃ request, (nearby.report (.text "\u00e9") .response (.interrupted .stalled)
          .empty).trace.requests = [request] ∧
        Utf8.encode "\"\\u00e9\"" = .ok request.content ∧ request.contentLength = "8" := by
  have sends : ∃ request : Request, _ ∧ _ ∧ request.Carries nearby.endpoint "\"\\u00e9\"" :=
    query_sends_once nearby rfl (.text "\u00e9") .response (.interrupted .stalled) .empty
  obtain ⟨request, sent, -, carries⟩ := sends
  refine ⟨rfl, request, sent, carries.content, ?_⟩
  rw [carries.contentLength, ← Except.ok.inj carries.content]
  rfl

/-- A client of a host in a zone whose name is not in ASCII. -/
def Client.zoned : Client where
  endpoint := {
    uri := {
      scheme := "http", userinfo := [], host := "fe80::1%\u00e9", port := none, path := "/"
      query := none, fragment := none }
    timeout := .finite false 1 0
    authorization := "Basic c2VjcmV0Og==" }
  blocking := false

set_option maxRecDepth 4000 in
/-- The client is built, and its query comes to an end before there is a request. -/
theorem Client.zoned_sends_nothing :
    ((Settings.build {
        secret := .text "secret", uri := .text "http://[fe80::1%\u00e9]/"
        timeout := .finite false 1 0 } none).run .empty).1.endpoint = .ok zoned.endpoint ∧
      zoned.isOpen = true ∧
      (serialize (.text "\u00e9")).outcome .empty = .ok "\"\\u00e9\"" ∧
      (zoned.report (.text "\u00e9") .response (.interrupted .stalled) .empty).trace.requests =
        [] :=
  ⟨rfl, rfl, rfl, rfl⟩
structure Stream.Brings (stream : Stream) (octets : Octets) : Prop where
  whole : stream.chunks.flatten = octets
  ends : stream.interruption = none

theorem Stream.Brings.arrives {stream : Stream} {octets : Octets} (brings : stream.Brings octets)
    (status : Int) (cookies : List Text) :
    Reply.arrival (.response status cookies (.stream stream)) = .ok (status, octets) := by
  rw [Reply.arrival, Body.readAll, Stream.readAll, brings.ends, ← brings.whole]
  rfl

section

variable [Platform]

end

/-- A response whose resource is a letter of two octets, which come in different chunks. -/
def Stream.torn : Stream where
  chunks := [
    [0x7B, 0x22, 0x72, 0x65, 0x73, 0x6F, 0x75, 0x72, 0x63, 0x65, 0x22, 0x3A, 0x22, 0xC3], [],
    [0xA9, 0x22, 0x7D]]
  interruption := none

def Dispatch.nearby : Dispatch where
  client := .nearby
  value := .text "\u00e9"
  store := .empty
  payload := "\"\\u00e9\""
  opened := rfl
  sendable := rfl
  serialized := rfl

end QueryWire
