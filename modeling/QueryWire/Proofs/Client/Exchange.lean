import QueryWire.Client
import QueryWire.Proofs.Expr.Serialize
import QueryWire.Proofs.Response.Decode

/-!
What an exchange does, whatever the reply. A reply arrives, with a status and a whole body, or it is
cut off; only what arrives is decoded. Of all that the exchange leaves behind, the requests depend
on the payload alone, and the records of the log and the state of the stream on the reply alone.
-/

namespace QueryWire

def Body.readAll : Body → Except Fault Octets
  | .whole octets => .ok octets
  | .stream source => source.readAll

namespace Reply

/-- Status and body of a reply, or what is reported where it is cut off. -/
def arrival : Reply → Except Fault (Int × Octets)
  | .response status _ body => (body.readAll.mapError readFault).map (status, ·)
  | .interrupted interruption => .error (sendFault interruption.fault)

/-- What the decoding of a reply comes to, as it leaves the coroutine that it happens in. -/
def verdict [Platform] (decoder : Decoder) (reply : Reply) : Except Fault Value :=
  reply.arrival.bind fun arrived =>
    (decodeResponse arrived.1 arrived.2 decoder).mapError Fault.leave

def decoded [Platform] (decoder : Decoder) (reply : Reply) : List Text :=
  match reply.arrival with
  | .ok (status, body) => (decodeRecorded status body decoder).2
  | .error _ => []

def stream? : Reply → Option Stream
  | .response _ _ (.stream stream) => some stream
  | _ => none

def cookies : Reply → List Text
  | .response _ cookies _ => cookies
  | .interrupted _ => []

end Reply

def Reply.records : Reply → List LogRecord
  | .response status _ body =>
    .answered status ::
      match body.readAll with
      | .ok octets => [.received octets]
      | .error _ => []
  | .interrupted _ => []

namespace Exchange

variable {α β : Type}

theorem run_bind (exchange : Exchange α) (next : α → Exchange β) (trace : Trace) :
    ExceptT.run (exchange >>= next) trace =
      match ExceptT.run exchange trace with
      | (.ok result, after) => ExceptT.run (next result) after
      | (.error fault, after) => (.error fault, after) := by
  simp only [ExceptT.run, bind, ExceptT.bind, ExceptT.mk, StateT.bind, ExceptT.bindCont]
  cases exchange trace with
  | mk result after => cases result <;> rfl

theorem run_reporting (report : Fault → Fault) (exchange : Exchange α) (trace : Trace) :
    ExceptT.run (reporting report exchange) trace =
      ((ExceptT.run exchange trace).1.mapError report, (ExceptT.run exchange trace).2) := by
  simp only [reporting, ExceptT.run, tryCatch, tryCatchThe, MonadExceptOf.tryCatch,
    ExceptT.tryCatch, ExceptT.mk, bind, StateT.bind]
  cases exchange trace with
  | mk result after => cases result <;> rfl

theorem run_note (record : LogRecord) (trace : Trace) :
    ExceptT.run (note record) trace = (.ok (), { trace with log := trace.log ++ [record] }) := rfl

theorem run_send (request : Request) (reply : Reply) (trace : Trace) :
    ExceptT.run (send request reply) trace =
      (match reply with
        | .response status _ body => .ok (status, body)
        | .interrupted interruption => .error interruption.fault,
        { trace with
          requests := trace.requests ++ [request]
          stream := reply.stream?.or trace.stream
          cookies := trace.cookies ++ reply.cookies }) := by
  cases reply with
  | interrupted interruption =>
    rw [Reply.cookies, List.append_nil]
    rfl
  | response status cookies body => cases body <;> rfl

/-- What is left to the end of an exchange is done however it ends. -/
theorem run_finally (exchange : Exchange α) (change : Trace → Trace) (trace : Trace) :
    ExceptT.run (try exchange finally (modify change : Exchange PUnit)) trace =
      ((ExceptT.run exchange trace).1, change (ExceptT.run exchange trace).2) := by
  simp only [tryFinally, MonadFinally.tryFinally', ExceptT.run, ExceptT.mk, ExceptT.map,
    Functor.map, bind, StateT.bind]
  cases exchange trace with
  | mk result after => cases result <;> rfl

theorem run_receive (body : Body) (trace : Trace) :
    ExceptT.run (receive body) trace =
      (body.readAll,
        { trace with
          stream := match body with
            | .whole _ => trace.stream
            | .stream _ => trace.stream.map Stream.close }) := by
  cases body with
  | whole octets => rfl
  | stream stream =>
    rw [receive, closeStream, run_finally]
    rfl

variable [Platform]

theorem run_decodeResponse (status : Int) (body : Octets) (decoder : Decoder) (trace : Trace) :
    ExceptT.run (decodeResponse status body (observed decoder)) trace =
      (decodeResponse status body decoder,
        { trace with decoded := trace.decoded ++ (decodeRecorded status body decoder).2 }) := by
  unfold decodeRecorded
  obtain ⟨fault, -, failed⟩ | ⟨text, decoded⟩ := decodeResponse_shape status body
  · rw [failed, failed, failed]
    change _ = (_, { trace with decoded := trace.decoded ++ [] })
    rw [List.append_nil]
    rfl
  · rw [decoded, decoded, decoded, observed, recorded]
    cases decoder text <;> rfl

/-- An exchange decodes what arrives, and leaves one request and what the reply leaves. -/
theorem run_perform (request : Request) (decoder : Decoder) (reply : Reply) (trace : Trace) :
    ExceptT.run (perform request decoder reply) trace =
      (reply.verdict decoder,
        { requests := trace.requests ++ [request]
          log := trace.log ++ reply.records
          decoded := trace.decoded ++ reply.decoded decoder
          stream := (reply.stream?.map Stream.close).or trace.stream
          cookies := trace.cookies ++ reply.cookies }) := by
  rw [perform, run_bind, run_reporting, run_send]
  cases reply with
  | interrupted interruption =>
    simp only [Except.mapError, Reply.verdict, Reply.arrival, Reply.records, Reply.decoded,
      Except.bind, List.append_nil]
    rfl
  | response status cookies body =>
    have closed : (match body with
        | .whole _ => (Reply.response status cookies body).stream?.or trace.stream
        | .stream _ =>
          ((Reply.response status cookies body).stream?.or trace.stream).map Stream.close) =
        ((Reply.response status cookies body).stream?.map Stream.close).or trace.stream := by
      cases body <;> rfl
    simp only [Except.mapError, run_bind, run_note, run_reporting, run_receive,
      closed]
    cases read : body.readAll with
    | error fault =>
      simp only [Reply.verdict, Reply.arrival, Reply.records, Reply.decoded, read, Except.mapError,
        Except.map, Except.bind, List.append_nil]
    | ok octets =>
      simp only [Reply.verdict, Reply.arrival, Reply.records, Reply.decoded, read,
        run_decodeResponse, Except.mapError, Except.map, Except.bind,
        List.append_assoc, List.cons_append, List.nil_append]

end Exchange
end QueryWire
