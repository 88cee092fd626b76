import QueryWire.Proofs.Client.Interruption

/-!
What the log tells of a query. It has one record for each phase that the query reaches: the sending
of the payload, the arrival of a status and the arrival of a whole body. Where the query breaks off,
the log ends with the record of the last phase before, and no failure and no decoding adds another
one.
-/

namespace QueryWire

theorem Request.Carries.body {request : Request} {endpoint : Endpoint} {payload : Text}
    (carries : request.Carries endpoint payload) : request.body = payload :=
  Utf8.decodeReplacing_of_encode payload request.content carries.content

/-- The records of a query that goes through, in their order. -/
def transcript (payload : Text) (status : Int) (octets : Octets) : List LogRecord :=
  [.querying payload, .answered status, .received octets]

theorem lines_transcript (payload : Text) (status : Int) (octets : Octets)
    (fits : Numeral.fits status = true) :
    (transcript payload status octets).map LogRecord.line? = [
      some ("faunaquery.client DEBUG " ++ ("Querying with: " ++ payload)),
      some ("faunaquery.client DEBUG " ++ ("Got response status " ++ Numeral.ofInt status)),
      some ("faunaquery.client DEBUG " ++ ("Got response: " ++ Quoted.octets octets))] := by
  simp only [transcript, List.map, LogRecord.line?, fits, ↓reduceIte, Option.map]

namespace Reply

/-- How many phases a query reaches with a reply. A status or a body that does not arrive is
arbitrary. -/
inductive Reaches (status : Int) (octets : Octets) : Reply → Nat → Prop
  | sending (interruption : Interruption) : Reaches status octets (.interrupted interruption) 1
  | reading (cookies : List Text) (chunks : List Octets) (interruption : Interruption)
      (isOpen : Bool) :
      Reaches status octets
        (.response status cookies (.stream ⟨chunks, some interruption, isOpen⟩)) 2
  | whole (cookies : List Text) :
      Reaches status octets (.response status cookies (.whole octets)) 3
  | ended (cookies : List Text) (chunks : List Octets) (isOpen : Bool)
      (read : chunks.flatten = octets) :
      Reaches status octets (.response status cookies (.stream ⟨chunks, none, isOpen⟩)) 3

theorem exists_reaches (reply : Reply) :
    ∃ status octets phases, Reaches status octets reply phases := by
  cases reply with
  | interrupted interruption => exact ⟨0, [], 1, .sending interruption⟩
  | response status cookies body =>
    cases body with
    | whole octets => exact ⟨status, octets, 3, .whole cookies⟩
    | stream stream =>
      obtain ⟨chunks, _ | interruption, isOpen⟩ := stream
      · exact ⟨status, chunks.flatten, 3, .ended cookies chunks isOpen rfl⟩
      · exact ⟨status, [], 2, .reading cookies chunks interruption isOpen⟩

/-- A reply leaves the records of the phases behind the sending. -/
theorem Reaches.records {status : Int} {octets : Octets} {reply : Reply} {phases : Nat}
    (reaches : Reaches status octets reply phases) (payload : Text) :
    .querying payload :: reply.records = (transcript payload status octets).take phases := by
  cases reaches with
  | sending interruption => rfl
  | reading cookies chunks interruption isOpen => rfl
  | whole cookies => rfl
  | ended cookies chunks isOpen read =>
    cases read
    rfl

end Reply

/-- The log of a query is empty if its value does not serialize. Otherwise the text of what is sent
opens the log, which goes as far as the query does, whatever becomes of the response; it ends there
if no header can name the host. -/
theorem Client.log_exact [Platform] (client : Client) (opened : client.isOpen = true)
    (value : Value) (decoder : Decoder) (reply : Reply) (store : Store) :
    match (serialize value).outcome store with
    | .error _ => (client.report value decoder reply store).trace.log = []
    | .ok payload =>
      if client.endpoint.uri.isSendable then
        (∃ request, (client.report value decoder reply store).trace.requests = [request] ∧
          request.body = payload) ∧
        (∃ status octets phases, Reply.Reaches status octets reply phases) ∧
        ∀ status octets phases, Reply.Reaches status octets reply phases →
          (client.report value decoder reply store).trace.log =
            (transcript payload status octets).take phases
      else
        (client.report value decoder reply store).trace.requests = [] ∧
          ∀ status octets, (client.report value decoder reply store).trace.log =
            (transcript payload status octets).take 1 := by
  cases serialized : (serialize value).outcome store with
  | error fault =>
    rw [client.report_unserialized value decoder reply store opened fault serialized]
  | ok payload =>
    cases sendable : client.endpoint.uri.isSendable with
    | true =>
      let dispatch : Dispatch := ⟨client, value, store, payload, opened, sendable, serialized⟩
      refine ⟨?_, reply.exists_reaches, ?_⟩
      · obtain ⟨request, carries, same⟩ := dispatch.report_eq decoder reply
        have sent := congrArg (·.trace.requests) same
        exact ⟨request, sent, carries.body⟩
      · intro status octets phases reaches
        exact (dispatch.log_report decoder reply).trans (reaches.records payload)
    | false =>
      dsimp only
      rw [client.report_unsendable value decoder reply store opened sendable payload serialized]
      exact ⟨rfl, fun _ _ => rfl⟩

set_option maxRecDepth 4000 in
/-- A deadline that passes within the body leaves the lines of the payload and of the status. -/
theorem Client.nearby_log :
    nearby.isOpen = true ∧
      (nearby.report (.text "\u00e9") .response
          (.response 200 [] (.stream ⟨[[0x7B], [0x22]], some .stalled, true⟩))
          .empty).trace.log.map LogRecord.line? = [
        some (.ofString "faunaquery.client DEBUG Querying with: \"\\u00e9\""),
        some (.ofString "faunaquery.client DEBUG Got response status 200")] := by
  have told : _ ∧ _ ∧ ∀ status octets phases, Reply.Reaches status octets _ phases →
      _ = (transcript "\"\\u00e9\"" status octets).take phases :=
    log_exact nearby rfl (.text "\u00e9") .response
      (.response 200 [] (.stream ⟨[[0x7B], [0x22]], some .stalled, true⟩)) .empty
  obtain ⟨-, -, prefixed⟩ := told
  have lines := lines_transcript "\"\\u00e9\"" 200 [] (Numeral.fits_of_small 200 (by decide))
  refine ⟨rfl, ?_⟩
  rw [prefixed 200 [] 2 (.reading _ _ _ _), List.map_take, lines]
  rfl

end QueryWire
