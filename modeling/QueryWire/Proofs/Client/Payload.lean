import QueryWire.Proofs.Client.Transcript

/-!
What a query sends as its payload. Whatever is put on the wire comes out as printable ASCII, so it
has an encoding, and the number of octets that a request for it states is the number of characters
that the log shows.
-/

namespace QueryWire

theorem Request.Carries.length_of_printable {request : Request} {endpoint : Endpoint}
    {payload : Text} (carries : request.Carries endpoint payload) (printable : payload.Printable) :
    request.content.length = payload.length := by
  have content : payload.map (fun point => .ofNat point.val) = request.content :=
    Except.ok.inj (printable.encode.symm.trans carries.content)
  rw [← content, List.length_map]

/-- A payload is printable ASCII and never lacks an encoding, and an open client says of what it
sends, whatever comes back, that it is as long as what it has logged. It sends it if a header can
name the host. -/
theorem Client.payload_printable [Platform] (value : Value) (store : Store) (payload : Text)
    (serialized : (serialize value).outcome store = .ok payload) :
    (∀ point ∈ payload, 0x20 ≤ point.val ∧ point.val ≤ 0x7E) ∧
      (∃ content, Utf8.encode payload = .ok content ∧ content.length = payload.length) ∧
      ∀ (client : Client) (decoder : Decoder) (reply : Reply), client.isOpen = true →
        (∃ later, (client.report value decoder reply store).trace.log =
          .querying payload :: later) ∧
        if client.endpoint.uri.isSendable then
          ∃ request, (client.report value decoder reply store).trace.requests = [request] ∧
            request.body = payload ∧ request.contentLength = Numeral.ofNat payload.length
        else (client.report value decoder reply store).trace.requests = [] := by
  have printable := value.printable_of_serialize store payload serialized
  refine ⟨fun point member => (CodePoint.within_iff _ _ _).mp (printable point member),
    ⟨_, printable.encode, List.length_map _⟩, ?_⟩
  intro client decoder reply opened
  cases sendable : client.endpoint.uri.isSendable with
  | true =>
    let dispatch : Dispatch := ⟨client, value, store, payload, opened, sendable, serialized⟩
    obtain ⟨request, carries, same⟩ := dispatch.report_eq decoder reply
    have sent := congrArg (·.trace.requests) same
    refine ⟨⟨_, congrArg (·.trace.log) same⟩, request, sent, carries.body, ?_⟩
    rw [carries.contentLength, carries.length_of_printable printable]
  | false =>
    rw [client.report_unsendable value decoder reply store opened sendable payload serialized]
    exact ⟨⟨[], rfl⟩, rfl⟩

/-- A query whose verb is a DEL, about raw data with a null as a key and a surrogate before a letter
beyond the basic plane. -/
def Value.unprintable : Value :=
  .query .query (.text [⟨0x7F, by decide⟩])
    (.literal (.dict [(.null, .text [⟨0xD800, by decide⟩, ⟨0x1F600, by decide⟩])]))

set_option maxRecDepth 4000 in
theorem Client.unprintable_payload :
    (serialize .unprintable).outcome .empty =
        .ok "\x7b\"\\u007f\": \x7b\"null\": \"\\ud800\\ud83d\\ude00\"\x7d\x7d" ∧
      nearby.isOpen = true ∧
      ∃ request, (nearby.report .unprintable .response (.interrupted .stalled)
          .empty).trace.requests = [request] ∧ request.contentLength = "42" := by
  have serialized : (serialize .unprintable).outcome .empty =
      .ok "\x7b\"\\u007f\": \x7b\"null\": \"\\ud800\\ud83d\\ude00\"\x7d\x7d" := rfl
  obtain ⟨-, -, sends⟩ := payload_printable .unprintable .empty _ serialized
  obtain ⟨-, request, sent, -, length⟩ : _ ∧ ∃ request : Request, _ ∧ _ ∧ _ :=
    sends nearby .response (.interrupted .stalled) rfl
  refine ⟨serialized, rfl, request, sent, ?_⟩
  rw [length]
  rfl

end QueryWire
