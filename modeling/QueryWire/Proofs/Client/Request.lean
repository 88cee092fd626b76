import QueryWire.Client.Exchange
import QueryWire.Proofs.Expr.Serialize
import QueryWire.Proofs.Json.Printable

/-!
The request for a payload. What comes from a serialization is the text of a JSON tree, so it has an
encoding, and there is a request for it if a header can name the host; the request carries that
encoding and says how long it is.
-/

namespace QueryWire

namespace Value

theorem renders_of_serialize (value : Value) (store : Store) (payload : Text)
    (serialized : (serialize value).outcome store = .ok payload) :
    ∃ json : Json, json.render = payload := by
  rw [outcome_serialize] at serialized
  obtain ⟨node, -, done⟩ := ok_of_bind (ok_of_mapError serialized)
  rw [written, Run.outcome_bind] at done
  obtain ⟨plain, -, done⟩ := ok_of_bind done
  rw [Run.outcome_bind] at done
  obtain ⟨json, -, done⟩ := ok_of_bind done
  exact ⟨json, Except.ok.inj done⟩

theorem printable_of_serialize (value : Value) (store : Store) (payload : Text)
    (serialized : (serialize value).outcome store = .ok payload) : payload.Printable := by
  obtain ⟨json, rfl⟩ := renders_of_serialize value store payload serialized
  exact json.printable_render

end Value

/-- A request goes to an endpoint, carries the encoding of a payload, and says what it carries. -/
structure Request.Carries (request : Request) (endpoint : Endpoint) (payload : Text) : Prop where
  url : request.url = endpoint.uri.toText
  content : Utf8.encode payload = .ok request.content
  contentLength : request.contentLength = Numeral.ofNat request.content.length
  contentType : request.contentType = "application/json"
  apiVersion : request.apiVersion = "2.1"

namespace Endpoint

variable [Platform] (endpoint : Endpoint) (cookies : List Text)

theorem request_of_serialize (sendable : endpoint.uri.isSendable = true) (value : Value)
    (store : Store) (payload : Text)
    (serialized : (serialize value).outcome store = .ok payload) :
    ∃ request, endpoint.request cookies payload = .ok request ∧
      request.Carries endpoint payload ∧
      request.cookie? = Platform.cookie? endpoint.uri cookies := by
  have encoded := (value.printable_of_serialize store payload serialized).encode
  rw [request, encoded]
  dsimp only
  rw [if_pos sendable]
  exact ⟨_, rfl, ⟨rfl, encoded, rfl, rfl, rfl⟩, rfl⟩

theorem request_unsendable (unsendable : endpoint.uri.isSendable = false) (payload : Text) :
    endpoint.request cookies payload = .error (.ambient .unicodeEncodeError []) := by
  rw [request, unsendable]
  cases Utf8.encode payload <;> rfl

end Endpoint

end QueryWire
