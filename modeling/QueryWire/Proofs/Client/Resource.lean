import QueryWire.Proofs.Client.Query
import QueryWire.Proofs.Expr.Reference
import QueryWire.Proofs.Expr.RoundTrip
import QueryWire.Proofs.Json.Reread

/-!
References in responses. Where a response brings a resource that was written with a reference in
it, the query gives a resource with that reference, whatever else was written.
-/

namespace QueryWire

namespace Reference

def Unjoined : Reference → Prop
  | .root id => id.Unjoined
  | .within id parent => id.Unjoined ∧ parent.Unjoined

theorem lossless_expression (reference : Reference) (unjoined : reference.Unjoined) :
    reference.expression.Lossless := by
  induction reference with
  | root id => exact unjoined
  | within id parent ih => exact ⟨unjoined.1, ih unjoined.2⟩

theorem reread_json (reference : Reference) (unjoined : reference.Unjoined) :
    reference.json.reread = reference.json :=
  Json.reread_of_lossless _ (reference.expression.wire_lossless
    (reference.lossless_expression unjoined) _ reference.wire_expression)

end Reference

section

variable [Platform]

theorem parseResponse_of_parse (text : Text) (members : List (Text × Json)) (resource : Json)
    (parsed : Json.parse Platform.nesting text = .ok (.object members))
    (found : Json.member? members "resource" = some resource) :
    parseResponse text = .ok (.response (.ofJson resource)) := by
  have read : Value.readResponse (.dict (Value.ofJsonMembers members)) =
      .ok (.response (.ofJson resource)) := by
    rw [Value.readResponse, Value.lookup_ofJsonMembers, found]
    rfl
  rw [parseResponse, loads_of_parse text _ parsed]
  exact read

theorem parseResponse_resource (members : List (Text × Json))
    (shallow : (Json.object [("resource", .object members)]).depth ≤ Platform.nesting)
    (store : Store) (content : Text)
    (written : (serialize (.literal (.ofJson (.object [("resource", .object members)])))).outcome
      store = .ok content) :
    parseResponse content =
      .ok (.response (.ofJson (.object (Json.rereadMembers [] members)))) := by
  have parsed := Expression.parse_of_literal _ store content written _ shallow
  refine parseResponse_of_parse _ _ _ parsed ?_
  have printable : Text.Printable "resource" := by decide
  have distinct : (["resource"] : List Text).Nodup := List.pairwise_singleton _ _
  rw [Json.member?_reread [("resource", .object members)] "resource" printable distinct,
    Json.member?_cons, if_pos rfl]
  rfl

theorem decodeResponse_of_parsed (status : Int) (success : 200 ≤ status ∧ status < 300)
    (content : Text) (octets : Octets) (encoded : Utf8.encode content = .ok octets)
    (result : Value) (parsed : parseResponse content = .ok result) :
    decodeResponse status octets Decoder.response = .ok result := by
  have read := (Utf8.decode?_eq_some_iff octets content).mpr encoded
  have full : content ≠ [] := by
    rintro rfl
    cases parsed
  rw [← decodeRecorded_fst, decodeRecorded_of_success status octets _ content success read full]
  change (parseResponse content).mapError _ = _
  rw [parsed]
  rfl

/-- A query gives a resource with the reference that it was written with. -/
theorem Dispatch.resource_returns (dispatch : Dispatch) (reference : Reference)
    (unjoined : reference.Unjoined) (members : List (Text × Json))
    (distinct : (members.map Prod.fst).Nodup)
    (found : Json.member? members "ref" = some reference.json)
    (shallow : (Json.object [("resource", .object members)]).depth ≤ Platform.nesting)
    (store : Store) (content : Text)
    (written : (serialize (.literal (.ofJson (.object [("resource", .object members)])))).outcome
      store = .ok content)
    (status : Int) (success : 200 ≤ status ∧ status < 300) (reply : Reply)
    (brings : reply.Brings status content) :
    ∃ resource : Value, (dispatch.report .response reply).result = .ok (.response resource) ∧
      resource.resourceRef = pure reference.toValue := by
  obtain ⟨octets, encoded, result⟩ := dispatch.result_of_brings .response reply brings
  have parsed := parseResponse_resource members shallow store content written
  rw [decodeResponse_of_parsed status success content octets encoded _ parsed] at result
  refine ⟨_, result, ?_⟩
  have printable : Text.Printable "ref" := by decide
  have present : Json.member? (Json.rereadMembers [] members) "ref" = some reference.json := by
    rw [Json.member?_reread members _ printable distinct, found, Option.map_some,
      reference.reread_json unjoined]
  have refers : (Json.object (Json.rereadMembers [] members)).RefersTo Json.Falsy reference :=
    ⟨_, _, rfl, present, reference.denotes_json⟩
  exact Value.resourceRef_of_refersTo refers

/-- References come back. What a reference is written as is read as that reference, a query gives a
resource with the reference that it was written with, if there is room to read it, and what was read
as a reference from any data is read as it again after it was written. -/
theorem Reference.comes_back :
    (∀ reference : Reference,
      (do (← reference.toValue.tree Run.enclose).readRef) = pure reference.toValue) ∧
    (∀ (dispatch : Dispatch) (reference : Reference) (members : List (Text × Json)) (store : Store)
      (content : Text) (status : Int) (reply : Reply), reference.Unjoined →
        (members.map Prod.fst).Nodup → Json.member? members "ref" = some reference.json →
        (Json.object [("resource", .object members)]).depth ≤ Platform.nesting →
        (serialize (.literal (.ofJson (.object [("resource", .object members)])))).outcome store =
          .ok content →
        200 ≤ status ∧ status < 300 → reply.Brings status content →
          ∃ resource : Value, (dispatch.report .response reply).result =
              .ok (.response resource) ∧
            resource.resourceRef = pure reference.toValue) ∧
    ∀ (data : Value) (store : Store) (result : Value), data.readRef.outcome store = .ok result →
      (do (← result.tree Run.enclose).readRef) = pure result := by
  refine ⟨readRef_tree, ?_, ?_⟩
  · intro dispatch reference members store content status reply unjoined distinct found shallow
      written success brings
    exact dispatch.resource_returns reference unjoined members distinct found shallow store content
      written status success reply brings
  · intro data store result read
    obtain ⟨reference, rfl⟩ := (data.readRef_yields store).2 result read
    exact reference.readRef_tree

end

def Reference.instanceFields : List (Text × Json) :=
  [("ref", (within "1" (within "spells" (root "classes"))).json),
    ("power", .float (.finite false 1 (-1)))]

theorem Reference.instance_comes_back :
    (Reference.within "1" (within "spells" (root "classes"))).Unjoined ∧
      (instanceFields.map Prod.fst).Nodup ∧
      (Json.object [("resource", .object instanceFields)]).depth ≤ Platform.nesting ∧
      ∃ resource : Value, (Dispatch.nearby.report .response
          (.written 201 (.object [("resource", .object instanceFields)]))).result =
            .ok (.response resource) ∧
        resource.resourceRef =
          pure (.ref (.text "1") (.ref (.text "spells") (.ref (.text "classes") .null))) := by
  have unjoined : (Reference.within "1" (within "spells" (root "classes"))).Unjoined :=
    ⟨Text.unjoined_ofString _, Text.unjoined_ofString _, Text.unjoined_ofString _⟩
  have distinct : (instanceFields.map Prod.fst).Nodup := by decide
  have shallow : (Json.object [("resource", .object instanceFields)]).depth ≤ Platform.nesting := by
    decide
  have writable : (Json.object [("resource", .object instanceFields)]).Writable := by decide
  have written := (Expression.serialized_literal_iff _ .empty _).mpr ⟨writable, rfl⟩
  have brings := Reply.written_brings 201 (.object [("resource", .object instanceFields)])
  obtain ⟨-, returns, -⟩ := Reference.comes_back
  exact ⟨unjoined, distinct, shallow, returns .nearby _ instanceFields .empty _ 201 _ unjoined
    distinct rfl shallow written (by decide) brings⟩

end QueryWire
