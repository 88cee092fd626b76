import QueryWire.Proofs.Expr.Wire
import QueryWire.Response.Decode

/-!
What goes on the wire can be read back: the text of an expression is read as its plain data. No
surrogates may be joined in it, and a float need not come back as the one that was written.
-/

namespace QueryWire

theorem Text.unjoined_ofString (content : String) : (Text.ofString content).Unjoined := by
  rw [Unjoined, ofString, List.isChain_map]
  refine (List.pairwise_of_forall fun before after => ?_).isChain
  rintro ⟨high, -⟩
  have bounds : 0xD800 ≤ before.toNat ∧ before.toNat ≤ 0xDBFF :=
    (CodePoint.within_iff _ _ _).mp high
  have valid : before.toNat < 0xD800 ∨ 0xDFFF < before.toNat ∧ before.toNat < 0x110000 :=
    before.valid
  omega

open Text (unjoined_ofString)

namespace Expression

mutual

/-- Nothing in an expression gets lost on the wire: no text in it has surrogates that can be joined,
and its literals have distinct keys and no floats. -/
def Lossless : Expression → Prop
  | .literal json => json.Lossless
  | .array items => LosslessItems items
  | .object fields => LosslessFields fields
  | .root id => id.Unjoined
  | .ref id parent => id.Unjoined ∧ Lossless parent
  | .query _ verb argument => verb.Unjoined ∧ Lossless argument
  | .level value => Lossless value

def LosslessItems : List Expression → Prop
  | [] => True
  | item :: items => Lossless item ∧ LosslessItems items

def LosslessFields : List (Value × Expression) → Prop
  | [] => True
  | (key, value) :: fields =>
    (∀ content, key = .text content → content.Unjoined) ∧ Lossless value ∧ LosslessFields fields

end

theorem lossless_single (key : Text) (value : Json) (unjoined : key.Unjoined)
    (lossless : value.Lossless) : (Json.object [(key, value)]).Lossless :=
  ⟨List.pairwise_singleton _ key, unjoined, lossless, trivial⟩

mutual

theorem wire_lossless (expression : Expression) (lossless : expression.Lossless) (json : Json)
    (wired : expression.wire = .ok json) : json.Lossless := by
  match expression with
  | .literal found =>
    cases wired
    exact lossless
  | .array items =>
    obtain ⟨jsons, inner, done⟩ := ok_of_bind wired
    cases done
    exact wireItems_lossless items lossless jsons inner
  | .object fields =>
    obtain ⟨members, inner, done⟩ := ok_of_bind wired
    cases done
    obtain ⟨distinct, -, others⟩ := wireFields_lossless fields lossless [] members inner
    exact lossless_single "object" (.object members) (unjoined_ofString "object")
      ⟨distinct, others⟩
  | .root id =>
    cases wired
    exact lossless_single "@ref" _ (unjoined_ofString "@ref")
      (lossless_single "id" (.text id) (unjoined_ofString "id") lossless)
  | .ref id parent =>
    obtain ⟨above, inner, done⟩ := ok_of_bind wired
    cases done
    have distinct : (["id", "class"] : List Text).Nodup := by decide
    exact lossless_single "@ref" _ (unjoined_ofString "@ref")
      ⟨distinct, unjoined_ofString "id", lossless.1, unjoined_ofString "class",
        wire_lossless parent lossless.2 above inner, trivial⟩
  | .query construct verb argument =>
    obtain ⟨below, inner, done⟩ := ok_of_bind wired
    cases done
    exact lossless_single verb below lossless.1 (wire_lossless argument lossless.2 below inner)
  | .level value => exact wire_lossless value lossless json wired

theorem wireItems_lossless (items : List Expression) (lossless : LosslessItems items)
    (jsons : List Json) (wired : wireItems items = .ok jsons) : Json.LosslessItems jsons := by
  match items with
  | [] =>
    cases wired
    trivial
  | item :: items =>
    obtain ⟨first, begun, rest⟩ := ok_of_bind wired
    obtain ⟨others, ended, done⟩ := ok_of_bind rest
    cases done
    exact ⟨wire_lossless item lossless.1 first begun,
      wireItems_lossless items lossless.2 others ended⟩

theorem wireFields_lossless (fields : List (Value × Expression)) (lossless : LosslessFields fields)
    (seen : List Text) (members : List (Text × Json))
    (wired : wireFields seen fields = .ok members) :
    (members.map Prod.fst).Nodup ∧ (∀ key ∈ members.map Prod.fst, key ∉ seen) ∧
      Json.LosslessMembers members := by
  match fields with
  | [] =>
    cases wired
    exact ⟨.nil, nofun, trivial⟩
  | (key, value) :: fields =>
    obtain ⟨content, admitted, rest⟩ := ok_of_bind wired
    obtain ⟨json, begun, rest⟩ := ok_of_bind rest
    obtain ⟨others, ended, done⟩ := ok_of_bind rest
    cases done
    obtain ⟨rfl, new⟩ := text_of_accept seen key content admitted
    obtain ⟨distinct, fresh, inner⟩ :=
      wireFields_lossless fields lossless.2.2 (seen ++ [content]) others ended
    refine ⟨?_, ?_, lossless.1 content rfl, wire_lossless value lossless.2.1 json begun, inner⟩
    · refine List.nodup_cons.mpr ⟨fun member => ?_, distinct⟩
      exact fresh content member (List.mem_append_right _ (.head _))
    · intro found member
      rcases List.mem_cons.mp member with rfl | member
      · exact new
      · exact fun before => fresh found member (List.mem_append_left _ before)

end

theorem serialized_literal_iff (json : Json) (store : Store) (content : Text) :
    (serialize (.literal (.ofJson json))).outcome store = .ok content ↔
      json.Writable ∧ content = json.render := by
  constructor
  · intro written
    have proper : (literal json).Proper :=
      (serialized_iff (literal json) store).mp ⟨content, written⟩
    obtain ⟨other, wired, writable⟩ := (proper_iff _).mp proper
    cases wired
    have serialized := serialize_of_wire (literal json) json rfl writable
    rw [toValue] at serialized
    rw [serialized, Run.outcome_pure] at written
    exact ⟨writable, (Except.ok.inj written).symm⟩
  · rintro ⟨writable, rfl⟩
    exact congrArg (Run.outcome · store) (serialize_of_wire (literal json) json rfl writable)

/-- What a literal was serialized as is read as its JSON tree, read again. -/
theorem parse_of_literal (json : Json) (store : Store) (content : Text)
    (written : (serialize (.literal (.ofJson json))).outcome store = .ok content) (room : Nat)
    (spare : json.depth ≤ room) : Json.parse room content = .ok json.reread := by
  obtain ⟨writable, rfl⟩ := (serialized_literal_iff json store content).mp written
  exact Json.parse_reread json writable room spare

section

variable [Platform]

/-- There is room to read what an expression is on the wire. -/
def Shallow (expression : Expression) : Prop :=
  ∀ json, expression.wire = .ok json → json.depth ≤ Platform.nesting

/-- What was serialized is read as the plain data of the expression; from an object with a resource,
the response has that resource. -/
theorem loads_serialize (expression : Expression) (lossless : expression.Lossless)
    (shallow : expression.Shallow) (store : Store) (content : Text)
    (written : (serialize expression.toValue).outcome store = .ok content) :
    (∃ plain, (expression.toValue.tree Run.enclose).outcome store = .ok plain ∧
        loads content = .ok plain) ∧
      ∀ resource, expression = .literal (.object [("resource", resource)]) →
        parseResponse content = .ok (.response (.ofJson resource)) := by
  have proper : expression.Proper := (serialized_iff expression store).mp ⟨content, written⟩
  obtain ⟨json, wired, writable⟩ := (proper_iff expression).mp proper
  have rendered : content = json.render := by
    rw [serialize_of_wire expression json wired writable, Run.outcome_pure] at written
    exact (Except.ok.inj written).symm
  have parsed : loads content = .ok (.ofJson json) := by
    rw [loads, rendered, Json.parse_render json (wire_lossless expression lossless json wired)
      writable _ (shallow json wired)]
  constructor
  · refine ⟨.ofJson json, ?_, parsed⟩
    rw [tree_toValue keeps_enclose, wired]
    rfl
  · rintro resource rfl
    cases wired
    rw [parseResponse, parsed]
    rfl

end

/-- A lone surrogate before a quote and a code point beyond the basic plane, inside a response. -/
theorem loads_serialize_resource :
    parseResponse "\x7b\"resource\": [\"\\ud83d\\\"\\ud83d\\ude00\", -12]\x7d" =
      .ok (.response (.list [.text [.ofNat 0xD83D, .ofChar '"', .ofNat 0x1F600], .int (-12)])) := by
  let resource : Json := .array [.text [.ofNat 0xD83D, .ofChar '"', .ofNat 0x1F600], .int (-12)]
  have short : (Numeral.ofNat (-12 : Int).natAbs).length ≤ Numeral.digitLimit := by decide
  have unjoined : Text.Unjoined [.ofNat 0xD83D, .ofChar '"', .ofNat 0x1F600] := by decide
  have writable : (Json.object [("resource", resource)]).Writable :=
    ⟨⟨trivial, short, trivial⟩, trivial⟩
  have lossless : (literal (.object [("resource", resource)])).Lossless :=
    lossless_single "resource" resource (unjoined_ofString "resource") ⟨unjoined, trivial, trivial⟩
  have shallow : (literal (.object [("resource", resource)])).Shallow := by
    rintro json ⟨⟩
    decide
  refine (loads_serialize _ lossless shallow .empty _ ?_).2 resource rfl
  rw [serialize_of_wire _ _ rfl writable]
  exact congrArg Except.ok (by decide +kernel)

end Expression

end QueryWire
