import QueryWire.Proofs.Expr.Outline
import QueryWire.Proofs.Json.RoundTrip
import QueryWire.Proofs.Value.Frame

/-!
When an expression can be serialized, and what stops it otherwise. Trees without a wire form end in
a serialization failure; the one way out of that is a refused key that cannot even be shown.
-/

namespace QueryWire

namespace Value

mutual

theorem toJson_ofJson (json : Json) (writable : json.Writable) :
    toJson (ofJson json) = .ok json := by
  match json with
  | .null | .bool _ | .text _ => rfl
  | .int value => rw [ofJson, toJson, if_pos ((Numeral.fits_iff value).mpr writable)]
  | .float value =>
    have finite : value.isFinite = true := writable
    rw [ofJson, toJson, if_pos finite]
  | .array items =>
    rw [ofJson, toJson, toJsonItems_ofJsonItems items writable]
    rfl
  | .object members =>
    rw [ofJson, toJson, toJsonMembers_ofJsonMembers members writable]
    rfl

theorem toJsonItems_ofJsonItems (items : List Json) (writable : Json.WritableItems items) :
    toJsonItems (ofJsonItems items) = .ok items := by
  match items with
  | [] => rfl
  | item :: items =>
    rw [ofJsonItems, toJsonItems, toJson_ofJson item writable.1,
      toJsonItems_ofJsonItems items writable.2]
    rfl

theorem toJsonMembers_ofJsonMembers (members : List (Text × Json))
    (writable : Json.WritableMembers members) :
    toJsonMembers (ofJsonMembers members) = .ok members := by
  match members with
  | [] => rfl
  | (key, value) :: members =>
    rw [ofJsonMembers, toJsonMembers, toJson_ofJson value writable.1,
      toJsonMembers_ofJsonMembers members writable.2]
    rfl

end

def Unwritable (fault : Fault) : Prop := ∃ message, fault = .ambient .valueError message

mutual

theorem toJson_ofJson_error (json : Json) (unwritable : ¬json.Writable) :
    ∃ fault, toJson (ofJson json) = .error fault ∧ Unwritable fault := by
  match json with
  | .null | .bool _ | .text _ => exact (unwritable trivial).elim
  | .int value =>
    have long : ¬Numeral.fits value = true :=
      fun fits => unwritable ((Numeral.fits_iff value).mp fits)
    rw [ofJson, toJson, if_neg long]
    exact ⟨_, rfl, _, rfl⟩
  | .float value =>
    have infinite : ¬value.isFinite = true := unwritable
    rw [ofJson, toJson, if_neg infinite]
    exact ⟨_, rfl, _, rfl⟩
  | .array items =>
    obtain ⟨fault, stopped, cause⟩ := toJsonItems_ofJsonItems_error items unwritable
    rw [ofJson, toJson, stopped]
    exact ⟨fault, rfl, cause⟩
  | .object members =>
    obtain ⟨fault, stopped, cause⟩ := toJsonMembers_ofJsonMembers_error members unwritable
    rw [ofJson, toJson, stopped]
    exact ⟨fault, rfl, cause⟩

theorem toJsonItems_ofJsonItems_error (items : List Json)
    (unwritable : ¬Json.WritableItems items) :
    ∃ fault, toJsonItems (ofJsonItems items) = .error fault ∧ Unwritable fault := by
  match items with
  | [] => exact (unwritable trivial).elim
  | item :: items =>
    rw [ofJsonItems, toJsonItems]
    by_cases first : item.Writable
    · obtain ⟨fault, stopped, cause⟩ :=
        toJsonItems_ofJsonItems_error items fun others => unwritable ⟨first, others⟩
      rw [toJson_ofJson item first, stopped]
      exact ⟨fault, rfl, cause⟩
    · obtain ⟨fault, stopped, cause⟩ := toJson_ofJson_error item first
      rw [stopped]
      exact ⟨fault, rfl, cause⟩

theorem toJsonMembers_ofJsonMembers_error (members : List (Text × Json))
    (unwritable : ¬Json.WritableMembers members) :
    ∃ fault, toJsonMembers (ofJsonMembers members) = .error fault ∧ Unwritable fault := by
  match members with
  | [] => exact (unwritable trivial).elim
  | (key, value) :: members =>
    rw [ofJsonMembers, toJsonMembers]
    by_cases first : value.Writable
    · obtain ⟨fault, stopped, cause⟩ :=
        toJsonMembers_ofJsonMembers_error members fun others => unwritable ⟨first, others⟩
      rw [toJson_ofJson value first, stopped]
      exact ⟨fault, rfl, cause⟩
    · obtain ⟨fault, stopped, cause⟩ := toJson_ofJson_error value first
      rw [stopped]
      exact ⟨fault, rfl, cause⟩

end

end Value

namespace Refusal

def Shown (refusal : Refusal) (store : Store) : Prop :=
  ∀ fault, refusal.key.display.outcome store = .error fault → fault.Reported

theorem shown_of_free (refusal : Refusal) (store : Store) (free : refusal.key.enclosure? = none) :
    refusal.Shown store := by
  intro fault failed
  obtain ⟨shown, steady⟩ | steady := refusal.key.display_steady free
  · rw [steady, Run.outcome_pure] at failed
    nomatch failed
  · rw [steady, Run.outcome_throw] at failed
    cases failed
    exact ⟨_, rfl⟩

end Refusal

namespace Expression

theorem expr_toValue (expression : Expression) (store : Store) :
    store.expr expression.toValue = .ok expression.toValue :=
  Value.expr_of_isNode _ _ expression.isNode_toValue

theorem serialize_toValue (expression : Expression) :
    serialize expression.toValue = tryCatch (do
      let json ← Refusal.settle expression.wire
      return (← (Value.ofJson json).toJson).render)
    fun fault => throw (serializationFault fault) := by
  have shape : (do
      let node ← (← (get : Run Store)).expr expression.toValue
      let plain ← node.tree pure
      let json ← plain.toJson
      return json.render : Run Text) = (do
      let json ← Refusal.settle expression.wire
      return (← (Value.ofJson json).toJson).render) := by
    simp only [expr_toValue, Run.lift_ok, pure_bind, tree_toValue keeps_pure]
    cases expression.wire with
    | ok json => rfl
    | error refusal =>
      exact (Refusal.raise_bind refusal _).trans (Refusal.raise_bind refusal _).symm
  rw [serialize, shape]

theorem serialize_of_wire (expression : Expression) (json : Json)
    (wired : expression.wire = .ok json) (writable : json.Writable) :
    serialize expression.toValue = pure json.render := by
  rw [serialize_toValue, wired]
  change tryCatch (liftM (Value.ofJson json).toJson >>= _) _ = _
  rw [Value.toJson_ofJson json writable]
  rfl

theorem serialize_of_unwritable (expression : Expression) (json : Json)
    (wired : expression.wire = .ok json) (unwritable : ¬json.Writable) :
    ∃ message, serialize expression.toValue = throw (.serialization message) := by
  obtain ⟨fault, stopped, message, rfl⟩ := Value.toJson_ofJson_error json unwritable
  refine ⟨"Cannot serialize expression: " ++ message, ?_⟩
  rw [serialize_toValue, wired]
  change tryCatch (liftM (Value.ofJson json).toJson >>= _) _ = _
  rw [stopped]
  rfl

theorem outcome_of_refusal (expression : Expression) (refusal : Refusal)
    (refused : expression.wire = .error refusal) (store : Store) :
    (serialize expression.toValue).outcome store = .error (refusal.reported store) := by
  rw [serialize_toValue, refused, Refusal.settle, Refusal.raise_bind, Run.outcome_tryCatch,
    Refusal.outcome_raise, Refusal.reported]
  cases refusal.key.display.outcome store <;> rfl

def Distinct (seen : List Text) (fields : List (Value × Expression)) : Prop :=
  ∃ keys : List Text, fields.map Prod.fst = keys.map .text ∧ keys.Nodup ∧ ∀ key ∈ keys, key ∉ seen

theorem distinct_nil (seen : List Text) : Distinct seen [] :=
  ⟨[], rfl, .nil, fun _ member => nomatch member⟩

theorem text_of_accept (seen : List Text) (key : Value) (content : Text)
    (admitted : accept seen key = .ok content) : key = .text content ∧ content ∉ seen := by
  cases key with
  | text found =>
    rw [accept] at admitted
    split at admitted
    · cases admitted
    next new =>
      cases admitted
      exact ⟨rfl, new⟩
  | _ => cases admitted

theorem distinct_cons (seen : List Text) (key : Value) (value : Expression)
    (fields : List (Value × Expression)) :
    Distinct seen ((key, value) :: fields) ↔
      ∃ content, accept seen key = .ok content ∧ Distinct (seen ++ [content]) fields := by
  constructor
  · rintro ⟨_ | ⟨content, keys⟩, same, distinct, fresh⟩
    · nomatch same
    obtain ⟨rfl, others⟩ := List.cons.inj same
    rw [List.nodup_cons] at distinct
    refine ⟨content, if_neg (fresh content (.head _)), keys, others, distinct.2, ?_⟩
    intro key member found
    rcases List.mem_append.mp found with before | last
    · exact fresh key (.tail _ member) before
    · rw [List.mem_singleton.mp last] at member
      exact distinct.1 member
  · rintro ⟨content, admitted, keys, others, distinct, fresh⟩
    obtain ⟨rfl, new⟩ := text_of_accept seen key content admitted
    refine ⟨content :: keys, ?_, ?_, ?_⟩
    · rw [List.map_cons, others, List.map_cons]
    · refine List.nodup_cons.mpr ⟨fun member => ?_, distinct⟩
      exact fresh content member (List.mem_append_right _ (.head _))
    · intro key member
      rcases List.mem_cons.mp member with rfl | member
      · exact new
      · exact fun found => fresh key member (List.mem_append_left _ found)

mutual

/-- Every object has distinct texts as its keys, and every number can be written. -/
def Proper : Expression → Prop
  | .literal json => json.Writable
  | .array items => ProperItems items
  | .object fields => Distinct [] fields ∧ ProperFields fields
  | .root _ => True
  | .ref _ parent => Proper parent
  | .query _ _ argument => Proper argument
  | .level value => Proper value

def ProperItems : List Expression → Prop
  | [] => True
  | item :: items => Proper item ∧ ProperItems items

def ProperFields : List (Value × Expression) → Prop
  | [] => True
  | (_, value) :: fields => Proper value ∧ ProperFields fields

end

theorem exists_ok_bind {α β : Type} (verdict : Except Refusal α) (next : α → Except Refusal β)
    (property : β → Prop) :
    (∃ result, verdict >>= next = .ok result ∧ property result) ↔
      ∃ first, verdict = .ok first ∧ ∃ result, next first = .ok result ∧ property result := by
  constructor
  · rintro ⟨result, done, holds⟩
    obtain ⟨first, begun, rest⟩ := ok_of_bind done
    exact ⟨first, begun, result, rest, holds⟩
  · rintro ⟨first, rfl, found⟩
    exact found

theorem exists_ok_pure {α : Type} (result : α) (property : α → Prop) :
    (∃ found, (pure result : Except Refusal α) = .ok found ∧ property found) ↔ property result :=
  ⟨fun ⟨_, rfl, holds⟩ => holds, fun holds => ⟨result, rfl, holds⟩⟩

mutual

theorem proper_iff (expression : Expression) :
    expression.Proper ↔ ∃ json, expression.wire = .ok json ∧ json.Writable := by
  match expression with
  | .literal json => exact (exists_ok_pure json Json.Writable).symm
  | .array items =>
    simp only [Proper, properItems_iff items, wire, exists_ok_bind, exists_ok_pure, Json.Writable]
  | .object fields =>
    simp only [Proper, properFields_iff fields [], wire, exists_ok_bind, exists_ok_pure,
      Json.Writable, Json.WritableMembers, and_true]
  | .root id => exact ⟨fun _ => ⟨_, rfl, ⟨trivial, trivial⟩, trivial⟩, fun _ => trivial⟩
  | .ref id parent =>
    simp only [Proper, proper_iff parent, wire, exists_ok_bind, exists_ok_pure, Json.Writable,
      Json.WritableMembers, and_true, true_and]
  | .query construct verb argument =>
    simp only [Proper, proper_iff argument, wire, exists_ok_bind, exists_ok_pure, Json.Writable,
      Json.WritableMembers, and_true]
  | .level value => exact proper_iff value

theorem properItems_iff (items : List Expression) :
    ProperItems items ↔ ∃ jsons, wireItems items = .ok jsons ∧ Json.WritableItems jsons := by
  match items with
  | [] => exact ⟨fun _ => ⟨[], rfl, trivial⟩, fun _ => trivial⟩
  | item :: items =>
    simp only [ProperItems, proper_iff item, properItems_iff items, wireItems, exists_ok_bind,
      exists_ok_pure, Json.WritableItems]
    constructor
    · rintro ⟨⟨first, wired, writable⟩, jsons, others, rest⟩
      exact ⟨first, wired, jsons, others, writable, rest⟩
    · rintro ⟨first, wired, jsons, others, writable, rest⟩
      exact ⟨⟨first, wired, writable⟩, jsons, others, rest⟩

theorem properFields_iff (fields : List (Value × Expression)) (seen : List Text) :
    Distinct seen fields ∧ ProperFields fields ↔
      ∃ members, wireFields seen fields = .ok members ∧ Json.WritableMembers members := by
  match fields with
  | [] => exact ⟨fun _ => ⟨[], rfl, trivial⟩, fun _ => ⟨distinct_nil seen, trivial⟩⟩
  | (key, value) :: fields =>
    simp only [distinct_cons, ProperFields, proper_iff value, wireFields, exists_ok_bind,
      exists_ok_pure, Json.WritableMembers]
    constructor
    · rintro ⟨⟨content, admitted, distinct⟩, ⟨json, wired, writable⟩, proper⟩
      obtain ⟨members, others, rest⟩ :=
        (properFields_iff fields (seen ++ [content])).mp ⟨distinct, proper⟩
      exact ⟨content, admitted, json, wired, members, others, writable, rest⟩
    · rintro ⟨content, admitted, json, wired, members, others, writable, rest⟩
      obtain ⟨distinct, proper⟩ :=
        (properFields_iff fields (seen ++ [content])).mpr ⟨members, others, rest⟩
      exact ⟨⟨content, admitted, distinct⟩, ⟨json, wired, writable⟩, proper⟩

end

theorem serialization_iff (expression : Expression) (improper : ¬expression.Proper)
    (store : Store) :
    (∃ message, (serialize expression.toValue).outcome store = .error (.serialization message)) ↔
      ∀ refusal, expression.wire = .error refusal → refusal.Shown store := by
  cases wired : expression.wire with
  | ok json =>
    have unwritable : ¬json.Writable := fun writable =>
      improper ((proper_iff expression).mpr ⟨json, wired, writable⟩)
    obtain ⟨message, stopped⟩ := serialize_of_unwritable expression json wired unwritable
    rw [stopped]
    exact ⟨fun _ => nofun, fun _ => ⟨message, rfl⟩⟩
  | error refusal =>
    rw [outcome_of_refusal expression refusal wired store, Refusal.reported]
    constructor
    · rintro ⟨message, reported⟩ _ ⟨⟩ fault failed
      rw [failed] at reported
      exact ⟨message, Except.error.inj reported⟩
    · intro shown
      cases display : refusal.key.display.outcome store with
      | ok content => exact ⟨_, rfl⟩
      | error fault =>
        obtain ⟨message, reported⟩ := shown refusal rfl fault display
        exact ⟨message, congrArg _ reported⟩

theorem serialized_iff (expression : Expression) (store : Store) :
    (∃ content, (serialize expression.toValue).outcome store = .ok content) ↔
      expression.Proper := by
  rw [proper_iff]
  constructor
  · rintro ⟨content, written⟩
    cases wired : expression.wire with
    | ok json =>
      by_cases writable : json.Writable
      · exact ⟨json, rfl, writable⟩
      · obtain ⟨message, stopped⟩ := serialize_of_unwritable expression json wired writable
        rw [stopped, Run.outcome_throw] at written
        nomatch written
    | error refusal =>
      rw [outcome_of_refusal expression refusal wired store] at written
      nomatch written
  · rintro ⟨json, wired, writable⟩
    exact ⟨json.render, by rw [serialize_of_wire expression json wired writable, Run.outcome_pure]⟩

/-- An expression is serialized exactly if it is proper. Otherwise its serialization fails as such,
unless the key that is refused first is one that cannot be shown; then a builder is in that key. -/
theorem serialize_exact (expression : Expression) (store : Store) :
    ((∃ content, (serialize expression.toValue).outcome store = .ok content) ↔
        expression.Proper) ∧
      (¬expression.Proper →
        ((∃ message,
            (serialize expression.toValue).outcome store = .error (.serialization message)) ↔
          ∀ refusal, expression.wire = .error refusal → refusal.Shown store)) ∧
      ∀ refusal, expression.wire = .error refusal → refusal.key.enclosure? = none →
        refusal.Shown store :=
  ⟨serialized_iff expression store, fun improper => serialization_iff expression improper store,
    fun refusal _ => refusal.shown_of_free store⟩

/-- An index value that is reversed by a list of errors cannot be shown, and such a key ends the
serialization in another fault. -/
theorem serialize_unshown_key :
    (serialize (object [(.builder .indexValue 0 [], .literal (.int 1))]).toValue).outcome
      { builders := [.indexValue (.bindingSource (.text "b")) (.errors (.list [.int 5]))] } =
        .error .noAttribute := by
  rfl

end Expression

end QueryWire
