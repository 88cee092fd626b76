import QueryWire.Proofs.Expr.RoundTrip
import QueryWire.Proofs.Expr.Serialize
import QueryWire.Proofs.Json.Wrapping

/-!
Plain data as a type of its own. Whatever its keys are, plain data is converted into literals,
arrays and objects only, and each of its mappings goes on the wire in a wrapper. So no part of it
is read as anything but data, and different data never becomes the same text.
-/

namespace QueryWire

/-- Plain data: scalars other than floats, sequences, and mappings with texts as keys. -/
inductive Datum where
  | null
  | bool (value : Bool)
  | int (value : Int)
  | text (value : Text)
  | list (items : List Datum)
  | tuple (items : List Datum)
  | dict (entries : List (Text × Datum))
  | view (entries : List (Text × Datum))

def Conversion.Keeps {m : Type → Type} [Monad m] (conversion : Conversion m) : Prop :=
  ∀ value : Value, value.enclosure? = none → conversion.keep value = pure value

namespace Datum

mutual

def toValue : Datum → Value
  | .null => .null
  | .bool value => .bool value
  | .int value => .int value
  | .text value => .text value
  | .list items => .list (itemValues items)
  | .tuple items => .tuple (itemValues items)
  | .dict entries => .dict (entryValues entries)
  | .view entries => .view (entryValues entries)

def itemValues : List Datum → List Value
  | [] => []
  | item :: items => toValue item :: itemValues items

def entryValues : List (Text × Datum) → List (Value × Value)
  | [] => []
  | (key, value) :: entries => (.text key, toValue value) :: entryValues entries

end

mutual

/-- What data is up to the kinds of its collections: tuples are read as lists, and all mappings as
dicts, with their entries in order. -/
def reading : Datum → Json
  | .null => .null
  | .bool value => .bool value
  | .int value => .int value
  | .text value => .text value
  | .list items | .tuple items => .array (itemReadings items)
  | .dict entries | .view entries => .object (entryReadings entries)

def itemReadings : List Datum → List Json
  | [] => []
  | item :: items => reading item :: itemReadings items

def entryReadings : List (Text × Datum) → List (Text × Json)
  | [] => []
  | (key, value) :: entries => (key, reading value) :: entryReadings entries

end

mutual

def Distinct : Datum → Prop
  | .null | .bool _ | .int _ | .text _ => True
  | .list items | .tuple items => DistinctItems items
  | .dict entries | .view entries => (entries.map Prod.fst).Nodup ∧ DistinctEntries entries

def DistinctItems : List Datum → Prop
  | [] => True
  | item :: items => Distinct item ∧ DistinctItems items

def DistinctEntries : List (Text × Datum) → Prop
  | [] => True
  | (_, value) :: entries => Distinct value ∧ DistinctEntries entries

end

mutual

/-- No text has a high surrogate right before a low one, be it a key or a value. -/
def Unjoined : Datum → Prop
  | .null | .bool _ | .int _ => True
  | .text value => value.Unjoined
  | .list items | .tuple items => UnjoinedItems items
  | .dict entries | .view entries => UnjoinedEntries entries

def UnjoinedItems : List Datum → Prop
  | [] => True
  | item :: items => Unjoined item ∧ UnjoinedItems items

def UnjoinedEntries : List (Text × Datum) → Prop
  | [] => True
  | (key, value) :: entries => key.Unjoined ∧ Unjoined value ∧ UnjoinedEntries entries

end

mutual

def expression : Datum → Expression
  | .null => .literal .null
  | .bool value => .literal (.bool value)
  | .int value => .literal (.int value)
  | .text value => .literal (.text value)
  | .list items | .tuple items => .array (itemExpressions items)
  | .dict entries | .view entries => .object (entryExpressions entries)

def itemExpressions : List Datum → List Expression
  | [] => []
  | item :: items => expression item :: itemExpressions items

def entryExpressions : List (Text × Datum) → List (Value × Expression)
  | [] => []
  | (key, value) :: entries => (.text key, expression value) :: entryExpressions entries

end

section Conversion

open Expression (fieldValues)
open Value (enclosureOfItems?)

mutual

theorem free_node (datum : Datum) : datum.expression.toValue.enclosure? = none := by
  match datum with
  | .null | .bool _ | .int _ | .text _ => rfl
  | .list items | .tuple items =>
    rw [expression, Expression.toValue, Value.enclosure?, Value.enclosure?, free_items items]
    rfl
  | .dict entries | .view entries =>
    rw [expression, Expression.toValue, Value.enclosure?, Value.enclosure?, free_fields entries]
    rfl

theorem free_items (items : List Datum) :
    enclosureOfItems? (Expression.itemValues (itemExpressions items)) = none := by
  match items with
  | [] => rfl
  | item :: items =>
    rw [itemExpressions, Expression.itemValues, enclosureOfItems?, free_node item,
      free_items items, Option.none_or]

theorem free_fields (entries : List (Text × Datum)) :
    enclosureOfItems? (fieldValues (entryExpressions entries)) = none := by
  match entries with
  | [] => rfl
  | (key, value) :: entries =>
    rw [entryExpressions, fieldValues, enclosureOfItems?, free_pair key value,
      free_fields entries, Option.none_or]

theorem free_pair (key : Text) (value : Datum) :
    (Value.tuple [.text key, value.expression.toValue]).enclosure? = none := by
  rw [Value.enclosure?, enclosureOfItems?, enclosureOfItems?, enclosureOfItems?,
    Value.enclosure?_text, free_node value, Option.none_or, Option.none_or, Option.map_none]

end

variable {m : Type → Type} [Monad m] [LawfulMonad m] {conversion : Conversion m}

theorem array_of_free (keeps : conversion.Keeps) (items : List Value)
    (free : enclosureOfItems? items = none) :
    conversion.array items = pure (.array (.tuple items)) := by
  have tuple : (Value.tuple items).enclosure? = none := by
    rw [Value.enclosure?, free, Option.map_none]
  have array : (Value.array (.tuple items)).enclosure? = none := by
    rw [Value.enclosure?, tuple, Option.map_none]
  rw [Conversion.array, keeps _ tuple, pure_bind, keeps _ array]

theorem object_of_free (keeps : conversion.Keeps) (pairs : List Value)
    (free : enclosureOfItems? pairs = none) :
    conversion.object pairs = pure (.object (.tuple pairs)) := by
  have tuple : (Value.tuple pairs).enclosure? = none := by
    rw [Value.enclosure?, free, Option.map_none]
  have object : (Value.object (.tuple pairs)).enclosure? = none := by
    rw [Value.enclosure?, tuple, Option.map_none]
  rw [Conversion.object, keeps _ tuple, pure_bind, keeps _ object]

variable [MonadExcept Fault m]

mutual

/-- Data is converted into its expression, whatever is done with nodes that hold builders. -/
theorem expr_toValue (keeps : conversion.Keeps) (datum : Datum) :
    conversion.expr datum.toValue = pure datum.expression.toValue := by
  match datum with
  | .null | .bool _ | .int _ | .text _ => exact keeps _ rfl
  | .list items | .tuple items =>
    rw [toValue, Conversion.expr, exprItems_itemValues keeps items, pure_bind,
      array_of_free keeps _ (free_items items)]
    rfl
  | .dict entries | .view entries =>
    rw [toValue, Conversion.expr, exprFields_entryValues keeps entries, pure_bind,
      object_of_free keeps _ (free_fields entries)]
    rfl

theorem exprItems_itemValues (keeps : conversion.Keeps) (items : List Datum) :
    conversion.exprItems (itemValues items) =
      pure (Expression.itemValues (itemExpressions items)) := by
  match items with
  | [] => rw [itemValues, Conversion.exprItems]; rfl
  | item :: items =>
    rw [itemValues, Conversion.exprItems, expr_toValue keeps item, exprItems_itemValues keeps items,
      pure_bind, pure_bind]
    rfl

theorem exprFields_entryValues (keeps : conversion.Keeps) (entries : List (Text × Datum)) :
    conversion.exprFields (entryValues entries) =
      pure (fieldValues (entryExpressions entries)) := by
  match entries with
  | [] => rw [entryValues, Conversion.exprFields]; rfl
  | (key, value) :: entries =>
    rw [entryValues, Conversion.exprFields, expr_toValue keeps value, pure_bind, Conversion.pair,
      keeps _ (free_pair key value), pure_bind, exprFields_entryValues keeps entries, pure_bind]
    rfl

end

end Conversion

mutual

/-- On the wire data is what it is read as, with a wrapper around each object. -/
theorem wire_expression (datum : Datum) (distinct : datum.Distinct) :
    datum.expression.wire = .ok datum.reading.wrapped := by
  match datum with
  | .null | .bool _ | .int _ | .text _ => rfl
  | .list items | .tuple items =>
    rw [expression, Expression.wire, wireItems_itemExpressions items distinct]
    rfl
  | .dict entries | .view entries =>
    rw [expression, Expression.wire,
      wireFields_entryExpressions entries distinct.2 [] (fun _ _ => List.not_mem_nil) distinct.1]
    rfl

theorem wireItems_itemExpressions (items : List Datum) (distinct : DistinctItems items) :
    Expression.wireItems (itemExpressions items) = .ok (Json.wrappedItems (itemReadings items)) := by
  match items with
  | [] => rfl
  | item :: items =>
    rw [itemExpressions, Expression.wireItems, wire_expression item distinct.1,
      wireItems_itemExpressions items distinct.2]
    rfl

theorem wireFields_entryExpressions (entries : List (Text × Datum))
    (distinct : DistinctEntries entries) (seen : List Text)
    (fresh : ∀ key ∈ entries.map Prod.fst, key ∉ seen) (keys : (entries.map Prod.fst).Nodup) :
    Expression.wireFields seen (entryExpressions entries) =
      .ok (Json.wrappedMembers (entryReadings entries)) := by
  match entries with
  | [] => rfl
  | (key, value) :: entries =>
    obtain ⟨new, others⟩ := List.nodup_cons.mp keys
    have accepted : Expression.accept seen (.text key) = .ok key :=
      if_neg (fresh key (.head _))
    have later : ∀ other ∈ entries.map Prod.fst, other ∉ seen ++ [key] := by
      intro other member
      rw [List.mem_append, List.mem_singleton, not_or]
      exact ⟨fresh other (.tail _ member), fun same => new (same ▸ member)⟩
    rw [entryExpressions, Expression.wireFields, accepted]
    change (expression value).wire >>= _ = _
    rw [wire_expression value distinct.1]
    change Expression.wireFields (seen ++ [key]) _ >>= _ = _
    rw [wireFields_entryExpressions entries distinct.2 (seen ++ [key]) later others]
    rfl

end

mutual

theorem lossless_expression (datum : Datum) (unjoined : datum.Unjoined) :
    datum.expression.Lossless := by
  match datum with
  | .null | .bool _ | .int _ => trivial
  | .text value => exact unjoined
  | .list items | .tuple items => exact losslessItems_itemExpressions items unjoined
  | .dict entries | .view entries => exact losslessFields_entryExpressions entries unjoined

theorem losslessItems_itemExpressions (items : List Datum) (unjoined : UnjoinedItems items) :
    Expression.LosslessItems (itemExpressions items) := by
  match items with
  | [] => trivial
  | item :: items =>
    exact ⟨lossless_expression item unjoined.1, losslessItems_itemExpressions items unjoined.2⟩

theorem losslessFields_entryExpressions (entries : List (Text × Datum))
    (unjoined : UnjoinedEntries entries) :
    Expression.LosslessFields (entryExpressions entries) := by
  match entries with
  | [] => trivial
  | (key, value) :: entries =>
    refine ⟨?_, lossless_expression value unjoined.2.1,
      losslessFields_entryExpressions entries unjoined.2.2⟩
    rintro content ⟨⟩
    exact unjoined.1

end

theorem parse_of_serialize (datum : Datum) (distinct : datum.Distinct) (unjoined : datum.Unjoined)
    (store : Store) (content : Text)
    (written : (serialize datum.toValue).outcome store = .ok content) (room : Nat)
    (spare : datum.reading.wrapped.depth ≤ room) :
    Json.parse room content = .ok datum.reading.wrapped := by
  have converted : store.expr datum.toValue = store.expr datum.expression.toValue := by
    rw [Expression.expr_toValue]
    have keeps : (store.conversion (m := Except Fault) pure).Keeps := fun _ _ => rfl
    exact expr_toValue keeps datum
  have same : (serialize datum.expression.toValue).outcome store = .ok content := by
    rw [← written, Value.outcome_serialize, Value.outcome_serialize, converted]
  have proper := (Expression.serialized_iff datum.expression store).mp ⟨content, same⟩
  obtain ⟨json, wired, writable⟩ := (Expression.proper_iff datum.expression).mp proper
  have lossless := Expression.wire_lossless _ (datum.lossless_expression unjoined) json wired
  rw [Expression.serialize_of_wire _ json wired writable, Run.outcome_pure] at same
  rw [datum.wire_expression distinct] at wired
  cases wired
  rw [← Except.ok.inj same, Json.parse_render _ lossless writable room spare]

theorem tree_of_conversion (datum : Datum) (distinct : datum.Distinct) :
    (do (← (← Run.conversion).expr datum.toValue).tree Run.enclose : Run Value) =
      pure (.ofJson datum.reading.wrapped) := by
  have keeps (store : Store) : (store.conversion Run.enclose).Keeps := Value.enclose_of_free
  have converted (store : Store) : (store.conversion Run.enclose).expr datum.toValue =
      pure datum.expression.toValue :=
    expr_toValue (keeps store) datum
  have tree : datum.expression.toValue.tree Run.enclose =
      pure (.ofJson datum.reading.wrapped) := by
    rw [Expression.tree_toValue Expression.keeps_enclose, datum.wire_expression distinct]
    rfl
  simp only [Run.conversion, bind_assoc, pure_bind, converted, tree]
  rfl

/-- Data is data on the wire. It is always converted, and wherever its plain data could have an
expression, every object is a wrapper, so there are no references and no calls in it. Without the
wrappers it is the data again, and data with the same text is the same. -/
theorem encoding_faithful (datum : Datum) (distinct : datum.Distinct) :
    ∃ json : Json,
      (do (← (← Run.conversion).expr datum.toValue).tree Run.enclose : Run Value) =
        pure (.ofJson json) ∧
      (∀ members, (Json.object members).Stands json →
        ∃ inner, members = [(("object" : Text), Json.object inner)]) ∧
      json.strip? = some datum.reading ∧
      ∀ (other : Datum) (store later : Store) (content : Text), other.Distinct →
        datum.Unjoined → other.Unjoined →
        (serialize datum.toValue).outcome store = .ok content →
        (serialize other.toValue).outcome later = .ok content →
        datum.reading = other.reading := by
  refine ⟨datum.reading.wrapped, datum.tree_of_conversion distinct, ?_,
    Json.strip?_wrapped datum.reading, ?_⟩
  · intro members stands
    obtain ⟨part, same⟩ := stands.exists_wrapped datum.reading rfl
    obtain ⟨inner, wrapper⟩ := Json.wrapped_eq_object part members same.symm
    exact ⟨_, wrapper⟩
  · intro other store later content distinct' unjoined unjoined' written written'
    -- A reader with room for both reads the one text as either.
    let room := max datum.reading.wrapped.depth other.reading.wrapped.depth
    have first := datum.parse_of_serialize distinct unjoined store content written room
      (Nat.le_max_left _ _)
    have second := other.parse_of_serialize distinct' unjoined' later content written' room
      (Nat.le_max_right _ _)
    rw [first] at second
    exact Json.wrapped_injective _ _ (Except.ok.inj second)

def disguised : Datum := .tuple [.dict [("@ref", .view [("object", .bool true)])], .list []]

def undisguised : Datum := .list [.view [("@ref", .dict [("object", .bool true)])], .tuple []]

set_option maxRecDepth 4000 in
/-- The tags go on the wire in wrappers. -/
theorem disguised_faithful :
    let content : Text := "[\x7b\"object\": \x7b\"@ref\": " ++
      "\x7b\"object\": \x7b\"object\": true\x7d\x7d\x7d\x7d, []]"
    (disguised.Distinct ∧ disguised.Unjoined ∧
        (serialize disguised.toValue).outcome .empty = .ok content) ∧
      (undisguised.Distinct ∧ undisguised.Unjoined ∧
        (serialize undisguised.toValue).outcome .empty = .ok content) ∧
      disguised.reading = undisguised.reading ∧
      ∃ json : Json,
        (do (← (← Run.conversion).expr disguised.toValue).tree Run.enclose : Run Value) =
          pure (.ofJson json) ∧
        json.strip? = some (.array [.object [("@ref", .object [("object", .bool true)])],
          .array []]) := by
  have distinct : disguised.Distinct :=
    ⟨⟨by decide, ⟨by decide, trivial, trivial⟩, trivial⟩, trivial, trivial⟩
  have unjoined : disguised.Unjoined :=
    ⟨⟨by decide, ⟨by decide, trivial, trivial⟩, trivial⟩, trivial, trivial⟩
  obtain ⟨json, converted, -, stripped, same⟩ := encoding_faithful disguised distinct
  refine ⟨⟨distinct, unjoined, rfl⟩, ⟨distinct, unjoined, rfl⟩, ?_, json, converted, stripped⟩
  exact same undisguised .empty .empty _ distinct unjoined unjoined rfl rfl

end Datum
end QueryWire
