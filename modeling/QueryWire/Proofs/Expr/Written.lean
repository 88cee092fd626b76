import QueryWire.Proofs.Expr.Expression
import QueryWire.Proofs.Value.Settled

/-!
What a settled node is written as. The store has no part in it, but for one thing: a key that an
object refuses is shown as it is when that happens, so what ends the serialization may depend on
builders in the key. What can be written has no builder in it at all.
-/

namespace QueryWire

namespace Run

variable {α β : Type}

/-- A computation that is the same in every store until it refuses a key. -/
def Fixed (run : Run α) : Prop :=
  (∃ value, run = pure value) ∨ (∃ fault, run = throw fault) ∨
    ∃ refusal : Refusal, run = refusal.raise

namespace Fixed

theorem result (value : α) : Fixed (pure value) := .inl ⟨value, rfl⟩

theorem fault (fault : Fault) : Fixed (throw fault : Run α) := .inr (.inl ⟨fault, rfl⟩)

theorem refusal (refusal : Refusal) : Fixed (refusal.raise : Run α) := .inr (.inr ⟨refusal, rfl⟩)

theorem lift (verdict : Except Fault α) : Fixed (liftM verdict) := by
  cases verdict with
  | error cause => exact fault cause
  | ok value => exact result value

theorem bind {run : Run α} {next : α → Run β} (first : Fixed run)
    (others : ∀ value, Fixed (next value)) : Fixed (run >>= next) := by
  obtain ⟨value, rfl⟩ | ⟨cause, rfl⟩ | ⟨refused, rfl⟩ := first
  · rw [pure_bind]
    exact others value
  · exact fault cause
  · rw [refused.raise_bind]
    exact refusal refused

end Fixed

theorem not_throw_eq_pure (fault : Fault) (result : α) : (throw fault : Run α) ≠ pure result :=
  fun same => nomatch congrArg (outcome · .empty) same

theorem not_raise_eq_pure (refusal : Refusal) (result : α) :
    (refusal.raise : Run α) ≠ pure result := by
  intro same
  have outcomes := congrArg (outcome · .empty) same
  rw [Refusal.raise] at outcomes
  simp only [outcome_bind, outcome_pure] at outcomes
  cases shown : outcome refusal.key.display .empty <;> rw [shown] at outcomes <;> cases outcomes

theorem pure_injective {first second : α} (same : (pure first : Run α) = pure second) :
    first = second :=
  Except.ok.inj (congrArg (outcome · .empty) same)

theorem Fixed.pure_of_bind {run : Run α} {next : α → Run β} {result : β} (first : Fixed run)
    (done : run >>= next = pure result) : ∃ value, run = pure value ∧ next value = pure result := by
  obtain ⟨value, rfl⟩ | ⟨cause, rfl⟩ | ⟨refused, rfl⟩ := first
  · exact ⟨value, rfl, by rwa [pure_bind] at done⟩
  · exact (not_throw_eq_pure cause result done).elim
  · rw [refused.raise_bind] at done
    exact (not_raise_eq_pure refused result done).elim

end Run

open Run (Fixed)

namespace Value

theorem checkKey_fixed (seen : List (Text × Value)) (key : Value) : Fixed (checkKey seen key) := by
  cases key with
  | text content =>
    rw [checkKey]
    split
    · exact .refusal ⟨"Duplicate object key: ", .text content⟩
    · exact .result content
  | _ => exact .refusal ⟨"Object key must be a string, got ", _⟩

theorem unpackStep_steps (field : Value) (items : List Value) :
    unpackStep (field, .ok ⟨none, steps pure items⟩) =
      match items with
      | [key, value] => pure (key, tree pure value)
      | [] => throw (.tooFewToUnpack 0)
      | [_] => throw (.tooFewToUnpack 1)
      | _ => throw .tooManyToUnpack := by
  match items with
  | [] | [_] | [_, _] | _ :: _ :: _ :: _ => rfl

mutual

theorem tree_fixed (value : Value) (settled : value.Settled) : Fixed (tree pure value) := by
  match value with
  | .literal value => exact .result value
  | .array (.list items) | .array (.tuple items) =>
    exact (mapM_fixed items settled).bind fun _ => .result _
  | .object (.list fields) | .object (.tuple fields) =>
    exact (objectFields_fixed [] fields settled).bind fun _ => .result _
  | .ref id parent =>
    by_cases root : parent = .null
    · subst root
      exact .result _
    · rw [tree_ref pure id parent root]
      exact (tree_fixed parent settled).bind fun _ => .result _
  | .query construct verb argument =>
    exact (tree_fixed argument settled).bind fun _ => (Fixed.lift _).bind fun _ => .result _
  | .level value => exact tree_fixed value settled
  | .bare _ | .null | .bool _ | .int _ | .float _ | .text _ | .bytes _ | .list _ | .tuple _ | .set _
  | .dict _ | .view _ | .duration _ | .url _ | .response _ | .errorDetail .. | .errors _
  | .fieldSource _ | .bindingSource _ | .term .. | .builder .. | .cursor .. | .foreign ..
  | .unknown _ | .failure .. =>
    exact .fault _

theorem mapM_fixed (items : List Value) (settled : SettledItems items) :
    Fixed ((steps pure items).mapM (·.2)) := by
  match items with
  | [] => exact .result []
  | item :: items =>
    rw [steps, List.mapM_cons]
    refine (tree_fixed item settled.1).bind fun _ => ?_
    exact (mapM_fixed items settled.2).bind fun _ => .result _

theorem objectFields_fixed (seen : List (Text × Value)) (fields : List Value)
    (held : HeldItems fields) : Fixed (objectFields (pure ()) seen (pairSteps pure fields)) := by
  match fields with
  | [] => exact .result seen
  | .list [key, value] :: fields | .tuple [key, value] :: fields =>
    rw [pairSteps, itemSteps, objectFields, pure_bind, unpackStep_steps, pure_bind]
    refine (checkKey_fixed seen key).bind fun key => ?_
    refine (tree_fixed value held.1.2.1).bind fun plain => ?_
    exact objectFields_fixed (seen ++ [(key, plain)]) fields held.2
  | .list [] :: _ | .list [_] :: _ | .list (_ :: _ :: _ :: _) :: _ | .tuple [] :: _
  | .tuple [_] :: _ | .tuple (_ :: _ :: _ :: _) :: _ =>
    exact .fault _

end

def Writable (plain : Value) : Prop := ∃ json, plain.toJson = .ok json

theorem writable_of_items (items : List Value) (jsons : List Json)
    (written : toJsonItems items = .ok jsons) : ∀ item ∈ items, item.Writable := by
  induction items generalizing jsons with
  | nil => nofun
  | cons item items ih =>
    rw [toJsonItems] at written
    obtain ⟨first, here, rest⟩ := ok_of_bind written
    obtain ⟨others, later, _⟩ := ok_of_bind rest
    exact List.forall_mem_cons.mpr ⟨⟨first, here⟩, ih others later⟩

theorem writable_of_members (entries : List (Value × Value)) (members : List (Text × Json))
    (written : toJsonMembers entries = .ok members) :
    ∀ entry ∈ entries, (∃ key, jsonKey entry.1 = .ok key) ∧ entry.2.Writable := by
  induction entries generalizing members with
  | nil => nofun
  | cons entry entries ih =>
    obtain ⟨key, value⟩ := entry
    rw [toJsonMembers] at written
    obtain ⟨name, named, rest⟩ := ok_of_bind written
    obtain ⟨json, here, rest⟩ := ok_of_bind rest
    obtain ⟨others, later, _⟩ := ok_of_bind rest
    exact List.forall_mem_cons.mpr ⟨⟨⟨name, named⟩, json, here⟩, ih others later⟩

theorem Writable.items {items : List Value} (writable : (list items).Writable) :
    ∀ item ∈ items, item.Writable := by
  obtain ⟨json, written⟩ := writable
  rw [toJson] at written
  obtain ⟨jsons, inner, _⟩ := ok_of_bind written
  exact writable_of_items items jsons inner

theorem Writable.entries {entries : List (Value × Value)} (writable : (dict entries).Writable) :
    ∀ entry ∈ entries, (∃ key, jsonKey entry.1 = .ok key) ∧ entry.2.Writable := by
  obtain ⟨json, written⟩ := writable
  rw [toJson] at written
  obtain ⟨members, inner, _⟩ := ok_of_bind written
  exact writable_of_members entries members inner

theorem Writable.members {members : List (Text × Value)} (writable : (textDict members).Writable) :
    ∀ member ∈ members, member.2.Writable :=
  fun member among => (writable.entries (.text member.1, member.2) (List.mem_map_of_mem among)).2

theorem free_of_jsonKey (key : Value) (name : Text) (named : jsonKey key = .ok name) :
    key.enclosure? = none := by
  cases key with
  | null | bool _ | int _ | float _ | text _ => rfl
  | _ => nomatch named

mutual

theorem free_of_toJson (value : Value) (json : Json) (written : toJson value = .ok json) :
    value.enclosure? = none := by
  cases value with
  | null | bool _ | int _ | float _ | text _ => rfl
  | list items | tuple items =>
    rw [toJson] at written
    obtain ⟨jsons, inner, _⟩ := ok_of_bind written
    rw [enclosure?, free_of_toJsonItems items jsons inner, Option.map_none]
  | dict entries =>
    rw [toJson] at written
    obtain ⟨members, inner, _⟩ := ok_of_bind written
    rw [enclosure?, free_of_toJsonMembers entries members inner, Option.map_none]
  | _ => nomatch written

theorem free_of_toJsonItems (items : List Value) (jsons : List Json)
    (written : toJsonItems items = .ok jsons) : enclosureOfItems? items = none := by
  match items with
  | [] => rfl
  | item :: items =>
    rw [toJsonItems] at written
    obtain ⟨first, here, rest⟩ := ok_of_bind written
    obtain ⟨others, later, _⟩ := ok_of_bind rest
    rw [enclosureOfItems?, free_of_toJson item first here, free_of_toJsonItems items others later,
      Option.none_or]

theorem free_of_toJsonMembers (entries : List (Value × Value)) (members : List (Text × Json))
    (written : toJsonMembers entries = .ok members) : enclosureOfEntries? entries = none := by
  match entries with
  | [] => rfl
  | (key, value) :: entries =>
    rw [toJsonMembers] at written
    obtain ⟨name, named, rest⟩ := ok_of_bind written
    obtain ⟨json, here, rest⟩ := ok_of_bind rest
    obtain ⟨others, later, _⟩ := ok_of_bind rest
    rw [enclosureOfEntries?, free_of_jsonKey key name named, free_of_toJson value json here,
      free_of_toJsonMembers entries others later, Option.none_or, Option.none_or]

end

theorem Writable.free {plain : Value} (writable : plain.Writable) : plain.enclosure? = none := by
  obtain ⟨json, written⟩ := writable
  exact free_of_toJson plain json written

theorem mem_of_objectFields (seen : List (Text × Value)) (fields : List Value)
    (held : HeldItems fields) (result : List (Text × Value))
    (done : objectFields (pure ()) seen (pairSteps pure fields) = pure result) :
    ∀ field ∈ seen, field ∈ result := by
  match fields with
  | [] =>
    rw [← Run.pure_injective done]
    exact fun _ member => member
  | .list [key, value] :: fields | .tuple [key, value] :: fields =>
    rw [pairSteps, itemSteps, objectFields, pure_bind, unpackStep_steps, pure_bind] at done
    obtain ⟨key, _, done⟩ := (checkKey_fixed seen key).pure_of_bind done
    obtain ⟨plain, _, done⟩ := (tree_fixed value held.1.2.1).pure_of_bind done
    intro field member
    refine mem_of_objectFields (seen ++ [(key, plain)]) fields held.2 result done field ?_
    exact List.mem_append_left _ member
  | .list [] :: _ | .list [_] :: _ | .list (_ :: _ :: _ :: _) :: _ | .tuple [] :: _
  | .tuple [_] :: _ | .tuple (_ :: _ :: _ :: _) :: _ =>
    exact (Run.not_throw_eq_pure _ result done).elim

theorem free_of_checkKey (seen : List (Text × Value)) (key : Value) (name : Text)
    (done : checkKey seen key = pure name) : key.enclosure? = none := by
  cases key with
  | text content => rfl
  | _ => exact (Run.not_raise_eq_pure ⟨"Object key must be a string, got ", _⟩ name done).elim

mutual

/-- A settled value whose plain data can be written has no builder in it. -/
theorem free_of_tree (value : Value) (settled : value.Settled) (plain : Value)
    (done : tree pure value = pure plain) (writable : plain.Writable) :
    value.enclosure? = none := by
  match value with
  | .literal value =>
    rw [← Run.pure_injective done] at writable
    rw [enclosure?, writable.free, Option.map_none]
  | .array (.list items) | .array (.tuple items) =>
    obtain ⟨plains, inner, last⟩ := (mapM_fixed items settled).pure_of_bind done
    rw [← Run.pure_injective last] at writable
    rw [enclosure?, enclosure?, free_of_mapM items settled plains inner writable.items,
      Option.map_none, Option.map_none]
  | .object (.list fields) | .object (.tuple fields) =>
    obtain ⟨members, inner, last⟩ := (objectFields_fixed [] fields settled).pure_of_bind done
    rw [pure_bind] at last
    rw [← Run.pure_injective last] at writable
    have each := (writable.members _ (.head _)).members
    rw [enclosure?, enclosure?, free_of_objectFields [] fields settled members inner each,
      Option.map_none, Option.map_none]
  | .ref id parent =>
    by_cases root : parent = .null
    · subst root
      rw [tree, pure_bind] at done
      rw [← Run.pure_injective done] at writable
      have free := ((writable.members _ (.head _)).members _ (.head _)).free
      have absent : null.enclosure? = none := rfl
      rw [enclosure?, free, absent, Option.or_none, Option.map_none]
    · rw [tree_ref pure id parent root] at done
      obtain ⟨plain, inner, last⟩ := (tree_fixed parent settled).pure_of_bind done
      rw [pure_bind] at last
      rw [← Run.pure_injective last] at writable
      have each := (writable.members _ (.head _)).members
      have below := free_of_tree parent settled plain inner (each _ (.tail _ (.head _)))
      rw [enclosure?, (each _ (.head _)).free, below, Option.or_none, Option.map_none]
  | .query construct verb argument =>
    obtain ⟨plain, inner, last⟩ := (tree_fixed argument settled).pure_of_bind done
    obtain ⟨_, _, last⟩ := (Fixed.lift _).pure_of_bind last
    rw [← Run.pure_injective last] at writable
    obtain ⟨⟨name, named⟩, below⟩ := writable.entries _ (.head _)
    rw [enclosure?, free_of_jsonKey verb name named,
      free_of_tree argument settled plain inner below, Option.or_none, Option.map_none]
  | .level value =>
    rw [enclosure?, free_of_tree value settled plain done writable, Option.map_none]
  | .bare _ | .null | .bool _ | .int _ | .float _ | .text _ | .bytes _ | .list _ | .tuple _ | .set _
  | .dict _ | .view _ | .duration _ | .url _ | .response _ | .errorDetail .. | .errors _
  | .fieldSource _ | .bindingSource _ | .term .. | .builder .. | .cursor .. | .foreign ..
  | .unknown _ | .failure .. =>
    exact (Run.not_throw_eq_pure _ plain done).elim

theorem free_of_mapM (items : List Value) (settled : SettledItems items) (plains : List Value)
    (done : (steps pure items).mapM (·.2) = pure plains)
    (writable : ∀ plain ∈ plains, plain.Writable) : enclosureOfItems? items = none := by
  match items with
  | [] => rfl
  | item :: items =>
    rw [steps, List.mapM_cons] at done
    obtain ⟨first, here, done⟩ := (tree_fixed item settled.1).pure_of_bind done
    obtain ⟨others, later, done⟩ := (mapM_fixed items settled.2).pure_of_bind done
    rw [← Run.pure_injective done, List.forall_mem_cons] at writable
    rw [enclosureOfItems?, free_of_tree item settled.1 first here writable.1,
      free_of_mapM items settled.2 others later writable.2, Option.or_none]

theorem free_of_objectFields (seen : List (Text × Value)) (fields : List Value)
    (held : HeldItems fields) (members : List (Text × Value))
    (done : objectFields (pure ()) seen (pairSteps pure fields) = pure members)
    (writable : ∀ member ∈ members, member.2.Writable) : enclosureOfItems? fields = none := by
  match fields with
  | [] => rfl
  | .list [key, value] :: fields | .tuple [key, value] :: fields =>
    rw [pairSteps, itemSteps, objectFields, pure_bind, unpackStep_steps, pure_bind] at done
    obtain ⟨name, checked, done⟩ := (checkKey_fixed seen key).pure_of_bind done
    obtain ⟨plain, inner, done⟩ := (tree_fixed value held.1.2.1).pure_of_bind done
    -- The value is written with the whole, so it can be written itself.
    have among := mem_of_objectFields (seen ++ [(name, plain)]) fields held.2 members done
      (name, plain) (List.mem_append_right _ (.head _))
    have below := free_of_tree value held.1.2.1 plain inner (writable _ among)
    have others :=
      free_of_objectFields (seen ++ [(name, plain)]) fields held.2 members done writable
    simp only [enclosureOfItems?, enclosure?, free_of_checkKey seen key name checked, below, others,
      Option.or_none, Option.map_none]
  | .list [] :: _ | .list [_] :: _ | .list (_ :: _ :: _ :: _) :: _ | .tuple [] :: _
  | .tuple [_] :: _ | .tuple (_ :: _ :: _ :: _) :: _ =>
    exact (Run.not_throw_eq_pure _ members done).elim

end

end Value

end QueryWire
