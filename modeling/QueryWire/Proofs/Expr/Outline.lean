import QueryWire.Proofs.Expr.Expression
import QueryWire.Proofs.Value.Data

/-!
The plain data of an expression is its JSON tree, whatever is done with collections that have no
builder in them: there are no others on the way.
-/

namespace QueryWire

namespace Value

def plainMembers (members : List (Text × Json)) : List (Text × Value) :=
  members.map fun (key, value) => (key, ofJson value)

theorem map_plainMembers (members : List (Text × Json)) :
    (plainMembers members).map (fun (key, value) => (text key, value)) = ofJsonMembers members := by
  induction members with
  | nil => rfl
  | cons member members ih =>
    obtain ⟨key, value⟩ := member
    rw [ofJsonMembers, ← ih]
    rfl

theorem textDict_plainMembers (members : List (Text × Json)) :
    textDict (plainMembers members) = ofJson (.object members) := by
  rw [textDict, map_plainMembers, ofJson]

theorem any_plainMembers (seen : List (Text × Json)) (key : Text) :
    ((plainMembers seen).any fun (other, _) => other = key) =
      decide (key ∈ seen.map Prod.fst) := by
  rw [plainMembers, List.any_map, Bool.eq_iff_iff, decide_eq_true_eq, List.any_eq_true,
    List.mem_map]
  simp only [Function.comp_apply, decide_eq_true_eq]

theorem checkKey_plainMembers (seen : List (Text × Json)) (key : Value) :
    checkKey (plainMembers seen) key =
      Refusal.settle (Expression.accept (seen.map Prod.fst) key) := by
  cases key with
  | text key =>
    simp only [checkKey, Expression.accept, any_plainMembers, decide_eq_true_eq]
    split <;> rfl
  | _ => rfl

end Value

open Value

namespace Expression

variable (keep : Value → Run Value)

def Keeps : Prop := ∀ value : Value, value.enclosure? = none → keep value = pure value

theorem keeps_pure : Keeps pure := fun _ _ => rfl

theorem keeps_enclose : Keeps Run.enclose := enclose_of_free

variable {keep}

theorem Keeps.ofJson (keeps : Keeps keep) (json : Json) :
    keep (.ofJson json) = pure (.ofJson json) :=
  keeps _ (enclosure?_ofJson json)

theorem Keeps.members (keeps : Keeps keep) (members : List (Text × Json)) :
    keep (textDict (plainMembers members)) = pure (.ofJson (.object members)) := by
  rw [textDict_plainMembers, keeps.ofJson]

theorem isNode_toValue (expression : Expression) : expression.toValue.isNode = true := by
  cases expression <;> rfl

theorem toValue_ne_null (expression : Expression) : expression.toValue ≠ .null := by
  intro same
  have isNode := expression.isNode_toValue
  rw [same] at isNode
  nomatch isNode

mutual

/-- The plain data of an expression is its JSON tree. -/
theorem tree_toValue (keeps : Keeps keep) (expression : Expression) :
    tree keep expression.toValue = Refusal.settle (ofJson <$> expression.wire) := by
  match expression with
  | .literal json => rfl
  | .array items =>
    have inner := mapM_steps keeps items
    simp only [toValue, tree, itemSteps, Run.lift_ok, pure_bind, Iteration.forEach, inner, wire]
    cases wireItems items with
    | error refusal => exact Refusal.raise_bind refusal _
    | ok jsons => exact keeps.ofJson (.array jsons)
  | .object fields =>
    have inner := objectFields_pairSteps keeps [] fields
    have shape : tree keep (object fields).toValue = (do
        let fields ← objectFields (pure ()) (plainMembers []) (pairSteps keep (fieldValues fields))
        keep (textDict [("object", ← keep (textDict fields))])) := rfl
    rw [shape, inner, wire, List.map_nil]
    cases wireFields [] fields with
    | error refusal => exact Refusal.raise_bind refusal _
    | ok members =>
      change keep (textDict (plainMembers members)) >>= _ = _
      rw [keeps.members members, pure_bind]
      exact keeps.members [("object", .object members)]
  | .root id =>
    change keep (textDict (plainMembers [("id", .text id)])) >>= _ = _
    rw [keeps.members, pure_bind]
    exact keeps.members [("@ref", .object [("id", .text id)])]
  | .ref id parent =>
    rw [toValue, tree_ref keep _ _ parent.toValue_ne_null, tree_toValue keeps parent, wire]
    cases wire parent with
    | error refusal => exact Refusal.raise_bind refusal _
    | ok json =>
      change keep (textDict (plainMembers [("id", .text id), ("class", json)])) >>= _ = _
      rw [keeps.members, pure_bind]
      exact keeps.members [("@ref", .object [("id", .text id), ("class", json)])]
  | .query construct verb argument =>
    rw [toValue, tree, tree_toValue keeps argument, wire]
    cases wire argument with
    | error refusal => exact Refusal.raise_bind refusal _
    | ok json => exact keeps.ofJson (.object [(verb, json)])
  | .level value => exact tree_toValue keeps value

theorem mapM_steps (keeps : Keeps keep) (items : List Expression) :
    (steps keep (itemValues items)).mapM (·.2) =
      Refusal.settle (ofJsonItems <$> wireItems items) := by
  match items with
  | [] => rfl
  | item :: items =>
    rw [itemValues, steps, List.mapM_cons, tree_toValue keeps item, mapM_steps keeps items,
      wireItems]
    cases wire item with
    | error refusal => exact Refusal.raise_bind refusal _
    | ok first =>
      cases wireItems items with
      | error refusal => exact Refusal.raise_bind refusal _
      | ok others => rfl

theorem objectFields_pairSteps (keeps : Keeps keep) (seen : List (Text × Json))
    (fields : List (Value × Expression)) :
    objectFields (pure ()) (plainMembers seen) (pairSteps keep (fieldValues fields)) =
      Refusal.settle
        ((fun members => plainMembers (seen ++ members)) <$>
          wireFields (seen.map Prod.fst) fields) := by
  match fields with
  | [] =>
    rw [wireFields]
    exact congrArg (fun all => pure (plainMembers all)) (List.append_nil seen).symm
  | (key, value) :: fields =>
    have unpacked : unpackStep (.tuple [key, value.toValue],
        .ok ⟨none, [(key, tree keep key), (value.toValue, tree keep value.toValue)]⟩) =
        pure (key, tree keep value.toValue) := rfl
    rw [fieldValues, pairSteps, itemSteps, steps, steps, steps, objectFields, pure_bind, unpacked,
      pure_bind, wireFields]
    simp only [checkKey_plainMembers, tree_toValue keeps value]
    cases accept (seen.map Prod.fst) key with
    | error refusal => exact Refusal.raise_bind refusal _
    | ok key =>
      cases wire value with
      | error refusal => exact Refusal.raise_bind refusal _
      | ok json =>
        have rest := objectFields_pairSteps keeps (seen ++ [(key, json)]) fields
        have grown : plainMembers (seen ++ [(key, json)]) =
            plainMembers seen ++ [(key, ofJson json)] := List.map_append
        rw [grown, List.map_append] at rest
        change objectFields _ _ _ = Refusal.settle (_ <$> do
          return (key, json) :: (← wireFields (seen.map Prod.fst ++ [key]) fields))
        rw [rest, List.map_cons, List.map_nil]
        cases wireFields (seen.map Prod.fst ++ [key]) fields with
        | error refusal => rfl
        | ok members =>
          exact congrArg (fun all => pure (plainMembers all)) (List.append_assoc seen _ members)

end

end Expression

end QueryWire
