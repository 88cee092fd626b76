import QueryWire.Expr.Wire
import QueryWire.Proofs.Run

/-!
Well-formed expression trees as a type of their own, and what they stand for on the wire. Every such
tree has plain data unless an object in it has a key that is refused; then it is the first such key
that ends the computation, whatever else may be wrong.
-/

namespace QueryWire

/-- A key that an object cannot have, and what is wrong with it. -/
structure Refusal where
  problem : Text
  key : Value

namespace Refusal

variable {α β : Type}

def raise (refusal : Refusal) : Run α := do
  throw (.serialization (refusal.problem ++ (← refusal.key.display)))

def settle : Except Refusal α → Run α
  | .ok result => pure result
  | .error refusal => refusal.raise

theorem raise_bind (refusal : Refusal) (next : α → Run β) :
    (refusal.raise : Run α) >>= next = refusal.raise := by
  simp only [raise, bind_assoc, Run.throw_bind]

theorem outcome_raise (refusal : Refusal) (store : Store) :
    (refusal.raise : Run Text).outcome store = .error
      (match refusal.key.display.outcome store with
        | .ok shown => .serialization (refusal.problem ++ shown)
        | .error fault => fault) := by
  rw [raise, Run.outcome_bind]
  cases refusal.key.display.outcome store <;> rfl

def reported (refusal : Refusal) (store : Store) : Fault :=
  match refusal.key.display.outcome store with
  | .ok shown => .serialization (refusal.problem ++ shown)
  | .error fault => serializationFault fault

end Refusal

namespace Value

theorem expr_of_isNode {m : Type → Type} [Monad m] [MonadExcept Fault m] (conversion : Conversion m)
    (node : Value) (isNode : node.isNode = true) : conversion.expr node = pure node := by
  cases node with
  | bare _ | literal _ | array _ | object _ | ref _ _ | query _ _ _ | level _ => rfl
  | _ => nomatch isNode

theorem tree_ref (keep : Value → Run Value) (id parent : Value) (below : parent ≠ .null) :
    tree keep (.ref id parent) = (do
      let body ← keep (textDict [("id", id), ("class", ← tree keep parent)])
      keep (textDict [("@ref", body)])) := by
  cases parent with
  | null => exact (below rfl).elim
  | _ => rfl

end Value

/-- Nodes with nodes as their children and JSON trees in their literals. A reference has an id, and
below the root a parent. Only the keys of objects may be anything. -/
inductive Expression where
  | literal (json : Json)
  | array (items : List Expression)
  | object (fields : List (Value × Expression))
  | root (id : Text)
  | ref (id : Text) (parent : Expression)
  | query (construct : Construct) (verb : Text) (argument : Expression)
  | level (value : Expression)

namespace Expression

mutual

def toValue : Expression → Value
  | .literal json => .literal (.ofJson json)
  | .array items => .array (.tuple (itemValues items))
  | .object fields => .object (.tuple (fieldValues fields))
  | .root id => .ref (.text id) .null
  | .ref id parent => .ref (.text id) (toValue parent)
  | .query construct verb argument => .query construct (.text verb) (toValue argument)
  | .level value => .level (toValue value)

def itemValues : List Expression → List Value
  | [] => []
  | item :: items => toValue item :: itemValues items

def fieldValues : List (Value × Expression) → List Value
  | [] => []
  | (key, value) :: fields => .tuple [key, toValue value] :: fieldValues fields

end

def accept (seen : List Text) : Value → Except Refusal Text
  | .text key =>
    if key ∈ seen then .error ⟨"Duplicate object key: ", .text key⟩ else .ok key
  | key => .error ⟨"Object key must be a string, got ", key⟩

mutual

/-- The JSON tree of an expression, or the first key that is refused. -/
def wire : Expression → Except Refusal Json
  | .literal json => .ok json
  | .array items => do return .array (← wireItems items)
  | .object fields => do return .object [("object", .object (← wireFields [] fields))]
  | .root id => .ok (.object [("@ref", .object [("id", .text id)])])
  | .ref id parent => do
    return .object [("@ref", .object [("id", .text id), ("class", ← wire parent)])]
  | .query _ verb argument => do return .object [(verb, ← wire argument)]
  | .level value => wire value

def wireItems : List Expression → Except Refusal (List Json)
  | [] => .ok []
  | item :: items => do
    let first ← wire item
    return first :: (← wireItems items)

def wireFields (seen : List Text) :
    List (Value × Expression) → Except Refusal (List (Text × Json))
  | [] => .ok []
  | (key, value) :: fields => do
    let key ← accept seen key
    let value ← wire value
    return (key, value) :: (← wireFields (seen ++ [key]) fields)

end

end Expression

end QueryWire
