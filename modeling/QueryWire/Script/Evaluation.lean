import QueryWire.Number.Reading
import QueryWire.Script

/-!
The values that scripts make. Parts are made from left to right, and the first fault ends the whole.
-/

namespace QueryWire

variable [Platform]

namespace Value

def addEntry (done : List (Value × Value)) (key value : Value) :
    Except Fault (List (Value × Value)) := do
  key.checkHashable
  insertEntry key value done

def setOf (items : List Value) : Except Fault Value := do
  let entries ← items.foldlM (fun done item => addEntry done item .null) []
  return .set (entries.map Prod.fst)

def wrap (value : Value) (wrapping : Wrapping) : Value :=
  match wrapping with
  | .list => .list [value]
  | .tuple => .tuple [value]
  | .dict => .dict [(.text "k", value)]

def nest (wrapping : Wrapping) : (depth : Nat) → Value → Run Value
  | 0, core => return core
  | depth + 1, core => do (← Run.enclose (core.wrap wrapping)).nest wrapping depth

def times (count : Nat) : Value → Except Fault Value
  | .text content => .ok (.text (List.replicate count content).flatten)
  | .list items => .ok (.list (List.replicate count items).flatten)
  | _ => .error (.ambient .typeError [])

def durationOf (days seconds microseconds : Int) : Except Fault Value :=
  let total := (days * 86400 + seconds) * 1000000 + microseconds
  if (durationParts total).1.natAbs ≤ 999999999 then .ok (.duration total)
  else .error (.ambient .overflowError [])

end Value

namespace Script

mutual

def eval (scope : Scope) : Script → Run Value
  | .constant value => return value
  | .float spelling => do
    match Binary64.ofText? (← Run.identity) spelling with
    | some number => return .float number
    | none => throw (.ambient .valueError [])
  | .powerOfTen exponent => return .int (10 ^ exponent)
  | .repeated part count => do Run.enclose (← (← eval scope part).times count)
  | .list items => do Run.enclose (.list (← evalItems scope items))
  | .tuple items => do Run.enclose (.tuple (← evalItems scope items))
  | .set items => do Run.enclose (← Value.setOf (← evalItems scope items))
  | .cursor items => do Run.openCursor (← evalItems scope items)
  | .dict entries => do Run.enclose (.dict (← evalEntries scope [] entries))
  | .view entries => do Run.enclose (.view (← evalEntries scope [] entries))
  | .nested wrapping depth core => do (← eval scope core).nest wrapping depth
  | .unknown => do return .unknown (← Run.identity)
  | .foreign form callable => do
    let form ← eval scope form
    return .foreign (← Run.identity) form callable
  | .duration days seconds microseconds => Value.durationOf days seconds microseconds
  | .url content => do return .url (← Value.readUrl content)
  | .variable name =>
    match scope.lookup? name with
    | some value => return value
    | none => throw (.ambient .keyError [])
  | .call function arguments named => do
    let arguments ← evalItems scope arguments
    function.call arguments (← evalNamed scope named)
  | .method receiver called arguments => do
    let receiver ← eval scope receiver
    receiver.callMethod called (← evalItems scope arguments)
  | .field receiver wanted => do (← eval scope receiver).readField wanted

def evalItems (scope : Scope) : List Script → Run (List Value)
  | [] => return []
  | item :: items => do
    let first ← eval scope item
    return first :: (← evalItems scope items)

def evalEntries (scope : Scope) (done : List (Value × Value)) :
    List (Script × Script) → Run (List (Value × Value))
  | [] => return done
  | (key, value) :: entries => do
    let key ← eval scope key
    let value ← eval scope value
    evalEntries scope (← Value.addEntry done key value) entries

def evalNamed (scope : Scope) : List (String × Script) → Run (List (String × Value))
  | [] => return []
  | (name, argument) :: others => do
    let value ← eval scope argument
    return (name, value) :: (← evalNamed scope others)

end

end Script

end QueryWire
