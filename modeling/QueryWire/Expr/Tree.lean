import QueryWire.Expr.Conversion
import QueryWire.Value.Display
import QueryWire.Value.Equality

/-!
The plain data that an expression tree stands for on the wire: arrays become lists, objects a dict
under the key `object`, refs a dict under `@ref`, and calls a dict under their verb. The keys of
objects are checked here: they must be texts, and distinct.
-/

namespace QueryWire.Value

abbrev Step := Value × Run Value

abbrev PairStep := Value × Except Fault (Iteration Step)

def refuseKey (problem : Text) (key : Value) : Run Text := do
  throw (.serialization (problem ++ (← key.display)))

def checkKey (seen : List (Text × Value)) (key : Value) : Run Text := do
  match key with
  | .text key =>
    if seen.any fun (other, _) => other = key then
      refuseKey "Duplicate object key: " (.text key)
    else return key
  | key => refuseKey "Object key must be a string, got " key

def unpackStep (item : PairStep) : Run (Value × Run Value) :=
  match item.2 with
  | .ok iteration => do
    let (key, value) ← iteration.pair
    return (key.1, value.2)
  | .error fault => throw (item.1.unpackFault fault)

/-- The fields of an object in order: each is unpacked, its key checked, then its value computed. -/
def objectFields (take : Run Unit) :
    List (Text × Value) → List PairStep → Run (List (Text × Value))
  | seen, [] => return seen
  | seen, item :: items => do
    take
    let (key, compute) ← unpackStep item
    let key ← checkKey seen key
    let value ← compute
    objectFields take (seen ++ [(key, value)]) items

def textDict (entries : List (Text × Value)) : Value :=
  .dict (entries.map fun (key, value) => (.text key, value))

mutual

/-- The plain data of a node, where `keep` is what is done with each new collection. -/
def tree (keep : Value → Run Value) : Value → Run Value
  | .literal value => return value
  | .array items => do
    let steps ← itemSteps keep items
    keep (.list (← steps.forEach (·.2)))
  | .object fields => do
    let steps ← fieldSteps keep fields
    let fields ← objectFields steps.take [] (steps.remaining (← get))
    keep (textDict [("object", ← keep (textDict fields))])
  | .ref id .null => do keep (textDict [("@ref", ← keep (textDict [("id", id)]))])
  | .ref id parent => do
    let body ← keep (textDict [("id", id), ("class", ← tree keep parent)])
    keep (textDict [("@ref", body)])
  | .query _ verb argument => do
    let argument ← tree keep argument
    verb.checkHashable
    keep (.dict [(verb, argument)])
  | .level value => tree keep value
  | .bare _ => throw (.refused .notImplementedError [])
  | _ => throw .noAttribute

def itemSteps (keep : Value → Run Value) : Value → Except Fault (Iteration Step)
  | .list items | .tuple items | .set items => .ok ⟨none, steps keep items⟩
  | .dict entries | .view entries => .ok ⟨none, keySteps keep entries⟩
  | .cursor handle items => .ok ⟨some handle, steps keep items⟩
  | .errors details => itemSteps keep details
  | .text points => .ok ⟨none, points.map fun point => (.text [point], throw .noAttribute)⟩
  | .bytes octets => .ok ⟨none, octets.map fun octet => (.int octet.toNat, throw .noAttribute)⟩
  | value => .error (.notIterable value)

def steps (keep : Value → Run Value) : List Value → List Step
  | [] => []
  | item :: items => (item, tree keep item) :: steps keep items

def keySteps (keep : Value → Run Value) : List (Value × Value) → List Step
  | [] => []
  | (key, _) :: entries => (key, tree keep key) :: keySteps keep entries

def fieldSteps (keep : Value → Run Value) : Value → Except Fault (Iteration PairStep)
  | .list items | .tuple items | .set items => .ok ⟨none, pairSteps keep items⟩
  | .dict entries | .view entries => .ok ⟨none, keyPairSteps keep entries⟩
  | .cursor handle items => .ok ⟨some handle, pairSteps keep items⟩
  | .errors details => fieldSteps keep details
  | .text points => .ok ⟨none, points.map fun point =>
      (.text [point], .ok ⟨none, [(.text [point], throw .noAttribute)]⟩)⟩
  | .bytes octets => .ok ⟨none, octets.map fun octet =>
      (.int octet.toNat, .error (.notIterable (.int octet.toNat)))⟩
  | value => .error (.notIterable value)

def pairSteps (keep : Value → Run Value) : List Value → List PairStep
  | [] => []
  | item :: items => (item, itemSteps keep item) :: pairSteps keep items

def keyPairSteps (keep : Value → Run Value) : List (Value × Value) → List PairStep
  | [] => []
  | (key, _) :: entries => (key, itemSteps keep key) :: keyPairSteps keep entries

end

end QueryWire.Value
