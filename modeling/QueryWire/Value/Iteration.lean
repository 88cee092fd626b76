import QueryWire.Store

/-!
What a loop over a value meets. Collections give their items, mappings their keys, texts their code
points, octets their numbers; a one-shot sequence gives what has not been taken from it.
-/

namespace QueryWire

/-- The items of a loop, and the one-shot sequence that they are taken from, if it is one. -/
structure Iteration (α : Type) where
  cursor : Option Nat
  items : List α

namespace Iteration

def remaining {α : Type} (iteration : Iteration α) (store : Store) : List α :=
  match iteration.cursor with
  | none => iteration.items
  | some handle => iteration.items.drop (store.taken.getD handle 0)

def take {α : Type} (iteration : Iteration α) : Run Unit :=
  match iteration.cursor with
  | none => return ()
  | some handle => Run.advance handle

/-- Runs through items in their places, each one taken before its turn. One that something else has
taken meanwhile is passed over. -/
def eachTaken {α β : Type} (handle : Nat) (body : α → Run β) : List (α × Nat) → Run (List β)
  | [] => return []
  | (item, place) :: rest => do
    if place < (← Run.taken handle) then eachTaken handle body rest
    else
      Run.advance handle
      let first ← body item
      return first :: (← eachTaken handle body rest)

def forEach {α β : Type} (body : α → Run β) (iteration : Iteration α) : Run (List β) :=
  match iteration.cursor with
  | none => iteration.items.mapM body
  | some handle => eachTaken handle body iteration.items.zipIdx

/-- Exactly two items. A one-shot sequence loses those it was asked for, up to a third. -/
def pair {α : Type} (iteration : Iteration α) : Run (α × α) := do
  match iteration.remaining (← get) with
  | [] => throw (.tooFewToUnpack 0)
  | [_] =>
    iteration.take
    throw (.tooFewToUnpack 1)
  | [first, second] =>
    iteration.take
    iteration.take
    return (first, second)
  | _ =>
    iteration.take
    iteration.take
    iteration.take
    throw .tooManyToUnpack

end Iteration

namespace Value

def iteration : Value → Except Fault (Iteration Value)
  | .list items | .tuple items | .set items => .ok ⟨none, items⟩
  | .dict entries | .view entries => .ok ⟨none, entries.map Prod.fst⟩
  | .text points => .ok ⟨none, points.map fun point => .text [point]⟩
  | .bytes octets => .ok ⟨none, octets.map fun octet => .int octet.toNat⟩
  | .cursor handle items => .ok ⟨some handle, items⟩
  | .errors details => details.iteration
  | value => .error (.notIterable value)

def collect (value : Value) : Run (List Value) := do
  let iteration ← value.iteration
  iteration.forEach pure

def toTuple (value : Value) : Run Value := do
  match value with
  | .tuple items => return .tuple items
  | value => Run.enclose (.tuple (← value.collect))

def unpackFault (value : Value) (fault : Fault) : Fault :=
  match value with
  | .errors _ => fault
  | _ => .notUnpackable value

def unpackPair (value : Value) : Run (Value × Value) :=
  match value.iteration with
  | .ok iteration => iteration.pair
  | .error fault => throw (value.unpackFault fault)

def length : Value → Except Fault Nat
  | .list items | .tuple items | .set items => .ok items.length
  | .dict entries | .view entries => .ok entries.length
  | .text points => .ok points.length
  | .bytes octets => .ok octets.length
  | .errors details => details.length
  | value => .error (.noLength value)

def truth : Value → Except Fault Bool
  | .null => .ok false
  | .bool value => .ok value
  | .int value => .ok (value ≠ 0)
  | .float value => .ok !value.isZero
  | .duration microseconds => .ok (microseconds ≠ 0)
  | .text points => .ok !points.isEmpty
  | .bytes octets => .ok !octets.isEmpty
  | .list items | .tuple items | .set items => .ok !items.isEmpty
  | .dict entries | .view entries => .ok !entries.isEmpty
  | .errors details => do return (← details.length) ≠ 0
  | _ => .ok true

end Value

end QueryWire
