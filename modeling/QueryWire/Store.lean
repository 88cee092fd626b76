import QueryWire.Fault
import QueryWire.Value.Enclosure

/-!
The mutable part of the world that queries are built in. Builders are cells, shared by all values
that hold their handle; one-shot sequences are cells that count the items taken. What runs may
fail, and keeps the changes it made before that.
-/

namespace QueryWire

/-- Parameters of a new index. An absent field is left out on the wire. -/
structure IndexParams where
  name : Value
  source : Value
  active : Value := .bool false
  unique : Value := .bool false
  serialized : Value := .bool false
  terms : Option (List Value) := none
  values : Option (List Value) := none
  partitions : Option Int := none
  permissions : Value := .null
  data : Option Value := none

/-- Parameters of a new class. Null means that the field is left out on the wire. -/
structure ClassParams where
  name : Value
  historyDays : Value := .null
  ttlDays : Value := .null
  permissions : Value := .null
  data : Option Value := none

inductive Builder where
  | indexValue (source reverse : Value)
  | indexParams (params : IndexParams)
  | classParams (params : ClassParams)
  | indexPermission (read : Value)

def Builder.kind : Builder → BuilderKind
  | .indexValue .. => .indexValue
  | .indexParams _ => .indexParams
  | .classParams _ => .classParams
  | .indexPermission _ => .indexPermission

structure Store where
  builders : List Builder := []
  /-- How many items have been taken from each one-shot sequence. -/
  taken : List Nat := []
  identities : Nat := 0

def Store.empty : Store := {}

abbrev Run := ExceptT Fault (StateM Store)

namespace Run

def store : Run Store := get

/-- An identity that nothing else has. Zero is never given out. -/
def identity : Run Nat := do
  let store ← get
  set { store with identities := store.identities + 1 }
  return store.identities + 1

def allocate (builder : Builder) : Run Value := do
  let store ← get
  set { store with builders := store.builders ++ [builder] }
  return .builder builder.kind store.builders.length []

def openCursor (items : List Value) : Run Value := do
  let store ← get
  set { store with taken := store.taken ++ [0] }
  return .cursor store.taken.length items

def builderAt (handle : Nat) : Run Builder := do
  match (← get).builders[handle]? with
  | some builder => return builder
  | none => throw .noAttribute

def setBuilder (handle : Nat) (builder : Builder) : Run Unit :=
  modify fun store => { store with builders := store.builders.set handle builder }

def enclose (value : Value) : Run Value := do
  match value.enclosure? with
  | none => return value
  | some _ => return value.withIdentity (← identity) 0

def taken (handle : Nat) : Run Nat := do return (← get).taken.getD handle 0

def advance (handle : Nat) : Run Unit :=
  modify fun store => { store with taken := store.taken.modify handle (· + 1) }

def alone {α : Type} (run : Run α) : Except Fault α := (ExceptT.run run .empty).1

end Run

end QueryWire
