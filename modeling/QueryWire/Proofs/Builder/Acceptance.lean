import QueryWire.Proofs.Builder
import QueryWire.Proofs.Expr.Neutral

/-!
A setter call in its two steps. The argument is accepted or refused without a look at the builder,
and what is made of it is put into the builder, one place for each setter. What has been put into a
place stays there, and what is in one place says nothing about another.
-/

namespace QueryWire

open Run (Neutral Same Spares Still)

namespace Setter

abbrev Content : Setter → Type
  | .terms | .values => List Value
  | .partitions => Int
  | .read | .reverse | .active | .unique | .serialized | .permissions | .data | .historyDays
  | .ttlDays => Value

def accept (argument : Value) : (setter : Setter) → Run setter.Content
  | .terms | .values => argument.collect
  | .partitions => checkPartitions argument
  | .data => userData argument
  | .read | .reverse | .active | .unique | .serialized | .permissions | .historyDays
  | .ttlDays => return argument

end Setter

/-- Puts content in its place. Other kinds of builders have no such place. -/
def IndexParams.put (params : IndexParams) : (setter : Setter) → setter.Content → IndexParams
  | .active, value => { params with active := value }
  | .unique, value => { params with unique := value }
  | .serialized, value => { params with serialized := value }
  | .terms, items => { params with terms := some items }
  | .values, items => { params with values := some items }
  | .partitions, count => { params with partitions := some count }
  | .permissions, value => { params with permissions := value }
  | .data, node => { params with data := some node }
  | .read, _ | .reverse, _ | .historyDays, _ | .ttlDays, _ => params

def ClassParams.put (params : ClassParams) : (setter : Setter) → setter.Content → ClassParams
  | .historyDays, value => { params with historyDays := value }
  | .ttlDays, value => { params with ttlDays := value }
  | .permissions, value => { params with permissions := value }
  | .data, node => { params with data := some node }
  | .read, _ | .reverse, _ | .active, _ | .unique, _ | .serialized, _ | .terms, _ | .values, _
  | .partitions, _ => params

/-- What is in a place. Flags and settings that may be null are there from the beginning. -/
def IndexParams.content? (params : IndexParams) : (setter : Setter) → Option setter.Content
  | .active => some params.active
  | .unique => some params.unique
  | .serialized => some params.serialized
  | .terms => params.terms
  | .values => params.values
  | .partitions => params.partitions
  | .permissions => some params.permissions
  | .data => params.data
  | .read | .reverse | .historyDays | .ttlDays => none

def ClassParams.content? (params : ClassParams) : (setter : Setter) → Option setter.Content
  | .historyDays => some params.historyDays
  | .ttlDays => some params.ttlDays
  | .permissions => some params.permissions
  | .data => params.data
  | .read | .reverse | .active | .unique | .serialized | .terms | .values | .partitions => none

namespace Builder

def put (builder : Builder) (setter : Setter) (content : setter.Content) : Builder :=
  match builder, setter, content with
  | .indexValue source _, .reverse, value => .indexValue source value
  | .indexPermission _, .read, value => .indexPermission value
  | .indexParams params, setter, content => .indexParams (params.put setter content)
  | .classParams params, setter, content => .classParams (params.put setter content)
  | builder, _, _ => builder

def content? (builder : Builder) (setter : Setter) : Option setter.Content :=
  match builder, setter with
  | .indexValue _ reverse, .reverse => some reverse
  | .indexPermission read, .read => some read
  | .indexParams params, setter => params.content? setter
  | .classParams params, setter => params.content? setter
  | _, _ => none

variable (builder : Builder)

theorem content?_put_same (setter : Setter) (content : setter.Content)
    (applies : setter.appliesTo builder.kind = true) :
    (builder.put setter content).content? setter = some content := by
  cases builder <;> cases setter <;> first | rfl | nomatch applies

theorem content?_put_other (setter other : Setter) (content : setter.Content)
    (different : setter ≠ other) :
    (builder.put setter content).content? other = builder.content? other := by
  cases builder <;> cases setter <;> cases other <;> first | rfl | exact absurd rfl different

theorem put_comm (setter other : Setter) (content : setter.Content) (second : other.Content)
    (different : setter ≠ other) :
    (builder.put setter content).put other second =
      (builder.put other second).put setter content := by
  cases builder <;> cases setter <;> cases other <;> first | rfl | exact absurd rfl different

def receive (setter : Setter) : Option setter.Content → Builder
  | none => builder
  | some content => builder.put setter content

theorem receive_kind (setter : Setter) (given : Option setter.Content) :
    (builder.receive setter given).kind = builder.kind := by
  cases given with
  | none => rfl
  | some content => cases builder <;> cases setter <;> rfl

theorem receive_comm (setter other : Setter) (given : Option setter.Content)
    (second : Option other.Content) (different : setter ≠ other) :
    (builder.receive setter given).receive other second =
      (builder.receive other second).receive setter given := by
  cases given with
  | none => rfl
  | some content =>
    cases second with
    | none => rfl
    | some second => exact builder.put_comm setter other content second different

/-- A setter that a builder does not have is refused. Any other one accepts or refuses its argument
and then puts it in its place. -/
theorem set_eq (argument : Value) (setter : Setter) :
    builder.set argument setter =
      if setter.appliesTo builder.kind then
        do return builder.put setter (← setter.accept argument)
      else throw .noAttribute := by
  cases builder <;> cases setter <;> first | rfl | exact map_bind _ _ _

end Builder

theorem userData_cases (argument : Value) :
    userData argument = pure argument ∨
      ∀ store, ExceptT.run (userData argument) store =
        ExceptT.run ((store.conversion Run.enclose).mapping argument) store := by
  cases argument with
  | object fields => exact .inl rfl
  | _ => exact .inr fun _ => rfl

theorem userData_spares (argument : Value) : Spares (userData argument) := by
  obtain same | converted := userData_cases argument
  · rw [same]
    exact .result argument trivial
  · intro store
    rw [Run.YieldsIn, Run.leaves, converted]
    exact ⟨((store.mapping_neutral argument).spares store).1, fun _ _ => trivial⟩

def Value.partitions? : Value → Option Int
  | .int count => if 1 ≤ count ∧ count ≤ maxPartitions then some count else none
  | _ => none

theorem Value.partitions?_bounds (value : Value) (count : Int)
    (found : value.partitions? = some count) : 1 ≤ count ∧ count ≤ maxPartitions := by
  cases value with
  | int n =>
    obtain ⟨bounds, same⟩ := Option.ite_none_right_eq_some.mp found
    cases same
    exact bounds
  | _ => nomatch found

theorem checkPartitions_toOption (argument : Value) (store : Store) :
    ((checkPartitions argument).outcome store).toOption = argument.partitions? := by
  have refused (shown : Run Text) (cause : Text → Fault) :
      (Run.outcome (shown >>= fun text => throw (cause text) : Run Int) store).toOption = none := by
    rw [Run.outcome_bind]
    cases shown.outcome store <;> rfl
  cases argument with
  | int count =>
    rw [checkPartitions, Value.partitions?]
    split
    · rfl
    · exact refused _ _
  | _ => exact refused _ _

namespace Setter

theorem accept_still (setter : Setter) (argument : Value) (plain : setter ≠ .data) :
    Still (setter.accept argument) := by
  cases setter with
  | terms | values => exact argument.collect_still
  | partitions => exact checkPartitions_still argument
  | data => exact absurd rfl plain
  | _ => exact .result argument

theorem accept_spares (setter : Setter) (argument : Value) : Spares (setter.accept argument) := by
  by_cases data : setter = .data
  · subst data
    exact userData_spares argument
  · exact (setter.accept_still argument data).spares

/-- What a call gives to a builder of some kind, if it is accepted. -/
def given? (store : Store) (kind : BuilderKind) (argument : Value) (setter : Setter) :
    Option setter.Content :=
  if setter.appliesTo kind then ((setter.accept argument).outcome store).toOption else none

theorem given?_applies (setter : Setter) (store : Store) (kind : BuilderKind) (argument : Value)
    (content : setter.Content) (given : setter.given? store kind argument = some content) :
    setter.appliesTo kind = true :=
  (Option.ite_none_right_eq_some.mp given).1

end Setter

namespace Run

variable (handle : Nat) (setter : Setter) (argument : Value) (store : Store)

section

variable (builder : Builder) (found : store.builders[handle]? = some builder)

include found

theorem run_adjust :
    ExceptT.run (adjust handle setter argument) store =
      ExceptT.run (builder.set argument setter >>= setBuilder handle) store := by
  have reads : ExceptT.run (builderAt handle) store = (.ok builder, store) := by
    rw [run_builderAt, found]
    rfl
  rw [adjust, run_bind, outcome, leaves, reads]

/-- A call changes its place in the one builder if it is accepted, and nothing if it is refused. -/
theorem adjust_builders :
    ((adjust handle setter argument).leaves store).builders =
      store.builders.set handle
        (builder.receive setter (setter.given? store builder.kind argument)) := by
  have unchanged : store.builders.set handle builder = store.builders := by
    obtain ⟨within, rfl⟩ := List.getElem?_eq_some_iff.mp found
    exact List.set_getElem_self within
  have spared := (setter.accept_spares argument store).1
  rw [leaves, run_adjust handle setter argument store builder found, ← leaves, builder.set_eq,
    Setter.given?]
  split
  · rw [bind_assoc, leaves_bind]
    cases (setter.accept argument).outcome store with
    | error fault => exact spared.trans unchanged.symm
    | ok content =>
      change ((setter.accept argument).leaves store).builders.set handle _ = _
      rw [spared]
      rfl
  · exact unchanged.symm

theorem adjust_ok_iff :
    (adjust handle setter argument).outcome store = .ok () ↔
      (setter.given? store builder.kind argument).isSome := by
  rw [outcome, run_adjust handle setter argument store builder found, ← outcome, builder.set_eq,
    Setter.given?]
  split
  · rw [bind_assoc, outcome_bind]
    cases (setter.accept argument).outcome store with
    | error fault => exact iff_of_false (fun done => by cases done) Bool.false_ne_true
    | ok content => exact iff_of_true rfl rfl
  · exact iff_of_false (fun done => by cases done) Bool.false_ne_true

theorem adjust_identities (plain : setter ≠ .data) :
    ((adjust handle setter argument).leaves store).identities = store.identities := by
  have kept : ((setter.accept argument).leaves store).identities = store.identities := by
    rw [setter.accept_still argument plain store]
  rw [leaves, run_adjust handle setter argument store builder found, ← leaves, builder.set_eq]
  split
  · rw [bind_assoc, leaves_bind]
    cases (setter.accept argument).outcome store <;> exact kept
  · rfl

theorem adjust_cell :
    ((adjust handle setter argument).leaves store).builders[handle]? =
      some (builder.receive setter (setter.given? store builder.kind argument)) := by
  rw [adjust_builders handle setter argument store builder found]
  exact List.getElem?_set_self (List.getElem?_eq_some_iff.mp found).1

end

theorem adjust_other (other : Nat) (apart : handle ≠ other) :
    ((adjust handle setter argument).leaves store).builders[other]? = store.builders[other]? := by
  cases found : store.builders[handle]? with
  | none =>
    have fails : ExceptT.run (builderAt handle) store = (.error .noAttribute, store) := by
      rw [run_builderAt, found]
      rfl
    rw [leaves, adjust, run_bind, outcome, leaves, fails]
  | some builder =>
    rw [adjust_builders handle setter argument store builder found]
    exact List.getElem?_set_ne apart

end Run

end QueryWire
