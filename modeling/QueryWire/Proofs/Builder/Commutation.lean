import QueryWire.Proofs.Builder.History

/-!
Two calls of different setters on one builder. Each puts what it makes of its argument into a place
of its own, so it is what they make that can depend on which one is first: a call can take items
from a one-shot sequence that the other one is given, and user data is converted when it is given,
with the builder in it as it is then.
-/

namespace QueryWire

structure Call where
  setter : Setter
  argument : Value

namespace Call

def run (handle : Nat) (call : Call) : Run Unit := Run.adjust handle call.setter call.argument

def after (handle : Nat) (store : Store) (call : Call) : Store := (call.run handle).leaves store

abbrev given? (store : Store) (kind : BuilderKind) (call : Call) : Option call.setter.Content :=
  call.setter.given? store kind call.argument

/-- What another call may change is not what a call goes by: its items are left as they are, and the
builder is not in its user data. -/
structure Ignores (handle : Nat) (store : Store) (call other : Call) : Prop where
  items : call.setter = .terms ∨ call.setter = .values →
    ∀ iteration, call.argument.iteration = .ok iteration →
      iteration.remaining (other.after handle store) = iteration.remaining store
  data : call.setter = .data → (other.run handle).outcome store = .ok () →
    ∀ asked ∈ call.argument.asked, ¬store.Leads handle asked

section

variable (handle : Nat) (store : Store) (builder : Builder)
  (found : store.builders[handle]? = some builder) (call other : Call)

include found

theorem after_builders :
    (call.after handle store).builders = store.builders.set handle
      (builder.receive call.setter (call.given? store builder.kind)) :=
  Run.adjust_builders handle call.setter call.argument store builder found

theorem run_ok_iff :
    (call.run handle).outcome store = .ok () ↔ (call.given? store builder.kind).isSome :=
  Run.adjust_ok_iff handle call.setter call.argument store builder found

theorem after_cell :
    (call.after handle store).builders[handle]? =
      some (builder.receive call.setter (call.given? store builder.kind)) :=
  Run.adjust_cell handle call.setter call.argument store builder found

theorem after_refused (refused : (call.run handle).outcome store ≠ .ok ()) :
    (call.after handle store).builders = store.builders := by
  have nothing : call.given? store builder.kind = none :=
    Option.not_isSome_iff_eq_none.mp fun accepted =>
      refused ((run_ok_iff handle store builder found call).mpr accepted)
  rw [after_builders handle store builder found, nothing]
  obtain ⟨within, rfl⟩ := List.getElem?_eq_some_iff.mp found
  exact List.set_getElem_self within

theorem after_still (plain : call.setter ≠ .data) :
    call.after handle store =
      { store with
        builders := (call.after handle store).builders, taken := (call.after handle store).taken } := by
  have identities :=
    Run.adjust_identities handle call.setter call.argument store builder found plain
  exact congrArg (Store.mk _ _) identities

theorem mapping_after (plain : other.setter ≠ .data)
    (outside : (other.run handle).outcome store = .ok () →
      ∀ asked ∈ call.argument.asked, ¬store.Leads handle asked) :
    (((other.after handle store).conversion Run.enclose).mapping call.argument).outcome
        (other.after handle store) =
      ((store.conversion Run.enclose).mapping call.argument).outcome store := by
  have same : ((other.after handle store).conversion Run.enclose).mapping call.argument =
      (store.conversion Run.enclose).mapping call.argument := by
    by_cases accepted : (other.run handle).outcome store = .ok ()
    · refine (store.mapping_same (other.after handle store) handle ?_ ?_ call.argument
        (outside accepted)).eq.symm
      · intro elsewhere apart
        exact Run.adjust_other handle _ _ store elsewhere apart.symm
      · rw [after_builders handle store builder found, List.length_set]
    · rw [store.conversion_congr _ (after_refused handle store builder found other accepted)]
  rw [same, after_still handle store builder found other plain]
  exact (store.mapping_neutral call.argument).outcome_eq store _ _

theorem given?_after (different : call.setter ≠ other.setter)
    (ignores : call.Ignores handle store other) (kind : BuilderKind) :
    call.given? (other.after handle store) kind = call.given? store kind := by
  obtain ⟨setter, argument⟩ := call
  have collected (among : setter = .terms ∨ setter = .values) :
      argument.collect.outcome (other.after handle store) = argument.collect.outcome store := by
    rw [Value.outcome_collect, Value.outcome_collect]
    cases iterated : argument.iteration with
    | error cause => rfl
    | ok iteration => exact congrArg Except.ok (ignores.items among iteration iterated)
  have accepted : ((setter.accept argument).outcome (other.after handle store)).toOption =
      ((setter.accept argument).outcome store).toOption := by
    cases setter with
    | terms => exact congrArg Except.toOption (collected (.inl rfl))
    | values => exact congrArg Except.toOption (collected (.inr rfl))
    | partitions =>
      exact (checkPartitions_toOption argument _).trans (checkPartitions_toOption argument _).symm
    | data =>
      obtain node | converted := userData_cases argument
      · rw [Setter.accept, node]
        rfl
      · have plain : other.setter ≠ .data := fun same => different same.symm
        have made (store : Store) : (userData argument).outcome store =
            ((store.conversion Run.enclose).mapping argument).outcome store :=
          congrArg Prod.fst (converted store)
        rw [Setter.accept, made, made, mapping_after handle store builder found ⟨.data, argument⟩
          other plain (ignores.data rfl)]
    | _ => rfl
  rw [Call.given?, Setter.given?, accepted]
  rfl

theorem after_comm (different : call.setter ≠ other.setter)
    (first : call.Ignores handle store other) (second : other.Ignores handle store call) :
    (call.after handle (other.after handle store)).builders =
      (other.after handle (call.after handle store)).builders := by
  have later := after_cell handle store builder found
  rw [after_builders handle _ _ (later other), after_builders handle _ _ (later call),
    after_builders handle store builder found, after_builders handle store builder found,
    List.set_set, List.set_set, Builder.receive_kind, Builder.receive_kind,
    given?_after handle store builder found call other different first,
    given?_after handle store builder found other call different.symm second,
    builder.receive_comm _ _ _ _ different]

end

end Call

namespace History

/-- The form of a builder of parameters shows its heading and then, in the order of their places,
what the last accepted calls gave. A setter whose call has been accepted has its field, unless null
left it out, and so have the flags; nothing can fail where terms and values are made of paths and
names. A call that is refused changes no form, and two calls of different setters that ignore each
other come to the same in either order. A count of partitions is within its bounds. -/
theorem setters_decide_form (history : History) :
    (∀ around, history.now.expr (.builder history.origin.kind history.handle around) = do
      return recordNode (history.origin.fresh.heading ++ (← history.fields))) ∧
    (∀ fields, history.fields = .ok fields → fields.map Prod.fst =
      (history.origin.kind.layout.filter fun setter =>
        setter.appears (history.held setter)).map Setter.key) ∧
    ((∀ setter content, history.held setter = some content →
      setter.Sound history.now content) → ∃ fields, history.fields = .ok fields) ∧
    (∀ call : Call, (call.run history.handle).outcome history.now ≠ .ok () → ∀ value,
      (call.after history.handle history.now).expr value = history.now.expr value) ∧
    (∀ call other : Call, call.setter ≠ other.setter →
      call.Ignores history.handle history.now other →
      other.Ignores history.handle history.now call → ∀ value,
        (call.after history.handle (other.after history.handle history.now)).expr value =
          (other.after history.handle (call.after history.handle history.now)).expr value) ∧
    ∀ count : Int, history.held .partitions = some count → 1 ≤ count ∧ count ≤ maxPartitions := by
  obtain ⟨builder, found, _⟩ := history.cell
  refine ⟨history.form history.origin.kind, ?keys, ?returns, ?refused, ?commuting, ?counted⟩
  case keys => exact Setter.fields_keys history.now _ history.held
  case returns => exact Setter.fields_ok history.now _ history.held history.held_fits
  case refused =>
    intro call refused value
    have same := call.after_refused history.handle history.now builder found refused
    rw [Store.expr, history.now.conversion_congr _ same, ← Store.expr]
  case commuting =>
    intro call other different first second value
    have same :=
      Call.after_comm history.handle history.now builder found call other different first second
    rw [Store.expr, Store.conversion_congr _ _ same, ← Store.expr]
  case counted => exact history.held_fits .partitions

def reversed : History :=
  .ofIndexParams (.text "i") (.text "c") (.literal (.text "c")) .empty rfl
    [.indexValue (.bindingSource (.text "b")), .set 0 .partitions (.int 8),
      .set 0 .values (.list [.builder .indexValue 1 [1]]), .set 0 .partitions (.bool true),
      .set 0 .active (.bool true), .set 1 .reverse (.bool true)] <| by
    have anything {store : Store} {setter : Setter} {argument : Value}
        (free : setter.Suits store argument) : Act.Fair 0 store (.set 0 setter argument) := by
      refine ⟨?_, nofun⟩
      rintro _ _ ⟨⟩
      exact free
    refine ⟨⟨nofun, nofun⟩, anything trivial, anything ?_, anything trivial, anything trivial,
      ⟨nofun, nofun⟩, trivial⟩
    rintro _ ⟨⟩ item member
    obtain rfl := List.mem_singleton.mp member
    exact ⟨1, [1], .bindingSource (.text "b"), .bool false, rfl, rfl⟩

/-- The count that is refused has left the one before it, and the value is shown as it is now. User
data with no builder in it can be set before a flag or after it. -/
theorem reversed_form :
    reversed.now.expr (.builder .indexParams 0 []) = .ok (recordNode [("name", .literal (.text "i")),
      ("source", .literal (.text "c")), ("active", .literal (.bool true)),
      ("unique", .literal (.bool false)), ("serialized", .literal (.bool false)),
      ("values", .array (.tuple [recordNode [("binding", .literal (.text "b")),
        ("reverse", .literal (.bool true))]])), ("partitions", .literal (.int 8))]) ∧
      let flag : Call := ⟨.unique, .bool true⟩
      let data : Call := ⟨.data, .dict [(.text "k", .int 1)]⟩
      ∀ value, (flag.after 0 (data.after 0 reversed.now)).expr value =
        (data.after 0 (flag.after 0 reversed.now)).expr value := by
  obtain ⟨form, _, _, _, commuting, _⟩ := setters_decide_form reversed
  have fields : reversed.fields = .ok [("active", .literal (.bool true)),
      ("unique", .literal (.bool false)), ("serialized", .literal (.bool false)),
      ("values", .array (.tuple [recordNode [("binding", .literal (.text "b")),
        ("reverse", .literal (.bool true))]])), ("partitions", .literal (.int 8))] := rfl
  have shown := form []
  rw [fields] at shown
  refine ⟨shown, commuting ⟨.unique, .bool true⟩ ⟨.data, .dict [(.text "k", .int 1)]⟩ nofun ?_ ?_⟩
  · exact ⟨nofun, nofun⟩
  · exact ⟨nofun, fun _ _ => nofun⟩

end History

namespace Call

/-- Two fresh builders, the parameters of an index and an index value. The value is reversed by the
errors in a one-shot sequence, which is read whenever the value is shown. -/
def workshop (sequence : Value) : Store where
  builders := [.indexParams { name := .text "i", source := .literal (.text "c") },
    .indexValue (.bindingSource (.text "b")) (.errors sequence)]
  taken := [0]

def formWith (active : Bool) (fields : List (Text × Value)) : Value :=
  recordNode (("name", .literal (.text "i")) :: ("source", .literal (.text "c")) ::
    ("active", .literal (.bool active)) :: ("unique", .literal (.bool false)) ::
    ("serialized", .literal (.bool false)) :: fields)

/-- The order of two calls matters where one of them is user data with the builder in it, which
shows the flag as it was when the data was given. It matters, too, where one reads the sequence that
the other is given: a count of partitions is refused with a text that shows the index value, and
that takes a term from the sequence. -/
theorem order_matters :
    (let flag : Call := ⟨.active, .bool true⟩
      let data : Call := ⟨.data, .dict [(.text "p", .builder .indexParams 0 [1])]⟩
      let start := workshop (.list [])
      (flag.after 0 (data.after 0 start)).expr (.builder .indexParams 0 []) ≠
        (data.after 0 (flag.after 0 start)).expr (.builder .indexParams 0 [])) ∧
    let sequence : Value := .cursor 0 [.term 1 (.bindingSource (.text "a"))]
    let partitions : Call := ⟨.partitions, .builder .indexValue 1 []⟩
    let terms : Call := ⟨.terms, sequence⟩
    let start := workshop sequence
    (partitions.after 0 (terms.after 0 start)).expr (.builder .indexParams 0 []) ≠
      (terms.after 0 (partitions.after 0 start)).expr (.builder .indexParams 0 []) := by
  constructor
  · intro flag data start same
    have early : (flag.after 0 (data.after 0 start)).expr (.builder .indexParams 0 []) =
        .ok (formWith true [("data", recordNode [("p", formWith false [])])]) := rfl
    have late : (data.after 0 (flag.after 0 start)).expr (.builder .indexParams 0 []) =
        .ok (formWith true [("data", recordNode [("p", formWith true [])])]) := rfl
    rw [early, late] at same
    simp [formWith, recordNode] at same
  · intro sequence partitions terms start same
    have early : (partitions.after 0 (terms.after 0 start)).expr (.builder .indexParams 0 []) =
        .ok (formWith false
          [("terms", .array (.tuple [recordNode [("binding", .literal (.text "a"))]]))]) := rfl
    have late : (terms.after 0 (partitions.after 0 start)).expr (.builder .indexParams 0 []) =
        .ok (formWith false [("terms", .array (.tuple []))]) := rfl
    rw [early, late] at same
    simp [formWith, recordNode] at same

end Call

end QueryWire
