import QueryWire.Proofs.Builder.Fields
import QueryWire.Proofs.Program

/-!
The life of a builder of parameters. Whatever a program does, in each place of the builder is what
the last call gave that was accepted there, and the form of the builder shows just that, place by
place in a fixed order.
-/

namespace QueryWire

open Run (Neutral Spares)
open Conversion (fieldUnlessNull_same)

namespace Making

theorem run_spares (making : Making) : Spares making.run := by
  intro store
  have call (construct : Construct) (node : Value) :
      Neutral (construct.call (store.conversion Run.enclose) node) :=
    .enclose _
  have through : Neutral (making.through (store.conversion Run.enclose)) := by
    cases making with
    | convert value => exact store.expr_neutral value
    | createIndex value | createClass value => exact (store.form_neutral value).bind fun _ => call _ _
    | get value | delete value => exact (store.expr_neutral value).bind fun _ => call _ _
    | createDatabase name apiVersion data =>
      have mapped := fieldUnlessNull_same "data" data (.of_neutral (store.mapping_neutral data))
      have versioned :=
        fieldUnlessNull_same "api_version" apiVersion (.of_neutral (store.expr_neutral apiVersion))
      apply mapped.neutral.bind
      intro data
      apply (store.expr_neutral name).bind
      intro name
      apply versioned.neutral.bind
      intro version
      exact (store.record_neutral _).bind fun _ => call _ _
  exact through.spares store

end Making

namespace Setter

def initial? : (setter : Setter) → Option setter.Content
  | .active | .unique | .serialized => some (.bool false)
  | .terms | .values | .partitions | .permissions | .data | .historyDays | .ttlDays | .read
  | .reverse => none

/-- The arguments that are meant for a setter. What cannot be looped over is refused, and so is
anything that is no count of partitions or no mapping. -/
def Suits (store : Store) (argument : Value) : Setter → Prop
  | .terms => ∀ iteration, argument.iteration = .ok iteration →
      Setter.terms.Fits store (iteration.remaining store)
  | .values => ∀ iteration, argument.iteration = .ok iteration →
      Setter.values.Fits store (iteration.remaining store)
  | .permissions => Setter.permissions.Fits store argument
  | _ => True

theorem given?_fits (store : Store) (kind : BuilderKind) (argument : Value) (setter : Setter)
    (suits : setter.Suits store argument) (content : setter.Content)
    (given : setter.given? store kind argument = some content) : setter.Fits store content := by
  obtain ⟨_, accepted⟩ := Option.ite_none_right_eq_some.mp given
  have done : (setter.accept argument).outcome store = .ok content := by
    cases found : (setter.accept argument).outcome store with
    | error cause =>
      rw [found] at accepted
      nomatch accepted
    | ok made =>
      rw [found] at accepted
      exact congrArg Except.ok (Option.some_inj.mp accepted)
  cases setter with
  | terms | values =>
    rw [accept, Value.outcome_collect] at done
    cases found : argument.iteration with
    | error cause =>
      rw [found] at done
      nomatch done
    | ok iteration =>
      rw [found] at done
      cases done
      exact suits iteration found
  | partitions =>
    have counted := checkPartitions_toOption argument store
    rw [accept] at done
    rw [done] at counted
    exact argument.partitions?_bounds content counted.symm
  | permissions =>
    cases done
    exact suits
  | _ => trivial

end Setter

/-- All builders of a store are builders of the same kinds in a later one. -/
def Store.Keeps (store later : Store) : Prop :=
  ∀ (handle : Nat) (builder : Builder), store.builders[handle]? = some builder →
    ∃ next : Builder, later.builders[handle]? = some next ∧ next.kind = builder.kind

theorem Setter.Fits.kept {store later : Store} (keeps : store.Keeps later) {setter : Setter}
    {content : setter.Content} (fits : setter.Fits store content) :
    setter.Fits later content := by
  cases setter with
  | values =>
    intro item member
    obtain ⟨handle, around, source, reverse, rfl, held⟩ := fits item member
    obtain ⟨next, found, same⟩ := keeps handle _ held
    cases next with
    | indexValue source reverse => exact ⟨handle, around, source, reverse, rfl, found⟩
    | _ => nomatch same
  | permissions =>
    refine fits.imp_right ?_
    rintro ⟨handle, around, read, rfl, held⟩
    obtain ⟨next, found, same⟩ := keeps handle _ held
    cases next with
    | indexPermission read => exact ⟨handle, around, read, rfl, found⟩
    | _ => nomatch same
  | _ => exact fits

structure Builder.Becomes (builder next : Builder)
    (given : (setter : Setter) → Option setter.Content) : Prop where
  kind : next.kind = builder.kind
  heading : next.heading = builder.heading
  content : ∀ setter, next.content? setter = (given setter).or (builder.content? setter)

namespace Builder.Becomes

variable {builder next last : Builder} {given more : (setter : Setter) → Option setter.Content}

theorem same (builder : Builder) (given : (setter : Setter) → Option setter.Content)
    (none : ∀ setter, given setter = none) : builder.Becomes builder given := by
  refine ⟨rfl, rfl, fun setter => ?_⟩
  rw [none, Option.none_or]

theorem receive (builder : Builder) (setter : Setter) (content : Option setter.Content)
    (applies : ∀ found, content = some found → setter.appliesTo builder.kind = true)
    (given : (other : Setter) → Option other.Content) (gives : given setter = content)
    (only : ∀ other, setter ≠ other → given other = none) :
    builder.Becomes (builder.receive setter content) given := by
  refine ⟨builder.receive_kind setter content, builder.receive_heading setter content, ?_⟩
  intro other
  by_cases same : setter = other
  · subst same
    rw [gives]
    cases content with
    | none => rfl
    | some found => exact builder.content?_put_same setter found (applies found rfl)
  · rw [only other same, Option.none_or]
    cases content with
    | none => rfl
    | some found => exact builder.content?_put_other setter other found same

theorem trans (first : builder.Becomes next given) (second : next.Becomes last more) :
    builder.Becomes last fun setter => (more setter).or (given setter) := by
  refine ⟨second.kind.trans first.kind, second.heading.trans first.heading, fun setter => ?_⟩
  rw [second.content, first.content, Option.or_assoc]

end Builder.Becomes

namespace Act

def given? (store : Store) (handle : Nat) (kind : BuilderKind) (setter : Setter) :
    Act → Option setter.Content
  | .set target called argument =>
    if target = handle ∧ called = setter then setter.given? store kind argument else none
  | _ => none

def lastGiven? (handle : Nat) (kind : BuilderKind) (setter : Setter) :
    Store → List Act → Option setter.Content
  | _, [] => none
  | store, act :: acts =>
    (lastGiven? handle kind setter (act.after store) acts).or
      (act.given? store handle kind setter)

/-- The setters of a builder get what they are meant for, and what is not about builders leaves them
alone. -/
structure Fair (handle : Nat) (store : Store) (act : Act) : Prop where
  suits : ∀ setter argument, act = .set handle setter argument → setter.Suits store argument
  spares : ∀ run, act = .other run → Spares run

def AllFair (handle : Nat) : Store → List Act → Prop
  | _, [] => True
  | store, act :: acts => act.Fair handle store ∧ AllFair handle (act.after store) acts

variable (handle : Nat) (act : Act) (store : Store) (builder : Builder)

theorem newIndexParams_builders (name source : Value) :
    ∃ added, ((Run.newIndexParams name source).leaves store).builders = store.builders ++ added := by
  have spared := ((store.expr_neutral source).spares store).1
  rw [Run.leaves, Run.run_newIndexParams, ← Run.leaves, Run.leaves_bind]
  cases ((store.conversion Run.enclose).expr source).outcome store with
  | error cause => exact ⟨[], by rw [List.append_nil]; exact spared⟩
  | ok source => exact ⟨[.indexParams { name, source }], congrArg (· ++ _) spared⟩

theorem after_cell (spares : ∀ run, act = .other run → Spares run)
    (found : store.builders[handle]? = some builder) :
    ∃ next, (act.after store).builders[handle]? = some next ∧
      builder.Becomes next fun setter => act.given? store handle builder.kind setter := by
  have added (more : List Builder) : (store.builders ++ more)[handle]? = some builder := by
    obtain ⟨within, _⟩ := List.getElem?_eq_some_iff.mp found
    rwa [List.getElem?_append_left within]
  cases act with
  | term source => exact ⟨builder, found, .same builder _ fun _ => rfl⟩
  | indexValue source => exact ⟨builder, added _, .same builder _ fun _ => rfl⟩
  | indexPermission => exact ⟨builder, added _, .same builder _ fun _ => rfl⟩
  | classParams name => exact ⟨builder, added _, .same builder _ fun _ => rfl⟩
  | indexParams name source =>
    obtain ⟨more, shape⟩ := newIndexParams_builders store name source
    refine ⟨builder, ?_, .same builder _ fun _ => rfl⟩
    rw [after, shape]
    exact added more
  | make making =>
    refine ⟨builder, ?_, .same builder _ fun _ => rfl⟩
    rw [after, (making.run_spares store).1]
    exact found
  | other run =>
    refine ⟨builder, ?_, .same builder _ fun _ => rfl⟩
    rw [after, (spares run rfl store).1]
    exact found
  | set target called argument =>
    by_cases here : target = handle
    · subst here
      refine ⟨_, Run.adjust_cell target called argument store builder found, ?_⟩
      apply Builder.Becomes.receive
      · exact called.given?_applies store builder.kind argument
      · exact if_pos ⟨rfl, rfl⟩
      · exact fun other different => if_neg fun both => different both.2
    · refine ⟨builder, ?_, .same builder _ fun other => if_neg fun both => here both.1⟩
      rw [after, Run.adjust_other target called argument store handle here]
      exact found

theorem after_keeps (spares : ∀ run, act = .other run → Spares run) :
    store.Keeps (act.after store) := by
  intro handle builder found
  obtain ⟨next, there, becomes⟩ := act.after_cell handle store builder spares found
  exact ⟨next, there, becomes.kind⟩

theorem given?_fits (kind : BuilderKind) (fair : act.Fair handle store) (setter : Setter)
    (content : setter.Content) (given : act.given? store handle kind setter = some content) :
    setter.Fits store content := by
  cases act with
  | set target called argument =>
    obtain ⟨⟨rfl, rfl⟩, accepted⟩ := Option.ite_none_right_eq_some.mp given
    exact called.given?_fits store kind argument (fair.suits called argument rfl) content accepted
  | _ => nomatch given

variable (acts : List Act)

/-- Whatever is done, what is in a place of a builder is what the last accepted call gave, or what
was there at first, and is meant for it. -/
theorem foldl_cell (fair : AllFair handle store acts)
    (found : store.builders[handle]? = some builder)
    (fits : ∀ setter content, builder.content? setter = some content → setter.Fits store content) :
    ∃ next, (acts.foldl after store).builders[handle]? = some next ∧
      (builder.Becomes next fun setter => lastGiven? handle builder.kind setter store acts) ∧
      ∀ setter content, next.content? setter = some content →
        setter.Fits (acts.foldl after store) content := by
  -- What was given before an act is meant for its place afterwards too: builders keep their kinds.
  induction acts generalizing store builder with
  | nil => exact ⟨builder, found, .same builder _ fun _ => rfl, fits⟩
  | cons act acts ih =>
    obtain ⟨here, rest⟩ := fair
    obtain ⟨next, there, becomes⟩ := act.after_cell handle store builder here.spares found
    have keeps := act.after_keeps store here.spares
    have meant (setter : Setter) (content : setter.Content)
        (held : next.content? setter = some content) : setter.Fits (act.after store) content := by
      rw [becomes.content, Option.or_eq_some_iff] at held
      obtain given | ⟨_, before⟩ := held
      · exact (act.given?_fits handle store builder.kind here setter content given).kept keeps
      · exact (fits setter content before).kept keeps
    obtain ⟨last, at_last, further, fit⟩ := ih (act.after store) next rest there meant
    rw [becomes.kind] at further
    exact ⟨last, at_last, becomes.trans further, fit⟩

end Act

/-- How a builder of parameters is made. The source of an index is converted by then. -/
inductive Origin where
  | indexParams (name source : Value)
  | classParams (name : Value)

namespace Origin

def fresh : Origin → Builder
  | .indexParams name source => .indexParams { name, source }
  | .classParams name => .classParams { name }

def kind (origin : Origin) : BuilderKind := origin.fresh.kind

theorem newIndexParams_fresh (name source node : Value) (store : Store)
    (converted : ((store.conversion Run.enclose).expr source).outcome store = .ok node) :
    ((Run.newIndexParams name source).leaves store).builders[store.builders.length]? =
      some (indexParams name node).fresh := by
  have spared := ((store.expr_neutral source).spares store).1
  rw [Run.leaves, Run.run_newIndexParams, ← Run.leaves, Run.leaves_bind, converted]
  change ((Run.leaves _ store).builders ++ [_])[_]? = _
  rw [spared]
  exact List.getElem?_concat_length

theorem fresh_fits (origin : Origin) (store : Store) (setter : Setter) (content : setter.Content)
    (held : origin.fresh.content? setter = some content) : setter.Fits store content := by
  cases setter with
  | permissions =>
    refine .inl ?_
    cases origin <;>
    · cases held
      rfl
  | terms | values | partitions => cases origin <;> nomatch held
  | _ => trivial

theorem field_initial (origin : Origin) (store : Store) (setter : Setter)
    (shows : setter ∈ origin.kind.layout) (given : Option setter.Content) :
    setter.field store (given.or (origin.fresh.content? setter)) =
      setter.field store (given.or setter.initial?) := by
  cases given with
  | some content => rfl
  | none =>
    cases origin <;> cases setter <;> first
      | rfl
      | simp [kind, fresh, Builder.kind, BuilderKind.layout] at shows

end Origin

/-- A builder of parameters from its making on, in a program that gives its setters what they are
meant for. -/
structure History where
  origin : Origin
  start : Store
  handle : Nat
  made : start.builders[handle]? = some origin.fresh
  acts : List Act
  fair : Act.AllFair handle start acts

namespace History

def ofIndexParams (name source node : Value) (store : Store)
    (converted : ((store.conversion Run.enclose).expr source).outcome store = .ok node)
    (acts : List Act) (fair : Act.AllFair store.builders.length
      ((Run.newIndexParams name source).leaves store) acts) : History where
  origin := .indexParams name node
  start := (Run.newIndexParams name source).leaves store
  handle := store.builders.length
  made := Origin.newIndexParams_fresh name source node store converted
  acts
  fair

variable (history : History)

def now : Store := history.acts.foldl Act.after history.start

/-- What is in a place: what the last accepted call of its setter gave. -/
def held (setter : Setter) : Option setter.Content :=
  (Act.lastGiven? history.handle history.origin.kind setter history.start history.acts).or
    setter.initial?

def fields : Except Fault (List (Text × Value)) :=
  Setter.fields history.now history.origin.kind.layout history.held

/-- The builder now: what is in its places has been given last, or was there at first. -/
theorem cell :
    ∃ builder, history.now.builders[history.handle]? = some builder ∧
      (history.origin.fresh.Becomes builder fun setter =>
        Act.lastGiven? history.handle history.origin.kind setter history.start history.acts) ∧
      ∀ setter content, builder.content? setter = some content →
        setter.Fits history.now content :=
  Act.foldl_cell history.handle history.start history.origin.fresh history.acts history.fair
    history.made (history.origin.fresh_fits history.start)

theorem held_fits (setter : Setter) (content : setter.Content)
    (held : history.held setter = some content) : setter.Fits history.now content := by
  obtain ⟨builder, _, becomes, fits⟩ := history.cell
  rw [History.held, Option.or_eq_some_iff] at held
  obtain given | ⟨_, initial⟩ := held
  · apply fits
    rw [becomes.content, given, Option.some_or]
  · cases setter with
    | active | unique | serialized => trivial
    | _ => nomatch initial

theorem form (kind : BuilderKind) (around : List Nat) :
    history.now.expr (.builder kind history.handle around) = do
      return recordNode (history.origin.fresh.heading ++ (← history.fields)) := by
  obtain ⟨builder, found, becomes, fits⟩ := history.cell
  have isParams : builder.kind = .indexParams ∨ builder.kind = .classParams := by
    rw [becomes.kind]
    cases history.origin with
    | indexParams name source => exact .inl rfl
    | classParams name => exact .inr rfl
  have places : Setter.fields history.now builder.kind.layout builder.content? = history.fields := by
    rw [fields, Setter.fields, Setter.fields, becomes.kind]
    rw [mapM_congr _ _ _ fun setter shows => ?_]
    · rfl
    · rw [becomes.content]
      exact history.origin.field_initial history.now setter shows _
  rw [history.now.expr_params history.handle builder found isParams fits, becomes.heading, places]

end History

end QueryWire
