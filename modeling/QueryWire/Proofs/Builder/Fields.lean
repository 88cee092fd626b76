import QueryWire.Proofs.Builder.Acceptance

/-!
What the form of a builder of parameters shows of what is in it. Each place has a field of its own,
at its own position, and that depends on nothing but the content of the place and on the builders
that the content is about, as they are when the form is made.
-/

namespace QueryWire

def recordNode (fields : List (Text × Value)) : Value :=
  .object (.tuple (fields.map fun (key, value) => .tuple [.text key, value]))

def Value.IsSource : Value → Prop
  | .fieldSource (.tuple _) | .bindingSource _ => True
  | _ => False

namespace Store

def HasIndexValue (store : Store) (value : Value) : Prop :=
  ∃ handle around source reverse, value = .builder .indexValue handle around ∧
    store.builders[handle]? = some (.indexValue source reverse)

def HasPermission (store : Store) (value : Value) : Prop :=
  ∃ handle around read, value = .builder .indexPermission handle around ∧
    store.builders[handle]? = some (.indexPermission read)

def Sourced (store : Store) : Value → Prop
  | .term _ source => source.IsSource
  | .builder _ handle _ =>
    ∀ source reverse, store.builders[handle]? = some (.indexValue source reverse) → source.IsSource
  | _ => True

end Store

namespace Setter

/-- The key of a field. The last two setters belong to builders that are no parameters. -/
def key : Setter → Text
  | .active => "active"
  | .unique => "unique"
  | .serialized => "serialized"
  | .terms => "terms"
  | .values => "values"
  | .partitions => "partitions"
  | .permissions => "permissions"
  | .data => "data"
  | .historyDays => "history_days"
  | .ttlDays => "ttl_days"
  | .read => "read"
  | .reverse => "reverse"

/-- Content that is meant for its place: terms and index values, and permissions or null. -/
def Fits (store : Store) : (setter : Setter) → setter.Content → Prop
  | .terms, items => ∀ item ∈ items, ∃ own source, item = .term own source
  | .values, items => ∀ item ∈ items, store.HasIndexValue item
  | .permissions, value => value = .null ∨ store.HasPermission value
  | .partitions, count => 1 ≤ count ∧ count ≤ maxPartitions
  | .active, _ | .unique, _ | .serialized, _ | .data, _ | .historyDays, _ | .ttlDays, _ | .read, _
  | .reverse, _ => True

/-- Terms and index values are made of field paths and binding names only. -/
def Sound (store : Store) : (setter : Setter) → setter.Content → Prop
  | .terms, items | .values, items => ∀ item ∈ items, store.Sourced item
  | _, _ => True

def omits : (setter : Setter) → setter.Content → Bool
  | .permissions, .null | .historyDays, .null | .ttlDays, .null => true
  | _, _ => false

/-- What a field shows of its content. The builders that it is about are read from the store; user
data is a node already. -/
def shown (store : Store) : (setter : Setter) → setter.Content → Except Fault Value
  | .terms, items | .values, items => do return .array (.tuple (← items.mapM store.expr))
  | .partitions, count => return .literal (.int count)
  | .permissions, value => store.expr value
  | .data, node => return node
  | .active, value | .unique, value | .serialized, value | .historyDays, value | .ttlDays, value
  | .read, value | .reverse, value => return .literal value

def appears (setter : Setter) (content : Option setter.Content) : Bool :=
  content.any fun content => !setter.omits content

def field (store : Store) (setter : Setter) :
    Option setter.Content → Except Fault (List (Text × Value))
  | none => return []
  | some content =>
    if setter.omits content then return [] else do return [(setter.key, ← setter.shown store content)]

end Setter

namespace Conversion

variable {snapshot other : Nat → Except Fault Value}

theorem record_ok (fields : List (Text × Value)) :
    record ⟨pure, snapshot⟩ fields = .ok (recordNode fields) := by
  have pairs : fields.mapM (fun (key, value) => pair ⟨pure, snapshot⟩ (.text key) value) =
      .ok (fields.map fun (key, value) => .tuple [.text key, value]) :=
    List.mapM_pure
  rw [record, pairs]
  rfl

end Conversion

namespace Store

variable (store : Store)

theorem expr_builder (kind : BuilderKind) (handle : Nat) (around : List Nat) :
    store.expr (.builder kind handle around) =
      store.snapshotWithin (pure : Value → Except Fault Value) store.builders.length handle := by
  rw [expr, conversion, Conversion.expr]

/-- The form of a builder that is in the store. The builders in it have one level less. -/
theorem expr_cell (kind : BuilderKind) (handle : Nat) (around : List Nat) (builder : Builder)
    (found : store.builders[handle]? = some builder) :
    ∃ fuel, store.builders.length = fuel + 1 ∧ store.expr (.builder kind handle around) =
      builder.form ⟨pure, store.snapshotWithin pure fuel⟩ := by
  obtain ⟨within, _⟩ := List.getElem?_eq_some_iff.mp found
  obtain ⟨fuel, many⟩ : ∃ fuel, store.builders.length = fuel + 1 :=
    Nat.exists_eq_add_one.mpr (Nat.zero_lt_of_lt within)
  refine ⟨fuel, many, ?_⟩
  rw [expr_builder, many, snapshotWithin, found]

section

variable (fuel handle : Nat) (builder : Builder) (many : store.builders.length = fuel + 1)
  (found : store.builders[handle]? = some builder)

theorem form_term (own : Nat) (source : Value) :
    Conversion.form ⟨pure, store.snapshotWithin pure fuel⟩ (.term own source) =
      store.expr (.term own source) := by
  rw [expr, conversion, Conversion.expr]
  rfl

theorem formsField_eq (key : Text) (items : List Value)
    (forms : ∀ item ∈ items,
      Conversion.form ⟨pure, store.snapshotWithin pure fuel⟩ item = store.expr item) :
    Conversion.formsField ⟨pure, store.snapshotWithin pure fuel⟩ key (some items) = do
      let node ← (do return .array (.tuple (← items.mapM store.expr)) : Except Fault Value)
      return [(key, node)] := by
  rw [Conversion.formsField, mapM_congr items _ _ forms]
  cases items.mapM store.expr <;> rfl

theorem formsField_terms (items : Option (List Value))
    (fits : ∀ content, items = some content → Setter.terms.Fits store content) :
    Conversion.formsField ⟨pure, store.snapshotWithin pure fuel⟩ "terms" items =
      Setter.terms.field store items := by
  cases items with
  | none => rfl
  | some items =>
    refine store.formsField_eq fuel "terms" items fun item member => ?_
    obtain ⟨own, source, rfl⟩ := fits items rfl item member
    exact store.form_term fuel own source

include many found

theorem form_leaf (kind : BuilderKind) (inner : Nat) (around : List Nat) (leaf : Builder)
    (held : store.builders[inner]? = some leaf) (different : builder.kind ≠ leaf.kind)
    (isLeaf : leaf.kind = .indexValue ∨ leaf.kind = .indexPermission) :
    Conversion.form ⟨pure, store.snapshotWithin pure fuel⟩ (.builder kind inner around) =
      store.expr (.builder kind inner around) := by
  have apart : handle ≠ inner := by
    rintro rfl
    rw [found, Option.some_inj] at held
    exact different (congrArg Builder.kind held)
  obtain ⟨first, _⟩ := List.getElem?_eq_some_iff.mp found
  obtain ⟨second, _⟩ := List.getElem?_eq_some_iff.mp held
  obtain ⟨fuel, rfl⟩ : ∃ less, fuel = less + 1 := Nat.exists_eq_add_one.mpr (by omega)
  rw [expr_builder, many]
  change store.snapshotWithin pure (fuel + 1) inner = _
  rw [snapshotWithin, snapshotWithin, held]
  cases leaf with
  | indexValue source reverse => rfl
  | indexPermission read => cases read <;> rfl
  | indexParams | classParams => simp [Builder.kind] at isLeaf

variable (different : builder.kind ≠ .indexValue ∧ builder.kind ≠ .indexPermission)

include different

theorem form_indexValue (value : Value) (isValue : store.HasIndexValue value) :
    Conversion.form ⟨pure, store.snapshotWithin pure fuel⟩ value = store.expr value := by
  obtain ⟨inner, around, source, reverse, rfl, held⟩ := isValue
  exact store.form_leaf fuel handle builder many found _ inner around _ held different.1 (.inl rfl)

theorem form_permission (value : Value) (isPermission : store.HasPermission value) :
    Conversion.form ⟨pure, store.snapshotWithin pure fuel⟩ value = store.expr value := by
  obtain ⟨inner, around, read, rfl, held⟩ := isPermission
  exact store.form_leaf fuel handle builder many found _ inner around _ held different.2 (.inr rfl)

theorem formsField_values (items : Option (List Value))
    (fits : ∀ content, items = some content → Setter.values.Fits store content) :
    Conversion.formsField ⟨pure, store.snapshotWithin pure fuel⟩ "values" items =
      Setter.values.field store items := by
  cases items with
  | none => rfl
  | some items =>
    refine store.formsField_eq fuel "values" items fun item member => ?_
    exact store.form_indexValue fuel handle builder many found different item
      (fits items rfl item member)

theorem fieldUnlessNull_permissions (value : Value) (fits : Setter.permissions.Fits store value) :
    Conversion.fieldUnlessNull "permissions"
        (Conversion.form ⟨pure, store.snapshotWithin pure fuel⟩) value =
      Setter.permissions.field store (some value) := by
  obtain rfl | isPermission := fits
  · rfl
  · have form := store.form_permission fuel handle builder many found different value isPermission
    obtain ⟨inner, around, read, rfl, held⟩ := isPermission
    rw [Conversion.fieldUnlessNull, form]
    · rfl
    · nofun

end

end Store

namespace Builder

def heading : Builder → List (Text × Value)
  | .indexParams params => [("name", .literal params.name), ("source", params.source)]
  | .classParams params => [("name", .literal params.name)]
  | .indexValue .. | .indexPermission _ => []

theorem receive_heading (builder : Builder) (setter : Setter) (content : Option setter.Content) :
    (builder.receive setter content).heading = builder.heading := by
  cases content with
  | none => rfl
  | some content => cases builder <;> cases setter <;> rfl

end Builder

/-- The places that parameters show after that, in order. -/
def BuilderKind.layout : BuilderKind → List Setter
  | .indexParams =>
    [.active, .unique, .serialized, .terms, .values, .partitions, .permissions, .data]
  | .classParams => [.historyDays, .ttlDays, .permissions, .data]
  | .indexValue | .indexPermission => []

def Setter.fields (store : Store) (layout : List Setter)
    (content : (setter : Setter) → Option setter.Content) :
    Except Fault (List (Text × Value)) := do
  return (← layout.mapM fun setter => setter.field store (content setter)).flatten

namespace Store

variable (store : Store) (fuel : Nat)

theorem indexParams_form (params : IndexParams)
    (terms : Conversion.formsField ⟨pure, store.snapshotWithin pure fuel⟩ "terms" params.terms =
      Setter.terms.field store params.terms)
    (values : Conversion.formsField ⟨pure, store.snapshotWithin pure fuel⟩ "values" params.values =
      Setter.values.field store params.values)
    (permissions : Conversion.fieldUnlessNull "permissions"
        (Conversion.form ⟨pure, store.snapshotWithin pure fuel⟩) params.permissions =
      Setter.permissions.field store (some params.permissions)) :
    params.form ⟨pure, store.snapshotWithin pure fuel⟩ = do
      return recordNode ((Builder.indexParams params).heading ++
        (← Setter.fields store BuilderKind.indexParams.layout params.content?)) := by
  have data : Setter.data.field store params.data = .ok (optionalField "data" params.data) := by
    cases params.data <;> rfl
  rw [IndexParams.form, terms, values, permissions]
  simp only [Setter.fields, BuilderKind.layout, List.mapM_cons, List.mapM_nil,
    IndexParams.content?, data, Conversion.record_ok]
  cases Setter.terms.field store params.terms with
  | error fault => rfl
  | ok terms =>
    cases Setter.values.field store params.values with
    | error fault => rfl
    | ok values =>
      cases params.partitions <;>
      cases Setter.permissions.field store (some params.permissions) with
      | error fault => rfl
      | ok permissions =>
        refine congrArg (fun fields => Except.ok (recordNode fields)) ?_
        simp [Builder.heading, Setter.key]

theorem classParams_form (params : ClassParams)
    (permissions : Conversion.fieldUnlessNull "permissions"
        (Conversion.form ⟨pure, store.snapshotWithin pure fuel⟩) params.permissions =
      Setter.permissions.field store (some params.permissions)) :
    params.form ⟨pure, store.snapshotWithin pure fuel⟩ = do
      return recordNode ((Builder.classParams params).heading ++
        (← Setter.fields store BuilderKind.classParams.layout params.content?)) := by
  let conversion : Conversion (Except Fault) := ⟨pure, store.snapshotWithin pure fuel⟩
  have history : Conversion.fieldUnlessNull "history_days" conversion.literal params.historyDays =
      Setter.historyDays.field store (some params.historyDays) := by
    cases params.historyDays <;> rfl
  have ttl : Conversion.fieldUnlessNull "ttl_days" conversion.literal params.ttlDays =
      Setter.ttlDays.field store (some params.ttlDays) := by
    cases params.ttlDays <;> rfl
  have data : Setter.data.field store params.data = .ok (optionalField "data" params.data) := by
    cases params.data <;> rfl
  rw [ClassParams.form, history, ttl, permissions]
  simp only [Setter.fields, BuilderKind.layout, List.mapM_cons, List.mapM_nil,
    ClassParams.content?, data, Conversion.record_ok]
  cases Setter.historyDays.field store (some params.historyDays) with
  | error fault => rfl
  | ok history =>
    cases Setter.ttlDays.field store (some params.ttlDays) with
    | error fault => rfl
    | ok ttl =>
      cases Setter.permissions.field store (some params.permissions) with
      | error fault => rfl
      | ok permissions =>
        refine congrArg (fun fields => Except.ok (recordNode fields)) ?_
        simp [Builder.heading]

/-- The form of a builder of parameters: its heading, and then the fields of its places in order. -/
theorem expr_params (handle : Nat) (builder : Builder)
    (found : store.builders[handle]? = some builder)
    (isParams : builder.kind = .indexParams ∨ builder.kind = .classParams)
    (fits : ∀ setter content, builder.content? setter = some content → setter.Fits store content)
    (kind : BuilderKind) (around : List Nat) :
    store.expr (.builder kind handle around) = do
      return recordNode (builder.heading ++
        (← Setter.fields store builder.kind.layout builder.content?)) := by
  obtain ⟨fuel, many, form⟩ := store.expr_cell kind handle around builder found
  rw [form]
  cases builder with
  | indexParams params =>
    have different : BuilderKind.indexParams ≠ .indexValue ∧
        BuilderKind.indexParams ≠ .indexPermission := by decide
    exact store.indexParams_form fuel params
      (store.formsField_terms fuel params.terms (fits .terms))
      (store.formsField_values fuel handle _ many found different params.values (fits .values))
      (store.fieldUnlessNull_permissions fuel handle _ many found different _
        (fits .permissions _ rfl))
  | classParams params =>
    have different : BuilderKind.classParams ≠ .indexValue ∧
        BuilderKind.classParams ≠ .indexPermission := by decide
    exact store.classParams_form fuel params
      (store.fieldUnlessNull_permissions fuel handle _ many found different _
        (fits .permissions _ rfl))
  | indexValue source reverse => simp [Builder.kind] at isParams
  | indexPermission read => simp [Builder.kind] at isParams

end Store

theorem Conversion.sourceField_ok (snapshot : Nat → Except Fault Value) (source : Value)
    (isSource : source.IsSource) : ∃ field, sourceField ⟨pure, snapshot⟩ source = .ok field := by
  cases source with
  | bindingSource name => exact ⟨_, rfl⟩
  | fieldSource path =>
    cases path with
    | tuple segments =>
      obtain ⟨literals, done⟩ :=
        mapM_total segments (literal ⟨pure, snapshot⟩) fun segment _ => ⟨_, rfl⟩
      rw [sourceField, done]
      exact ⟨_, rfl⟩
    | _ => exact isSource.elim
  | _ => exact isSource.elim

namespace Store

variable (store : Store)

theorem expr_term_ok (own : Nat) (source : Value) (isSource : source.IsSource) :
    ∃ node, store.expr (.term own source) = .ok node := by
  obtain ⟨field, done⟩ := Conversion.sourceField_ok
    (store.snapshotWithin pure store.builders.length) source isSource
  rw [expr, conversion, Conversion.expr, Conversion.form, done]
  exact ⟨_, rfl⟩

theorem expr_indexValue_ok (value : Value) (isValue : store.HasIndexValue value)
    (sourced : store.Sourced value) : ∃ node, store.expr value = .ok node := by
  obtain ⟨handle, around, source, reverse, rfl, held⟩ := isValue
  obtain ⟨fuel, _, form⟩ := store.expr_cell .indexValue handle around _ held
  obtain ⟨field, done⟩ := Conversion.sourceField_ok
    (store.snapshotWithin pure fuel) source (sourced source reverse held)
  rw [form, Builder.form, done]
  exact ⟨_, rfl⟩

theorem expr_permission_ok (value : Value) (isPermission : store.HasPermission value) :
    ∃ node, store.expr value = .ok node := by
  obtain ⟨handle, around, read, rfl, held⟩ := isPermission
  obtain ⟨fuel, _, form⟩ := store.expr_cell .indexPermission handle around _ held
  rw [form]
  cases read <;> exact ⟨_, rfl⟩

end Store

namespace Setter

theorem shown_ok (store : Store) (setter : Setter) (content : setter.Content)
    (fits : setter.Fits store content) (sound : setter.Sound store content)
    (shows : setter.omits content = false) : ∃ node, setter.shown store content = .ok node := by
  have array (items : List Value) (each : ∀ item ∈ items, ∃ node, store.expr item = .ok node) :
      ∃ node, (do return .array (.tuple (← items.mapM store.expr)) : Except Fault Value) =
        .ok node := by
    obtain ⟨nodes, done⟩ := mapM_total items store.expr each
    rw [done]
    exact ⟨_, rfl⟩
  cases setter with
  | terms =>
    refine array content fun item member => ?_
    obtain ⟨own, source, rfl⟩ := fits item member
    exact store.expr_term_ok own source (sound _ member)
  | values =>
    exact array content fun item member =>
      store.expr_indexValue_ok item (fits item member) (sound item member)
  | permissions =>
    obtain rfl | isPermission := fits
    · nomatch shows
    · exact store.expr_permission_ok content isPermission
  | _ => exact ⟨_, rfl⟩

theorem fields_ok (store : Store) (layout : List Setter)
    (content : (setter : Setter) → Option setter.Content)
    (fits : ∀ setter found, content setter = some found → setter.Fits store found)
    (sound : ∀ setter found, content setter = some found → setter.Sound store found) :
    ∃ fields, Setter.fields store layout content = .ok fields := by
  have each (setter : Setter) : ∃ field, setter.field store (content setter) = .ok field := by
    cases held : content setter with
    | none => exact ⟨[], rfl⟩
    | some found =>
      rw [field]
      split
      · exact ⟨[], rfl⟩
      case isFalse shows =>
        obtain ⟨node, done⟩ := setter.shown_ok store found (fits setter found held)
          (sound setter found held) (eq_false_of_ne_true shows)
        rw [done]
        exact ⟨[(setter.key, node)], rfl⟩
  obtain ⟨fields, done⟩ := mapM_total layout (fun setter => setter.field store (content setter))
    fun setter _ => each setter
  rw [Setter.fields, done]
  exact ⟨fields.flatten, rfl⟩

theorem field_keys (store : Store) (setter : Setter) (content : Option setter.Content)
    (field : List (Text × Value)) (done : setter.field store content = .ok field) :
    field.map Prod.fst = if setter.appears content then [setter.key] else [] := by
  cases content with
  | none =>
    cases done
    rfl
  | some content =>
    rw [Setter.field] at done
    cases omitted : setter.omits content with
    | true =>
      rw [omitted] at done
      cases done
      simp [appears, omitted]
    | false =>
      rw [omitted] at done
      obtain ⟨node, _, same⟩ := ok_of_bind done
      cases same
      simp [appears, omitted]

theorem fields_cons (store : Store) (setter : Setter) (layout : List Setter)
    (content : (setter : Setter) → Option setter.Content) :
    Setter.fields store (setter :: layout) content = do
      let first ← setter.field store (content setter)
      return first ++ (← Setter.fields store layout content) := by
  rw [Setter.fields, Setter.fields, List.mapM_cons]
  cases setter.field store (content setter) with
  | error fault => rfl
  | ok first => cases layout.mapM (fun setter => setter.field store (content setter)) <;> rfl

theorem fields_keys (store : Store) (layout : List Setter)
    (content : (setter : Setter) → Option setter.Content) (fields : List (Text × Value))
    (done : Setter.fields store layout content = .ok fields) :
    fields.map Prod.fst =
      (layout.filter fun setter => setter.appears (content setter)).map key := by
  induction layout generalizing fields with
  | nil =>
    cases done
    rfl
  | cons setter layout ih =>
    rw [fields_cons] at done
    obtain ⟨first, here, done⟩ := ok_of_bind done
    obtain ⟨others, rest, same⟩ := ok_of_bind done
    cases same
    rw [List.map_append, field_keys store setter _ first here, ih others rest, List.filter_cons]
    split <;> rfl

end Setter

end QueryWire
