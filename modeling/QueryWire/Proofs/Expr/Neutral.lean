import QueryWire.Expr.Construct
import QueryWire.Proofs.Run

/-!
What a conversion does, and what it goes by. It hands out identities and does nothing else to a
store, and of all builders it goes by those that it asks for only, so changing any other one makes
no difference to it.
-/

namespace QueryWire

namespace Run

variable {α β : Type}

/-- A computation to which builders and one-shot sequences are all the same: it neither changes them
nor goes by them. -/
structure Neutral (run : Run α) : Prop where
  outcome_eq : ∀ store builders taken,
    outcome run { store with builders, taken } = outcome run store
  leaves_eq : ∀ store builders taken,
    leaves run { store with builders, taken } = { leaves run store with builders, taken }

namespace Neutral

theorem result (value : α) : Neutral (pure value) := ⟨fun _ _ _ => rfl, fun _ _ _ => rfl⟩

theorem fault (cause : Fault) : Neutral (throw cause : Run α) :=
  ⟨fun _ _ _ => rfl, fun _ _ _ => rfl⟩

theorem bind {run : Run α} {next : α → Run β} (first : Neutral run)
    (others : ∀ value, Neutral (next value)) : Neutral (run >>= next) := by
  constructor
  · intro store builders taken
    rw [outcome_bind, outcome_bind, first.outcome_eq, first.leaves_eq]
    cases outcome run store with
    | error cause => rfl
    | ok value => exact (others value).outcome_eq _ _ _
  · intro store builders taken
    rw [leaves_bind, leaves_bind, first.outcome_eq, first.leaves_eq]
    cases outcome run store with
    | error cause => rfl
    | ok value => exact (others value).leaves_eq _ _ _

theorem enclose (value : Value) : Neutral (Run.enclose value) := by
  have identity : Neutral identity := ⟨fun _ _ _ => rfl, fun _ _ _ => rfl⟩
  rw [Run.enclose]
  cases value.enclosure? with
  | none => exact result value
  | some enclosure => exact identity.bind fun _ => result _

theorem spares {run : Run α} (neutral : Neutral run) : Spares run := by
  intro store
  refine ⟨?_, fun _ _ => trivial⟩
  rw [neutral.leaves_eq store store.builders store.taken]

end Neutral

structure Same (first second : Run α) : Prop where
  eq : first = second
  neutral : Neutral first

namespace Same

variable {first second : Run α} {next others : α → Run β}

theorem of_neutral (neutral : Neutral first) : Same first first := ⟨rfl, neutral⟩

theorem fault (cause : Fault) : Same (throw cause : Run α) (throw cause) :=
  .of_neutral (.fault cause)

theorem bind (same : Same first second) (rest : ∀ value, Same (next value) (others value)) :
    Same (first >>= next) (second >>= others) := by
  obtain ⟨rfl, neutral⟩ := same
  obtain rfl : next = others := funext fun value => (rest value).eq
  exact ⟨rfl, neutral.bind fun value => (rest value).neutral⟩

theorem map (same : Same first second) (make : α → β) :
    Same (do return make (← first)) (do return make (← second)) :=
  same.bind fun value => .of_neutral (.result (make value))

theorem mapM (items : List α) {body turn : α → Run β}
    (each : ∀ item ∈ items, Same (body item) (turn item)) :
    Same (items.mapM body) (items.mapM turn) := by
  induction items with
  | nil => exact .of_neutral (.result [])
  | cons item items ih =>
    obtain ⟨here, rest⟩ := List.forall_mem_cons.mp each
    rw [List.mapM_cons, List.mapM_cons]
    exact here.bind fun first => (ih rest).map (first :: ·)

end Same

end Run

open Run (Neutral Same)

namespace Value

def handle? : Value → Option Nat
  | .builder _ handle _ => some handle
  | _ => none

mutual

/-- The builders that the conversion of a value asks for. -/
def asked : Value → List Nat
  | .list items | .tuple items => askedOfItems items
  | .dict entries | .view entries => askedOfEntries entries
  | .builder _ handle _ => [handle]
  | _ => []

def askedOfItems : List Value → List Nat
  | [] => []
  | item :: items => asked item ++ askedOfItems items

def askedOfEntries : List (Value × Value) → List Nat
  | [] => []
  | (_, value) :: entries => asked value ++ askedOfEntries entries

end

end Value

namespace Conversion

variable {snapshot other : Nat → Run Value}

abbrev Agree (snapshot other : Nat → Run Value) (handle : Nat) : Prop :=
  Same (snapshot handle) (other handle)

theorem literal_same (value : Value) :
    Same (literal ⟨Run.enclose, snapshot⟩ value) (literal ⟨Run.enclose, other⟩ value) :=
  .of_neutral (.enclose _)

theorem array_same (items : List Value) :
    Same (array ⟨Run.enclose, snapshot⟩ items) (array ⟨Run.enclose, other⟩ items) :=
  .of_neutral ((Neutral.enclose _).bind fun _ => .enclose _)

theorem pair_same (key value : Value) :
    Same (pair ⟨Run.enclose, snapshot⟩ key value) (pair ⟨Run.enclose, other⟩ key value) :=
  .of_neutral (.enclose _)

theorem object_same (pairs : List Value) :
    Same (object ⟨Run.enclose, snapshot⟩ pairs) (object ⟨Run.enclose, other⟩ pairs) :=
  .of_neutral ((Neutral.enclose _).bind fun _ => .enclose _)

theorem record_same (fields : List (Text × Value)) :
    Same (record ⟨Run.enclose, snapshot⟩ fields) (record ⟨Run.enclose, other⟩ fields) :=
  (Same.mapM fields fun field _ => pair_same (.text field.1) field.2).bind object_same

theorem sourceField_same (source : Value) :
    Same (sourceField ⟨Run.enclose, snapshot⟩ source)
      (sourceField ⟨Run.enclose, other⟩ source) := by
  cases source with
  | fieldSource path =>
    cases path with
    | tuple segments =>
      refine (Same.mapM segments fun segment _ => literal_same segment).bind fun literals => ?_
      exact (array_same literals).map _
    | _ => exact .fault _
  | bindingSource name => exact (literal_same name).map _
  | _ => exact .fault _

theorem literalField_same (key : Text) (value : Value) :
    Same (literalField ⟨Run.enclose, snapshot⟩ key value)
      (literalField ⟨Run.enclose, other⟩ key value) :=
  (literal_same value).map _

theorem fieldUnlessNull_same (key : Text) (value : Value) {convert form : Value → Run Value}
    (same : Same (convert value) (form value)) :
    Same (fieldUnlessNull key convert value) (fieldUnlessNull key form value) := by
  cases value with
  | null => exact .of_neutral (.result [])
  | _ => exact same.map _

theorem form_same (value : Value)
    (agree : ∀ handle, value.handle? = some handle → Agree snapshot other handle) :
    Same (form ⟨Run.enclose, snapshot⟩ value) (form ⟨Run.enclose, other⟩ value) := by
  cases value with
  | term own source => exact (sourceField_same source).bind fun field => record_same [field]
  | builder kind handle around => exact agree handle rfl
  | foreign own form callable =>
    cases callable with
    | true => exact .of_neutral (.result form)
    | false => exact .fault _
  | _ => exact .fault _

theorem formsField_same (key : Text) (items : Option (List Value))
    (agree : ∀ found, items = some found → ∀ item ∈ found, ∀ handle,
      item.handle? = some handle → Agree snapshot other handle) :
    Same (formsField ⟨Run.enclose, snapshot⟩ key items)
      (formsField ⟨Run.enclose, other⟩ key items) := by
  cases items with
  | none => exact .of_neutral (.result [])
  | some items =>
    have each := fun item member => form_same item (agree items rfl item member)
    exact (Same.mapM items each).bind fun forms => (array_same forms).map _

mutual

theorem expr_same (value : Value) (agree : ∀ handle ∈ value.asked, Agree snapshot other handle) :
    Same (expr ⟨Run.enclose, snapshot⟩ value) (expr ⟨Run.enclose, other⟩ value) := by
  match value with
  | .null | .bool _ | .int _ | .float _ | .text _ => exact literal_same _
  | .list items | .tuple items => exact (exprItems_same items agree).bind array_same
  | .dict entries | .view entries => exact (exprFields_same entries agree).bind object_same
  | .term own source => exact form_same (.term own source) nofun
  | .builder _ handle _ => exact agree handle (.head _)
  | .foreign own form true => exact .of_neutral (.result form)
  | .bare _ | .literal _ | .array _ | .object _ | .ref .. | .query .. | .level _ =>
    exact .of_neutral (.result _)
  | .foreign _ _ false | .set _ | .bytes _ | .duration _ | .url _ | .response _ | .errorDetail ..
  | .errors _ | .fieldSource _ | .bindingSource _ | .cursor .. | .unknown _ | .failure .. =>
    exact .fault _

theorem exprItems_same (items : List Value)
    (agree : ∀ handle ∈ Value.askedOfItems items, Agree snapshot other handle) :
    Same (exprItems ⟨Run.enclose, snapshot⟩ items) (exprItems ⟨Run.enclose, other⟩ items) := by
  match items with
  | [] => exact .of_neutral (.result [])
  | item :: items =>
    obtain ⟨here, rest⟩ := List.forall_mem_append.mp agree
    exact (expr_same item here).bind fun first => (exprItems_same items rest).map (first :: ·)

theorem exprFields_same (entries : List (Value × Value))
    (agree : ∀ handle ∈ Value.askedOfEntries entries, Agree snapshot other handle) :
    Same (exprFields ⟨Run.enclose, snapshot⟩ entries)
      (exprFields ⟨Run.enclose, other⟩ entries) := by
  match entries with
  | [] => exact .of_neutral (.result [])
  | (key, value) :: entries =>
    obtain ⟨here, rest⟩ := List.forall_mem_append.mp agree
    refine (expr_same value here).bind fun node => (pair_same key node).bind fun first => ?_
    exact (exprFields_same entries rest).map (first :: ·)

end

theorem mapping_same (value : Value)
    (agree : ∀ handle ∈ value.asked, Agree snapshot other handle) :
    Same (mapping ⟨Run.enclose, snapshot⟩ value) (mapping ⟨Run.enclose, other⟩ value) := by
  cases value with
  | dict entries | view entries => exact (exprFields_same entries agree).bind object_same
  | _ => exact .fault _

end Conversion

open Conversion

def Builder.asked : Builder → List Nat
  | .indexParams params =>
    (params.terms.getD [] ++ params.values.getD [] ++ [params.permissions]).filterMap Value.handle?
  | .classParams params => [params.permissions].filterMap Value.handle?
  | .indexValue _ _ | .indexPermission _ => []

section Forms

variable {snapshot other : Nat → Run Value}

theorem Conversion.permitted_same (fields : List (Text × Value)) (permissions : Value)
    (data : Option Value)
    (agree : ∀ handle, permissions.handle? = some handle → Agree snapshot other handle) :
    Same
      (do
        let permissions ←
          fieldUnlessNull "permissions" (form ⟨Run.enclose, snapshot⟩) permissions
        record ⟨Run.enclose, snapshot⟩ (fields ++ permissions ++ optionalField "data" data))
      (do
        let permissions ← fieldUnlessNull "permissions" (form ⟨Run.enclose, other⟩) permissions
        record ⟨Run.enclose, other⟩ (fields ++ permissions ++ optionalField "data" data)) :=
  (fieldUnlessNull_same "permissions" permissions (form_same permissions agree)).bind fun _ =>
    record_same _

theorem IndexParams.form_same (params : IndexParams)
    (agree : ∀ handle ∈ (Builder.indexParams params).asked, Agree snapshot other handle) :
    Same (params.form ⟨Run.enclose, snapshot⟩) (params.form ⟨Run.enclose, other⟩) := by
  have permitted (handle : Nat) (asked : params.permissions.handle? = some handle) :
      Agree snapshot other handle := by
    apply agree
    simp [Builder.asked, asked]
  have terms := formsField_same "terms" params.terms fun found held item member handle asked => by
    apply agree
    exact List.mem_filterMap.mpr ⟨item, by simp [held, member], asked⟩
  have values := formsField_same "values" params.values fun found held item member handle asked => by
    apply agree
    exact List.mem_filterMap.mpr ⟨item, by simp [held, member], asked⟩
  rw [IndexParams.form, IndexParams.form]
  apply (literalField_same "name" params.name).bind
  intro name
  apply (literalField_same "active" params.active).bind
  intro active
  apply (literalField_same "unique" params.unique).bind
  intro unique
  apply (literalField_same "serialized" params.serialized).bind
  intro serialized
  apply terms.bind
  intro terms
  apply values.bind
  intro values
  cases params.partitions with
  | none => exact permitted_same _ params.permissions params.data permitted
  | some count =>
    exact (literalField_same "partitions" (.int count)).bind fun _ =>
      permitted_same _ params.permissions params.data permitted

theorem ClassParams.form_same (params : ClassParams)
    (agree : ∀ handle ∈ (Builder.classParams params).asked, Agree snapshot other handle) :
    Same (params.form ⟨Run.enclose, snapshot⟩) (params.form ⟨Run.enclose, other⟩) := by
  have permitted (handle : Nat) (asked : params.permissions.handle? = some handle) :
      Agree snapshot other handle := by
    apply agree
    simp [Builder.asked, asked]
  rw [ClassParams.form, ClassParams.form]
  apply (literalField_same "name" params.name).bind
  intro name
  apply (fieldUnlessNull_same "history_days" params.historyDays (literal_same _)).bind
  intro history
  apply (fieldUnlessNull_same "ttl_days" params.ttlDays (literal_same _)).bind
  intro ttl
  exact permitted_same _ params.permissions params.data permitted

theorem Builder.form_same (builder : Builder)
    (agree : ∀ handle ∈ builder.asked, Agree snapshot other handle) :
    Same (builder.form ⟨Run.enclose, snapshot⟩) (builder.form ⟨Run.enclose, other⟩) := by
  cases builder with
  | indexValue source reverse =>
    apply (sourceField_same source).bind
    intro field
    apply (literalField_same "reverse" reverse).bind
    intro reverse
    exact record_same _
  | indexParams params => exact params.form_same agree
  | classParams params => exact params.form_same agree
  | indexPermission read => cases read <;> exact record_same _

end Forms

namespace Store

theorem snapshotWithin_congr {m : Type → Type} [Monad m] [MonadExcept Fault m] (store other : Store)
    (same : other.builders = store.builders) (keep : Value → m Value) (fuel : Nat) :
    other.snapshotWithin keep fuel = store.snapshotWithin keep fuel := by
  induction fuel with
  | zero => rfl
  | succ fuel ih =>
    funext handle
    rw [snapshotWithin, snapshotWithin, same, ih]

theorem conversion_congr {m : Type → Type} [Monad m] [MonadExcept Fault m] (store other : Store)
    (same : other.builders = store.builders) (keep : Value → m Value) :
    other.conversion keep = store.conversion keep := by
  rw [conversion, conversion, same, store.snapshotWithin_congr other same]

/-- Two stores with the same snapshots of all builders in a set, if the set is closed: the forms of
the builders in it ask for builders in it only. -/
theorem snapshotWithin_same (store other : Store) (good : Nat → Prop)
    (same : ∀ handle, good handle → other.builders[handle]? = store.builders[handle]?)
    (closed : ∀ handle builder, good handle → store.builders[handle]? = some builder →
      ∀ next ∈ builder.asked, good next) (fuel handle : Nat) (within : good handle) :
    Agree (store.snapshotWithin Run.enclose fuel) (other.snapshotWithin Run.enclose fuel)
      handle := by
  induction fuel generalizing handle with
  | zero => exact .fault _
  | succ fuel ih =>
    rw [Agree, snapshotWithin, snapshotWithin, same handle within]
    cases found : store.builders[handle]? with
    | none => exact .fault _
    | some builder =>
      exact builder.form_same fun next asked => ih next (closed handle builder within found next asked)

theorem snapshotWithin_agree (store : Store) (fuel handle : Nat) :
    Agree (store.snapshotWithin Run.enclose fuel) (store.snapshotWithin Run.enclose fuel) handle :=
  store.snapshotWithin_same store (fun _ => True) (fun _ _ => rfl) (fun _ _ _ _ _ _ => trivial)
    fuel handle trivial

section

variable (store : Store) (value : Value)

theorem expr_neutral : Neutral ((store.conversion Run.enclose).expr value) :=
  (expr_same value fun handle _ => store.snapshotWithin_agree _ handle).neutral

theorem form_neutral : Neutral ((store.conversion Run.enclose).form value) :=
  (Conversion.form_same value fun handle _ => store.snapshotWithin_agree _ handle).neutral

theorem mapping_neutral : Neutral ((store.conversion Run.enclose).mapping value) :=
  (Conversion.mapping_same value fun handle _ => store.snapshotWithin_agree _ handle).neutral

theorem record_neutral (fields : List (Text × Value)) :
    Neutral ((store.conversion Run.enclose).record fields) := by
  let record := (store.conversion Run.enclose).record fields
  have same : Same record record := record_same fields
  exact same.neutral

end

/-- The form of the second builder stands in that of the first. -/
inductive Leads (store : Store) (target : Nat) : Nat → Prop
  | itself : Leads store target target
  | through (handle next : Nat) (builder : Builder) (found : store.builders[handle]? = some builder)
    (asked : next ∈ builder.asked) (leads : Leads store target next) : Leads store target handle

/-- A builder that is changed makes no difference to a mapping that does not lead to it. -/
theorem mapping_same (store other : Store) (target : Nat)
    (same : ∀ handle, handle ≠ target → other.builders[handle]? = store.builders[handle]?)
    (many : other.builders.length = store.builders.length) (value : Value)
    (outside : ∀ handle ∈ value.asked, ¬store.Leads target handle) :
    Same ((store.conversion Run.enclose).mapping value)
      ((other.conversion Run.enclose).mapping value) := by
  have kept (handle : Nat) (apart : ¬store.Leads target handle) :
      other.builders[handle]? = store.builders[handle]? :=
    same handle fun itself => apart (itself ▸ .itself)
  have closed (handle : Nat) (builder : Builder) (apart : ¬store.Leads target handle)
      (found : store.builders[handle]? = some builder) (next : Nat) (asked : next ∈ builder.asked) :
      ¬store.Leads target next :=
    fun leads => apart (.through handle next builder found asked leads)
  rw [conversion, conversion, many]
  exact Conversion.mapping_same value fun handle asked =>
    store.snapshotWithin_same other _ kept closed _ handle (outside handle asked)

end Store

end QueryWire
