import QueryWire.Proofs.Program

/-!
Conversion of what is composed of scalars, nodes and things with a form, in any nesting. It gives a
well-formed expression, and it makes no difference to it which parts were converted before. Where a
part has no form the conversion is refused, however deep that part lies.
-/

namespace QueryWire

namespace Value

def isScalar : Value → Bool
  | .null | .bool _ | .int _ | .float _ | .text _ => true
  | _ => false

def isCollection : Value → Bool
  | .list _ | .tuple _ | .dict _ | .view _ => true
  | _ => false

def contents : Value → List Value
  | .list items | .tuple items => items
  | .dict entries | .view entries => entries.map Prod.snd
  | _ => []

/-- A value of a kind that is not converted, and that has no form to give. -/
def Formless : Value → Prop
  | .bytes _ | .set _ | .duration _ | .url _ | .response _ | .errorDetail .. | .errors _
  | .fieldSource _ | .bindingSource _ | .cursor .. | .foreign _ _ false | .unknown _
  | .failure .. => True
  | _ => False

/-- A value lies within itself, and within all that it is contained in, at any depth. -/
inductive Within (part : Value) : Value → Prop
  | itself : Within part part
  | deeper {whole item : Value} (member : item ∈ whole.contents) (inside : Within part item) :
      Within part whole

def field (entry : Value × Value) : Value := .tuple [entry.1, entry.2]

/-- A node all of whose children are nodes, which arrays and objects hold in tuples. The keys of
objects are no children, and any can be allowed. -/
inductive WellFormed (allowed : Value → Prop) : Value → Prop
  | bare (identity : Nat) : WellFormed allowed (.bare identity)
  | literal {value : Value} (scalar : value.isScalar = true) : WellFormed allowed (.literal value)
  | array {items : List Value} (children : ∀ item ∈ items, WellFormed allowed item) :
      WellFormed allowed (.array (.tuple items))
  | object {entries : List (Value × Value)} (keys : ∀ entry ∈ entries, allowed entry.1)
      (children : ∀ entry ∈ entries, WellFormed allowed entry.2) :
      WellFormed allowed (.object (.tuple (entries.map field)))
  | root (id : Text) : WellFormed allowed (.ref (.text id) .null)
  | ref (id : Text) {name parent : Value} (child : WellFormed allowed (.ref name parent)) :
      WellFormed allowed (.ref (.text id) (.ref name parent))
  | query (construct : Construct) (verb : Text) {argument : Value}
      (child : WellFormed allowed argument) :
      WellFormed allowed (.query construct (.text verb) argument)
  | level {value : Value} (child : WellFormed allowed value) : WellFormed allowed (.level value)

section

variable {allowed : Value → Prop} {value part : Value}

theorem within_iff :
    part.Within value ↔ part = value ∨ ∃ item ∈ value.contents, part.Within item := by
  constructor
  · rintro (_ | ⟨member, inside⟩)
    · exact .inl rfl
    · exact .inr ⟨_, member, inside⟩
  · rintro (rfl | ⟨item, member, inside⟩)
    · exact .itself
    · exact .deeper member inside

theorem WellFormed.isNode (wellFormed : value.WellFormed allowed) : value.isNode = true := by
  cases wellFormed <;> rfl

theorem isCollection_of_isScalar (scalar : value.isScalar = true) : value.isCollection = false := by
  cases value with
  | null | bool _ | int _ | float _ | text _ => rfl
  | _ => nomatch scalar

theorem isCollection_of_isNode (isNode : value.isNode = true) : value.isCollection = false := by
  cases value with
  | bare _ | literal _ | array _ | object _ | ref _ _ | query _ _ _ | level _ => rfl
  | _ => nomatch isNode

theorem Formless.isCollection (formless : value.Formless) : value.isCollection = false := by
  cases value with
  | list _ | tuple _ | dict _ | view _ => exact formless.elim
  | _ => rfl

theorem contents_of_isCollection (single : value.isCollection = false) : value.contents = [] := by
  cases value with
  | list _ | tuple _ | dict _ | view _ => nomatch single
  | _ => rfl

theorem Formless.expr {m : Type → Type} [Monad m] [MonadExcept Fault m]
    (formless : value.Formless) (conversion : Conversion m) :
    conversion.expr value = throw value.notConvertible := by
  cases value with
  | foreign identity form callable =>
    cases callable with
    | true => exact formless.elim
    | false => rfl
  | bytes _ | set _ | duration _ | url _ | response _ | errorDetail _ _ _ | errors _
  | fieldSource _ | bindingSource _ | cursor _ _ | unknown _ | failure _ _ => rfl
  | _ => exact formless.elim

end

end Value

open Value Conversion
open Run (MirrorsIn)

namespace Store

variable (store : Store) (allowed : Value → Prop)

def form (value : Value) : Except Fault Value := (store.conversion pure).form value

/-- A value that is composed of scalars, well-formed nodes, things that give such a node as their
form, and things without a form. -/
inductive Composed : Value → Prop
  | scalar {value : Value} (scalar : value.isScalar = true) : Composed value
  | node {value : Value} (wellFormed : value.WellFormed allowed) : Composed value
  | formed {value node : Value} (formed : store.form value = .ok node)
      (wellFormed : node.WellFormed allowed) : Composed value
  | formless {value : Value} (formless : value.Formless) : Composed value
  | list {items : List Value} (parts : ∀ item ∈ items, Composed item) : Composed (.list items)
  | tuple {items : List Value} (parts : ∀ item ∈ items, Composed item) : Composed (.tuple items)
  | dict {entries : List (Value × Value)} (keys : ∀ entry ∈ entries, allowed entry.1)
      (parts : ∀ entry ∈ entries, Composed entry.2) : Composed (.dict entries)
  | view {entries : List (Value × Value)} (keys : ∀ entry ∈ entries, allowed entry.1)
      (parts : ∀ entry ∈ entries, Composed entry.2) : Composed (.view entries)

mutual

/-- The second value is the first one with some parts converted, or with all of it. -/
inductive Replaced : Value → Value → Prop
  | kept (value : Value) : Replaced value value
  | converted {value node : Value} (made : store.expr value = .ok node) : Replaced value node
  | list {items others : List Value} (parts : ReplacedItems items others) :
      Replaced (.list items) (.list others)
  | tuple {items others : List Value} (parts : ReplacedItems items others) :
      Replaced (.tuple items) (.tuple others)
  | dict {entries others : List (Value × Value)} (parts : ReplacedEntries entries others) :
      Replaced (.dict entries) (.dict others)
  | view {entries others : List (Value × Value)} (parts : ReplacedEntries entries others) :
      Replaced (.view entries) (.view others)

inductive ReplacedItems : List Value → List Value → Prop
  | nil : ReplacedItems [] []
  | cons {item other : Value} {items others : List Value} (here : Replaced item other)
      (there : ReplacedItems items others) : ReplacedItems (item :: items) (other :: others)

inductive ReplacedEntries : List (Value × Value) → List (Value × Value) → Prop
  | nil : ReplacedEntries [] []
  | cons (key : Value) {value other : Value} {entries others : List (Value × Value)}
      (here : Replaced value other) (there : ReplacedEntries entries others) :
      ReplacedEntries ((key, value) :: entries) ((key, other) :: others)

end

def exprEntry (entry : Value × Value) : Except Fault (Value × Value) := do
  return (entry.1, ← store.expr entry.2)

theorem exprItems_eq (items : List Value) :
    (store.conversion pure).exprItems items = items.mapM store.expr := by
  induction items with
  | nil => rfl
  | cons item items ih =>
    rw [exprItems, List.mapM_cons, ih]
    rfl

theorem exprFields_eq (entries : List (Value × Value)) :
    (store.conversion pure).exprFields entries =
      (do return (← entries.mapM store.exprEntry).map field : Except Fault (List Value)) := by
  induction entries with
  | nil => rfl
  | cons entry entries ih =>
    rw [exprFields, ih]
    simp only [List.mapM_cons, exprEntry, pair, conversion, bind_assoc, pure_bind, List.map_cons]
    rfl

theorem expr_list (items : List Value) :
    store.expr (.list items) = (do return .array (.tuple (← items.mapM store.expr))) := by
  rw [← exprItems_eq]
  rfl

theorem expr_tuple (items : List Value) :
    store.expr (.tuple items) = (do return .array (.tuple (← items.mapM store.expr))) := by
  rw [← exprItems_eq]
  rfl

theorem expr_dict (entries : List (Value × Value)) :
    store.expr (.dict entries) =
      (do return .object (.tuple ((← entries.mapM store.exprEntry).map field))) := by
  rw [expr, Conversion.expr, exprFields_eq, bind_assoc]
  rfl

theorem expr_view (entries : List (Value × Value)) :
    store.expr (.view entries) =
      (do return .object (.tuple ((← entries.mapM store.exprEntry).map field))) := by
  rw [expr, Conversion.expr, exprFields_eq, bind_assoc]
  rfl

variable {store} {allowed} {value node : Value}

theorem expr_snd (entry : Value × Value) :
    store.expr entry.2 = (store.exprEntry entry).map Prod.snd := by
  rw [exprEntry]
  cases store.expr entry.2 <;> rfl

theorem exprEntry_key {entry made : Value × Value} (done : store.exprEntry entry = .ok made) :
    made.1 = entry.1 := by
  obtain ⟨node, -, done⟩ := ok_of_bind done
  cases done
  rfl

theorem expr_of_isScalar (scalar : value.isScalar = true) :
    store.expr value = .ok (.literal value) := by
  cases value with
  | null | bool _ | int _ | float _ | text _ => rfl
  | _ => nomatch scalar

theorem expr_of_isNode (isNode : node.isNode = true) : store.expr node = .ok node :=
  Value.expr_of_isNode (store.conversion pure) node isNode

theorem expr_of_form (formed : store.form value = .ok node) :
    value.isCollection = false ∧ store.expr value = .ok node := by
  cases value with
  | term _ _ | builder _ _ _ => exact ⟨rfl, formed⟩
  | foreign _ _ callable =>
    cases callable with
    | true => exact ⟨rfl, formed⟩
    | false => nomatch formed
  | _ => nomatch formed

/-- A conversion gives a well-formed node, or refuses a part that has no form. It does the latter
if there is such a part. -/
structure Decided (store : Store) (allowed : Value → Prop) (value : Value) : Prop where
  node : ∀ node : Value, store.expr value = .ok node →
    node.WellFormed allowed ∧ ∀ part : Value, part.Within value → ¬part.Formless
  fault : ∀ fault, store.expr value = .error fault →
    ∃ part : Value, part.Within value ∧ part.Formless ∧ fault = part.notConvertible

theorem decided_of_ok (single : value.isCollection = false) (made : store.expr value = .ok node)
    (wellFormed : node.WellFormed allowed) : store.Decided allowed value := by
  refine ⟨fun found same => ?_, fun fault failed => nomatch made.symm.trans failed⟩
  cases made.symm.trans same
  refine ⟨wellFormed, fun part inside formless => ?_⟩
  obtain rfl | ⟨item, member, -⟩ := within_iff.mp inside
  · exact nomatch made.symm.trans (formless.expr (store.conversion pure))
  · rw [contents_of_isCollection single] at member
    nomatch member

theorem decided_of_formless (formless : value.Formless) : store.Decided allowed value := by
  have refused : store.expr value = .error value.notConvertible :=
    formless.expr (store.conversion pure)
  refine ⟨fun node made => ?_, fun fault failed => ?_⟩
  · nomatch made.symm.trans refused
  · exact ⟨value, .itself, formless, Except.error.inj (failed.symm.trans refused)⟩

/-- A collection becomes a node with what its contents become, or is refused as one of them is. -/
theorem decided_of_contents {α : Type} {items : List α} {content : α → Value}
    {body : α → Except Fault α} {make : List α → Value}
    (contents : value.contents = items.map content) (whole : ¬value.Formless)
    (each : ∀ item ∈ items, store.Decided allowed (content item))
    (converts : ∀ item, store.expr (content item) = (body item).map content)
    (collects : store.expr value = (do return make (← items.mapM body)))
    (wellFormed : ∀ made : List α, (∀ result ∈ made, ∃ item ∈ items, body item = .ok result) →
      (∀ result ∈ made, (content result).WellFormed allowed) → (make made).WellFormed allowed) :
    store.Decided allowed value := by
  constructor
  · intro node done
    rw [collects] at done
    obtain ⟨made, looped, done⟩ := ok_of_bind done
    cases done
    obtain ⟨results, origins⟩ := ok_of_mapM looped
    have parts (item : α) (member : item ∈ items) (result : α) (same : body item = .ok result) :=
      (each item member).node (content result) (by rw [converts, same]; rfl)
    refine ⟨wellFormed made origins fun result member => ?_, fun part inside => ?_⟩
    · obtain ⟨item, among, same⟩ := origins result member
      exact (parts item among result same).1
    · obtain rfl | ⟨_, member, inside⟩ := within_iff.mp inside
      · exact whole
      · rw [contents] at member
        obtain ⟨item, among, rfl⟩ := List.mem_map.mp member
        obtain ⟨result, same⟩ := results item among
        exact (parts item among result same).2 part inside
  · intro fault failed
    rw [collects] at failed
    cases looped : items.mapM body with
    | ok made =>
      rw [looped] at failed
      nomatch failed
    | error cause =>
      rw [looped] at failed
      cases failed
      obtain ⟨item, among, same⟩ := error_of_mapM looped
      have refused : store.expr (content item) = .error fault := by rw [converts, same]; rfl
      obtain ⟨part, inside, formless, same⟩ := (each item among).fault fault refused
      refine ⟨part, .deeper ?_ inside, formless, same⟩
      rw [contents]
      exact List.mem_map_of_mem among

theorem decided_of_items {items : List Value} (contents : value.contents = items)
    (whole : ¬value.Formless) (each : ∀ item ∈ items, store.Decided allowed item)
    (collects : store.expr value = (do return .array (.tuple (← items.mapM store.expr)))) :
    store.Decided allowed value := by
  refine decided_of_contents (contents.trans (List.map_id items).symm) whole each ?_ collects
    fun made _ children => .array children
  intro item
  rw [id_eq]
  cases store.expr item <;> rfl

theorem decided_of_entries {entries : List (Value × Value)}
    (contents : value.contents = entries.map Prod.snd) (whole : ¬value.Formless)
    (keys : ∀ entry ∈ entries, allowed entry.1)
    (each : ∀ entry ∈ entries, store.Decided allowed entry.2)
    (collects : store.expr value =
      (do return .object (.tuple ((← entries.mapM store.exprEntry).map field)))) :
    store.Decided allowed value := by
  refine decided_of_contents contents whole each expr_snd collects fun made origins children => ?_
  refine .object (fun result member => ?_) children
  obtain ⟨entry, among, same⟩ := origins result member
  rw [exprEntry_key same]
  exact keys entry among

theorem Composed.decided (composed : store.Composed allowed value) :
    store.Decided allowed value := by
  induction composed with
  | scalar scalar =>
    exact decided_of_ok (isCollection_of_isScalar scalar) (expr_of_isScalar scalar)
      (.literal scalar)
  | node wellFormed =>
    have isNode := wellFormed.isNode
    exact decided_of_ok (isCollection_of_isNode isNode) (expr_of_isNode isNode) wellFormed
  | formed formed wellFormed =>
    obtain ⟨single, made⟩ := expr_of_form formed
    exact decided_of_ok single made wellFormed
  | formless formless => exact decided_of_formless formless
  | list _ ih => exact decided_of_items rfl id ih (store.expr_list _)
  | tuple _ ih => exact decided_of_items rfl id ih (store.expr_tuple _)
  | dict keys _ ih => exact decided_of_entries rfl id keys ih (store.expr_dict _)
  | view keys _ ih => exact decided_of_entries rfl id keys ih (store.expr_view _)

/-- What a value is converted into stays as it is. -/
theorem Composed.expr_expr (composed : store.Composed allowed value)
    (made : store.expr value = .ok node) : store.expr node = store.expr value :=
  (expr_of_isNode (composed.decided.node node made).1.isNode).trans made.symm

theorem Replaced.of_single {other : Value} (replaced : store.Replaced value other)
    (single : value.isCollection = false) : other = value ∨ store.expr value = .ok other := by
  cases replaced with
  | kept => exact .inl rfl
  | converted made => exact .inr made
  | _ => nomatch single

theorem Composed.expr_of_single (composed : store.Composed allowed value)
    (single : value.isCollection = false) (other : Value)
    (replaced : store.Replaced value other) : store.expr other = store.expr value := by
  obtain rfl | made := replaced.of_single single
  · rfl
  · exact composed.expr_expr made

theorem mapM_of_replacedItems {items others : List Value}
    (each : ∀ item ∈ items, ∀ other, store.Replaced item other →
      store.expr other = store.expr item)
    (replaced : store.ReplacedItems items others) :
    others.mapM store.expr = items.mapM store.expr := by
  induction items generalizing others with
  | nil =>
    cases replaced
    rfl
  | cons item items ih =>
    obtain ⟨here, there⟩ := List.forall_mem_cons.mp each
    cases replaced with
    | cons first rest => rw [List.mapM_cons, List.mapM_cons, here _ first, ih there rest]

theorem mapM_of_replacedEntries {entries others : List (Value × Value)}
    (each : ∀ entry ∈ entries, ∀ other, store.Replaced entry.2 other →
      store.expr other = store.expr entry.2)
    (replaced : store.ReplacedEntries entries others) :
    others.mapM store.exprEntry = entries.mapM store.exprEntry := by
  induction entries generalizing others with
  | nil =>
    cases replaced
    rfl
  | cons entry entries ih =>
    obtain ⟨here, there⟩ := List.forall_mem_cons.mp each
    cases replaced with
    | cons key first rest =>
      rw [List.mapM_cons, List.mapM_cons, exprEntry, exprEntry, here _ first, ih there rest]

/-- Parts that are converted already make no difference. -/
theorem Composed.expr_of_replaced (composed : store.Composed allowed value) :
    ∀ other, store.Replaced value other → store.expr other = store.expr value := by
  induction composed with
  | scalar scalar =>
    have composed : store.Composed allowed _ := .scalar scalar
    exact composed.expr_of_single (isCollection_of_isScalar scalar)
  | node wellFormed =>
    exact (Composed.node wellFormed).expr_of_single (isCollection_of_isNode wellFormed.isNode)
  | formed formed wellFormed =>
    exact (Composed.formed formed wellFormed).expr_of_single (expr_of_form formed).1
  | formless formless =>
    have composed : store.Composed allowed _ := .formless formless
    exact composed.expr_of_single formless.isCollection
  | list parts ih =>
    intro other replaced
    cases replaced with
    | kept => rfl
    | converted made => exact (Composed.list parts).expr_expr made
    | list replaced => rw [expr_list, expr_list, mapM_of_replacedItems ih replaced]
  | tuple parts ih =>
    intro other replaced
    cases replaced with
    | kept => rfl
    | converted made => exact (Composed.tuple parts).expr_expr made
    | tuple replaced => rw [expr_tuple, expr_tuple, mapM_of_replacedItems ih replaced]
  | dict keys parts ih =>
    intro other replaced
    cases replaced with
    | kept => rfl
    | converted made => exact (Composed.dict keys parts).expr_expr made
    | dict replaced => rw [expr_dict, expr_dict, mapM_of_replacedEntries ih replaced]
  | view keys parts ih =>
    intro other replaced
    cases replaced with
    | kept => rfl
    | converted made => exact (Composed.view keys parts).expr_expr made
    | view replaced => rw [expr_view, expr_view, mapM_of_replacedEntries ih replaced]

/-- Where all parts have a form, the conversion gives a well-formed node, which it leaves as it is.
Otherwise it refuses a part that has none. Either way it does not matter which parts were converted
before, and a program gets the same as the wire does, up to the identities of builders in keys. -/
theorem composed_converts (store : Store) (allowed : Value → Prop) (value : Value)
    (composed : store.Composed allowed value) :
    ((∀ part : Value, part.Within value → ¬part.Formless) →
        ∃ node, store.expr value = .ok node ∧ node.WellFormed allowed ∧
          store.expr node = .ok node) ∧
      ((∃ part : Value, part.Within value ∧ part.Formless) →
        ∃ part : Value, part.Within value ∧ part.Formless ∧
          store.expr value = .error part.notConvertible) ∧
      (∀ other, store.Replaced value other → store.expr other = store.expr value) ∧
      (store.Settled → value.Settled →
        MirrorsIn store (Like Value.Settled) (Making.convert value).run (store.expr value)) := by
  have decided := composed.decided
  refine ⟨fun whole => ?_, ?_, composed.expr_of_replaced, ?_⟩
  · cases made : store.expr value with
    | ok node =>
      obtain ⟨wellFormed, -⟩ := decided.node node made
      exact ⟨node, rfl, wellFormed, expr_of_isNode wellFormed.isNode⟩
    | error fault =>
      obtain ⟨part, inside, formless, -⟩ := decided.fault fault made
      exact (whole part inside formless).elim
  · rintro ⟨part, inside, formless⟩
    cases made : store.expr value with
    | ok node => exact ((decided.node node made).2 part inside formless).elim
    | error fault =>
      obtain ⟨first, inside, formless, rfl⟩ := decided.fault fault made
      exact ⟨first, inside, formless, rfl⟩
  · exact fun kept settled => (Making.convert value).run_mirrors settled store kept

def permitting : Store where
  builders := [.indexPermission (.level (.literal (.text "public")))]

def permission : Value :=
  .object (.tuple [.tuple [.text "read", .level (.literal (.text "public"))]])

/-- A builder, a foreign thing and a node in collections of every kind, under keys of any kind. -/
def mixed : Value :=
  .list [.null, .tuple [.int 1, .builder .indexPermission 0 []],
    .dict [(.int 5, .foreign 1 (.literal (.text "x")) true),
      (.unknown 2, .view [(.null, .bare 3)])]]

def mixedBefore : Value :=
  .list [.null, .tuple [.int 1, permission],
    .dict [(.int 5, .foreign 1 (.literal (.text "x")) true),
      (.unknown 2, .object (.tuple [.tuple [.null, .bare 3]]))]]

/-- It has a form although a key has none, but in a list with a set it is refused. -/
theorem mixed_converts :
    permitting.Composed (fun _ => True) mixed ∧ permitting.Replaced mixed mixedBefore ∧
      (∃ node, permitting.expr mixed = .ok node ∧ node.WellFormed fun _ => True) ∧
      permitting.expr mixedBefore = permitting.expr mixed ∧
      ∃ part : Value, part.Formless ∧
        permitting.expr (.list [mixed, .set []]) = .error part.notConvertible := by
  have form : permission.WellFormed fun _ => True := by
    change WellFormed _
      (.object (.tuple ([(text "read", level (.literal (.text "public")))].map field)))
    exact .object (fun _ _ => trivial) (List.forall_mem_singleton.mpr (.level (.literal rfl)))
  have composed : permitting.Composed (fun _ => True) mixed := by
    refine .list ?_
    simp only [List.forall_mem_cons]
    refine ⟨.scalar rfl, .tuple ?_, .dict (fun _ _ => trivial) ?_, List.forall_mem_nil _⟩
    · simp only [List.forall_mem_cons]
      exact ⟨.scalar rfl, .formed rfl form, List.forall_mem_nil _⟩
    · simp only [List.forall_mem_cons]
      exact ⟨.formed rfl (.literal rfl), .view (fun _ _ => trivial)
        (List.forall_mem_singleton.mpr (.node (.bare 3))), List.forall_mem_nil _⟩
  have replaced : permitting.Replaced mixed mixedBefore :=
    .list (.cons (.kept _) (.cons (.tuple (.cons (.kept _) (.cons (.converted rfl) .nil)))
      (.cons (.dict (.cons _ (.kept _) (.cons _ (.converted rfl) .nil))) .nil)))
  have spoiled : permitting.Composed (fun _ => True) (.list [mixed, .set []]) := by
    refine .list ?_
    simp only [List.forall_mem_cons]
    exact ⟨composed, .formless trivial, List.forall_mem_nil _⟩
  obtain ⟨made, -, same, -⟩ := composed_converts permitting _ mixed composed
  obtain ⟨node, done, wellFormed, -⟩ := made (composed.decided.node _ rfl).2
  obtain ⟨-, refused, -⟩ := composed_converts permitting _ _ spoiled
  obtain ⟨part, -, formless, thrown⟩ :=
    refused ⟨.set [], .deeper (.tail _ (.head _)) .itself, trivial⟩
  exact ⟨composed, replaced, ⟨node, done, wellFormed⟩, same mixedBefore replaced, part, formless,
    thrown⟩

end Store
end QueryWire
