import QueryWire.Proofs.Expr.Serialize
import QueryWire.Proofs.Value.Frame

/-!
Putting a value on the wire has every habit of looking through values: the conversion ends in a node
or in a usual fault, its plain data are computed by loops over what its nodes hold, and a key that
is refused is shown. So a serialization changes nothing but how far one-shot sequences are read.
-/

namespace QueryWire

open Run (Habit)

namespace Conversion

variable {snapshot : Nat → Except Fault Value}

theorem record_tame (fields : List (Text × Value)) : Tame (record ⟨pure, snapshot⟩ fields) := by
  refine (Confined.mapM fields _ ?_).bind fun _ => .ok _
  rintro ⟨key, value⟩
  exact .ok _

theorem sourceField_tame (source : Value) : Tame (sourceField ⟨pure, snapshot⟩ source) := by
  cases source with
  | fieldSource path =>
    cases path with
    | tuple segments => exact (Confined.mapM segments _ fun _ => .ok _).bind fun _ => .ok _
    | _ => exact .error (.inr Fault.escapes_noAttribute)
  | bindingSource name => exact .ok _
  | _ => exact .error (.inr Fault.escapes_noAttribute)

def TameSnapshots (snapshot : Nat → Except Fault Value) : Prop := ∀ handle, Tame (snapshot handle)

theorem form_tame (snapshots : TameSnapshots snapshot) (value : Value) :
    Tame (form ⟨pure, snapshot⟩ value) := by
  cases value with
  | term own source => exact (sourceField_tame source).bind fun _ => record_tame _
  | builder kind handle around => exact snapshots handle
  | foreign own form callable =>
    cases callable with
    | true => exact .ok form
    | false => exact .error (.inl (Fault.reported_typeError _))
  | _ => exact .error (.inr Fault.escapes_noAttribute)

theorem formsField_tame (snapshots : TameSnapshots snapshot) (key : Text)
    (items : Option (List Value)) : Tame (formsField ⟨pure, snapshot⟩ key items) := by
  cases items with
  | none => exact .ok []
  | some items => exact (Confined.mapM items _ (form_tame snapshots)).bind fun _ => .ok _

theorem fieldUnlessNull_tame (key : Text) (convert : Value → Except Fault Value)
    (each : ∀ value, Tame (convert value)) (value : Value) :
    Tame (fieldUnlessNull key convert value) := by
  cases value with
  | null => exact .ok []
  | _ => exact (each _).map _

mutual

theorem expr_tame (snapshots : TameSnapshots snapshot) (value : Value) :
    Tame (expr ⟨pure, snapshot⟩ value) := by
  match value with
  | .null | .bool _ | .int _ | .float _ | .text _ | .foreign _ _ true | .bare _ | .literal _
  | .array _ | .object _ | .ref .. | .query .. | .level _ =>
    exact .ok _
  | .list items | .tuple items => exact (exprItems_tame snapshots items).bind fun _ => .ok _
  | .dict entries | .view entries => exact (exprFields_tame snapshots entries).bind fun _ => .ok _
  | .term own source => exact form_tame snapshots (.term own source)
  | .builder _ handle _ => exact snapshots handle
  | .foreign _ _ false | .set _ | .bytes _ | .duration _ | .url _ | .response _ | .errorDetail ..
  | .errors _ | .fieldSource _ | .bindingSource _ | .cursor .. | .unknown _ | .failure .. =>
    exact .error (.inl ⟨_, rfl⟩)

theorem exprItems_tame (snapshots : TameSnapshots snapshot) (items : List Value) :
    Tame (exprItems ⟨pure, snapshot⟩ items) := by
  match items with
  | [] => exact .ok []
  | item :: items =>
    exact (expr_tame snapshots item).bind fun _ => (exprItems_tame snapshots items).map _

theorem exprFields_tame (snapshots : TameSnapshots snapshot) (entries : List (Value × Value)) :
    Tame (exprFields ⟨pure, snapshot⟩ entries) := by
  match entries with
  | [] => exact .ok []
  | (key, value) :: entries =>
    refine (expr_tame snapshots value).bind fun _ => ?_
    exact Confined.bind (.ok _) fun _ => (exprFields_tame snapshots entries).map _

end

end Conversion

open Conversion (TameSnapshots)

section

variable {snapshot : Nat → Except Fault Value}

theorem Conversion.permitted_tame (snapshots : TameSnapshots snapshot) (permissions : Value)
    (data : Option Value) (fields : List (Text × Value)) :
    Tame (do
      let permissions ← fieldUnlessNull "permissions" (form ⟨pure, snapshot⟩) permissions
      record ⟨pure, snapshot⟩ (fields ++ permissions ++ optionalField "data" data)) :=
  (fieldUnlessNull_tame "permissions" _ (form_tame snapshots) permissions).bind fun _ =>
    record_tame _

theorem IndexParams.form_tame (snapshots : TameSnapshots snapshot) (params : IndexParams) :
    Tame (params.form ⟨pure, snapshot⟩) := by
  rw [IndexParams.form]
  refine Confined.bind (.ok _) fun name => ?_
  refine Confined.bind (.ok _) fun active => ?_
  refine Confined.bind (.ok _) fun unique => ?_
  refine Confined.bind (.ok _) fun serialized => ?_
  refine (Conversion.formsField_tame snapshots "terms" params.terms).bind fun terms => ?_
  refine (Conversion.formsField_tame snapshots "values" params.values).bind fun values => ?_
  cases params.partitions <;>
    exact Conversion.permitted_tame snapshots params.permissions params.data _

theorem ClassParams.form_tame (snapshots : TameSnapshots snapshot) (params : ClassParams) :
    Tame (params.form ⟨pure, snapshot⟩) := by
  have literals : ∀ value, Tame (Conversion.literal ⟨pure, snapshot⟩ value) := fun _ => .ok _
  rw [ClassParams.form]
  refine Confined.bind (.ok _) fun name => ?_
  refine (Conversion.fieldUnlessNull_tame "history_days" _ literals params.historyDays).bind
    fun history => ?_
  refine (Conversion.fieldUnlessNull_tame "ttl_days" _ literals params.ttlDays).bind fun ttl => ?_
  exact Conversion.permitted_tame snapshots params.permissions params.data _

theorem Builder.form_tame (snapshots : TameSnapshots snapshot) (builder : Builder) :
    Tame (builder.form ⟨pure, snapshot⟩) := by
  cases builder with
  | indexValue source reverse =>
    refine (Conversion.sourceField_tame source).bind fun field => ?_
    exact @Conversion.record_tame snapshot [field, ("reverse", .literal reverse)]
  | indexParams params => exact params.form_tame snapshots
  | classParams params => exact params.form_tame snapshots
  | indexPermission read =>
    cases read with
    | null => exact Conversion.record_tame []
    | _ => exact Conversion.record_tame _

end

namespace Store

variable (store : Store)

theorem snapshotWithin_tame (fuel : Nat) : TameSnapshots (store.snapshotWithin pure fuel) := by
  induction fuel with
  | zero => exact fun _ => .error (.inr Fault.escapes_tooDeep)
  | succ fuel ih =>
    intro handle
    rw [snapshotWithin]
    split
    next builder found => exact builder.form_tame ih
    next => exact .error (.inr Fault.escapes_noAttribute)

theorem expr_tame (value : Value) : Tame (store.expr value) :=
  Conversion.expr_tame (store.snapshotWithin_tame _) value

theorem snapshotWithin_identities (identities fuel : Nat) :
    { store with identities }.snapshotWithin (m := Except Fault) pure fuel =
      store.snapshotWithin pure fuel := by
  induction fuel with
  | zero => rfl
  | succ fuel ih =>
    funext handle
    rw [snapshotWithin, snapshotWithin, ih]

theorem expr_identities (identities : Nat) (value : Value) :
    { store with identities }.expr value = store.expr value := by
  rw [expr, expr, conversion, conversion, snapshotWithin_identities]

end Store

namespace Value

theorem displayInt_reported (n : Int) : Confined Fault.Reported (displayInt n) := by
  rw [displayInt]
  split
  · exact .ok _
  · exact .error (Fault.reported_valueError _)

theorem jsonKey_reported (key : Value) : Confined Fault.Reported (jsonKey key) := by
  cases key with
  | text _ | bool _ | null => exact .ok _
  | int key => exact displayInt_reported key
  | float key =>
    rw [jsonKey]
    split
    · exact .ok _
    · exact .error (Fault.reported_valueError _)
  | _ => exact .error (Fault.reported_typeError _)

mutual

theorem toJson_reported (value : Value) : Confined Fault.Reported (toJson value) := by
  match value with
  | .null | .bool _ | .text _ => exact .ok _
  | .int value =>
    rw [toJson]
    split
    · exact .ok _
    · exact .error (Fault.reported_valueError _)
  | .float value =>
    rw [toJson]
    split
    · exact .ok _
    · exact .error (Fault.reported_valueError _)
  | .list items | .tuple items => exact (toJsonItems_reported items).map _
  | .dict entries => exact (toJsonMembers_reported entries).map _
  | .bytes _ | .set _ | .view _ | .duration _ | .url _ | .bare _ | .literal _ | .array _ | .object _
  | .ref .. | .query .. | .level _ | .response _ | .errorDetail .. | .errors _ | .fieldSource _
  | .bindingSource _ | .term .. | .builder .. | .cursor .. | .foreign .. | .unknown _
  | .failure .. =>
    exact .error (Fault.reported_typeError _)

theorem toJsonItems_reported (items : List Value) :
    Confined Fault.Reported (toJsonItems items) := by
  match items with
  | [] => exact .ok []
  | item :: items => exact (toJson_reported item).bind fun _ => (toJsonItems_reported items).map _

theorem toJsonMembers_reported (entries : List (Value × Value)) :
    Confined Fault.Reported (toJsonMembers entries) := by
  match entries with
  | [] => exact .ok []
  | (key, value) :: entries =>
    refine (jsonKey_reported key).bind fun _ => ?_
    exact (toJson_reported value).bind fun _ => (toJsonMembers_reported entries).map _

end

theorem checkHashable_reported (value : Value) : Confined Fault.Reported value.checkHashable := by
  rw [checkHashable]
  split
  · exact .error (Fault.reported_typeError _)
  · exact .ok ()

theorem itemSteps_tame (keep : Value → Run Value) (value : Value) :
    Tame (itemSteps keep value) := by
  match value with
  | .errors details => exact itemSteps_tame keep details
  | .list _ | .tuple _ | .set _ | .dict _ | .view _ | .cursor .. | .text _ | .bytes _ =>
    exact .ok _
  | .null | .bool _ | .int _ | .float _ | .duration _ | .url _ | .bare _ | .literal _ | .array _
  | .object _ | .ref .. | .query .. | .level _ | .response _ | .errorDetail .. | .fieldSource _
  | .bindingSource _ | .term .. | .builder .. | .foreign .. | .unknown _ | .failure .. =>
    exact .error (.inl (Fault.reported_typeError _))

theorem fieldSteps_tame (keep : Value → Run Value) (value : Value) :
    Tame (fieldSteps keep value) := by
  match value with
  | .errors details => exact fieldSteps_tame keep details
  | .list _ | .tuple _ | .set _ | .dict _ | .view _ | .cursor .. | .text _ | .bytes _ =>
    exact .ok _
  | .null | .bool _ | .int _ | .float _ | .duration _ | .url _ | .bare _ | .literal _ | .array _
  | .object _ | .ref .. | .query .. | .level _ | .response _ | .errorDetail .. | .fieldSource _
  | .bindingSource _ | .term .. | .builder .. | .foreign .. | .unknown _ | .failure .. =>
    exact .error (.inl (Fault.reported_typeError _))

theorem usual_unpackFault (value : Value) (fault : Fault) (usual : fault.Usual) :
    (value.unpackFault fault).Usual := by
  cases value with
  | errors details => exact usual
  | _ => exact .inl (Fault.reported_typeError _)

end Value

namespace Run.Habit

variable (habit : Habit) {β : Type}

theorem pair {α : Type} (iteration : Iteration α) (next : α × α → Run β)
    (each : ∀ first ∈ iteration.items, ∀ second ∈ iteration.items,
      habit.Holds (next (first, second))) :
    habit.Holds (iteration.pair >>= next) := by
  have takes := iteration.take_holds habit
  have unpacks (count : Nat) : (Fault.tooFewToUnpack count).Usual :=
    .inl (Fault.reported_valueError _)
  rw [Iteration.pair, bind_assoc]
  refine habit.looks (fun _ _ => rfl) fun store => ?_
  have among := iteration.mem_of_mem_remaining store
  match left : iteration.remaining store with
  | [] => exact habit.stops (unpacks 0)
  | [first] =>
    rw [bind_assoc]
    exact habit.bind takes fun _ => habit.stops (unpacks 1)
  | [first, second] =>
    rw [left] at among
    simp only [bind_assoc, pure_bind]
    refine habit.bind takes fun _ => habit.bind takes fun _ => ?_
    exact each first (among first (.head _)) second (among second (.tail _ (.head _)))
  | _ :: _ :: _ :: _ =>
    simp only [bind_assoc]
    refine habit.bind takes fun _ => habit.bind takes fun _ => habit.bind takes fun _ => ?_
    exact habit.stops (.inl (Fault.reported_valueError _))

end Run.Habit

namespace Value

section

variable (habit : Habit)

def StepsHold (steps : List Step) : Prop := ∀ step ∈ steps, habit.Holds step.2

def PairStepsHold (items : List PairStep) : Prop :=
  ∀ item ∈ items, Tame item.2 ∧ ∀ iteration, item.2 = .ok iteration →
    StepsHold habit iteration.items

theorem checkKey_holds (seen : List (Text × Value)) (key : Value) :
    habit.Holds (checkKey seen key) := by
  have refuses (problem : Text) (key : Value) : habit.Holds (refuseKey problem key) :=
    habit.bind (key.display_holds habit) fun _ => habit.stops (.inl ⟨_, rfl⟩)
  cases key with
  | text content =>
    rw [checkKey]
    split
    · exact refuses _ _
    · exact habit.result content
  | _ => exact refuses _ _

theorem objectFields_holds (take : Run Unit) (takes : habit.Holds take)
    (seen : List (Text × Value)) (items : List PairStep) (each : PairStepsHold habit items) :
    habit.Holds (objectFields take seen items) := by
  induction items generalizing seen with
  | nil => exact habit.result seen
  | cons item items ih =>
    obtain ⟨⟨tame, steps⟩, rest⟩ := List.forall_mem_cons.mp each
    rw [objectFields]
    refine habit.bind takes fun _ => ?_
    rw [unpackStep]
    cases unpacked : item.2 with
    | error fault => exact habit.stops (usual_unpackFault item.1 fault (tame fault unpacked))
    | ok iteration =>
      rw [bind_assoc]
      refine habit.pair iteration _ fun key _ value member => ?_
      rw [pure_bind]
      refine habit.bind (checkKey_holds habit seen key.1) fun key => ?_
      refine habit.bind (steps iteration unpacked value member) fun plain => ?_
      exact ih (seen ++ [(key, plain)]) rest

mutual

/-- The plain data of a node are computed with every habit. -/
theorem tree_holds (value : Value) : habit.Holds (tree pure value) := by
  match value with
  | .literal value => exact habit.result value
  | .array items =>
    rw [tree]
    cases found : itemSteps pure items with
    | error fault => exact habit.stops (itemSteps_tame pure items fault found)
    | ok steps =>
      have each := itemSteps_hold items steps found
      rw [Run.lift_ok, pure_bind]
      exact habit.bind (steps.forEach_holds habit _ each) fun _ => habit.result _
  | .object fields =>
    rw [tree]
    cases found : fieldSteps pure fields with
    | error fault => exact habit.stops (fieldSteps_tame pure fields fault found)
    | ok steps =>
      have each := fieldSteps_hold fields steps found
      rw [Run.lift_ok, pure_bind]
      refine habit.looks (fun _ _ => rfl) fun store => ?_
      have left : PairStepsHold habit (steps.remaining store) :=
        fun item member => each item (steps.mem_of_mem_remaining store item member)
      refine habit.bind (objectFields_holds habit _ (steps.take_holds habit) [] _ left) fun _ => ?_
      exact habit.bind (habit.result _) fun _ => habit.result _
  | .ref id parent =>
    by_cases root : parent = .null
    · subst root
      exact habit.bind (habit.result _) fun _ => habit.result _
    · rw [tree_ref pure id parent root]
      refine habit.bind (tree_holds parent) fun _ => ?_
      exact habit.bind (habit.result _) fun _ => habit.result _
  | .query construct verb argument =>
    refine habit.bind (tree_holds argument) fun _ => ?_
    have tame : Tame verb.checkHashable := verb.checkHashable_reported.weaken fun _ => .inl
    exact habit.bind (habit.lift tame) fun _ => habit.result _
  | .level value => exact tree_holds value
  | .bare _ => exact habit.stops (.inr ⟨.notImplementedError, by decide, rfl⟩)
  | .null | .bool _ | .int _ | .float _ | .text _ | .bytes _ | .list _ | .tuple _ | .set _
  | .dict _ | .view _ | .duration _ | .url _ | .response _ | .errorDetail .. | .errors _
  | .fieldSource _ | .bindingSource _ | .term .. | .builder .. | .cursor .. | .foreign ..
  | .unknown _ | .failure .. =>
    exact habit.stops (.inr Fault.escapes_noAttribute)

theorem itemSteps_hold (value : Value) (iteration : Iteration Step)
    (found : itemSteps pure value = .ok iteration) : StepsHold habit iteration.items := by
  match value with
  | .list items | .tuple items | .set items | .cursor _ items =>
    cases found
    exact steps_hold items
  | .dict entries | .view entries =>
    cases found
    exact keySteps_hold entries
  | .errors details => exact itemSteps_hold details iteration found
  | .text _ | .bytes _ =>
    cases found
    intro step member
    obtain ⟨_, _, rfl⟩ := List.mem_map.mp member
    exact habit.stops (.inr Fault.escapes_noAttribute)
  | .null | .bool _ | .int _ | .float _ | .duration _ | .url _ | .bare _ | .literal _ | .array _
  | .object _ | .ref .. | .query .. | .level _ | .response _ | .errorDetail .. | .fieldSource _
  | .bindingSource _ | .term .. | .builder .. | .foreign .. | .unknown _ | .failure .. =>
    nomatch found

theorem steps_hold (items : List Value) : StepsHold habit (steps pure items) := by
  match items with
  | [] => nofun
  | item :: items => exact List.forall_mem_cons.mpr ⟨tree_holds item, steps_hold items⟩

theorem keySteps_hold (entries : List (Value × Value)) :
    StepsHold habit (keySteps pure entries) := by
  match entries with
  | [] => nofun
  | (key, value) :: entries =>
    exact List.forall_mem_cons.mpr ⟨tree_holds key, keySteps_hold entries⟩

theorem fieldSteps_hold (value : Value) (iteration : Iteration PairStep)
    (found : fieldSteps pure value = .ok iteration) : PairStepsHold habit iteration.items := by
  match value with
  | .list items | .tuple items | .set items | .cursor _ items =>
    cases found
    exact pairSteps_hold items
  | .dict entries | .view entries =>
    cases found
    exact keyPairSteps_hold entries
  | .errors details => exact fieldSteps_hold details iteration found
  | .text _ =>
    cases found
    intro item member
    obtain ⟨point, _, rfl⟩ := List.mem_map.mp member
    refine ⟨.ok _, ?_⟩
    rintro _ ⟨⟩
    exact List.forall_mem_singleton.mpr (habit.stops (.inr Fault.escapes_noAttribute))
  | .bytes _ =>
    cases found
    intro item member
    obtain ⟨octet, _, rfl⟩ := List.mem_map.mp member
    exact ⟨.error (.inl (Fault.reported_typeError _)), nofun⟩
  | .null | .bool _ | .int _ | .float _ | .duration _ | .url _ | .bare _ | .literal _ | .array _
  | .object _ | .ref .. | .query .. | .level _ | .response _ | .errorDetail .. | .fieldSource _
  | .bindingSource _ | .term .. | .builder .. | .foreign .. | .unknown _ | .failure .. =>
    nomatch found

theorem pairSteps_hold (items : List Value) : PairStepsHold habit (pairSteps pure items) := by
  match items with
  | [] => nofun
  | item :: items =>
    exact List.forall_mem_cons.mpr
      ⟨⟨itemSteps_tame pure item, itemSteps_hold item⟩, pairSteps_hold items⟩

theorem keyPairSteps_hold (entries : List (Value × Value)) :
    PairStepsHold habit (keyPairSteps pure entries) := by
  match entries with
  | [] => nofun
  | (key, value) :: entries =>
    exact List.forall_mem_cons.mpr
      ⟨⟨itemSteps_tame pure key, itemSteps_hold key⟩, keyPairSteps_hold entries⟩

end

end

theorem converted_holds (habit : Habit) (value : Value) :
    habit.Holds (do (← (← (get : Run Store)).expr value).written) := by
  refine habit.looks (fun store identities => ?_) fun store => ?_
  · rw [store.expr_identities identities value]
  · refine habit.bind (habit.lift (store.expr_tame value)) fun node => ?_
    refine habit.bind (tree_holds habit node) fun plain => ?_
    exact habit.map _ (habit.lift (plain.toJson_reported.weaken fun _ => .inl))

theorem serialize_still (value : Value) : Run.Still (serialize value) := by
  intro store
  have same : (serialize value).leaves store = Run.leaves _ store :=
    Run.leaves_report (do (← (← (get : Run Store)).expr value).written) store
  rw [same]
  exact value.converted_holds Run.still store

theorem serialize_blind (value : Value) (store : Store) (identities : Nat) :
    (serialize value).outcome { store with identities } = (serialize value).outcome store := by
  have reports (store : Store) : (serialize value).outcome store =
      (Run.outcome _ store).mapError serializationFault :=
    Run.outcome_report (do (← (← (get : Run Store)).expr value).written) store
  obtain ⟨same, -⟩ := value.converted_holds Run.blind store identities
  rw [reports, reports, same]

end Value

end QueryWire
