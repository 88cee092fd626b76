import QueryWire.Proofs.Expr.Conversion

/-!
Snapshots of builders, and all that is made through them. What a program gets is settled, and it is
what the wire gets where no builder is in it.
-/

namespace QueryWire

open Value Conversion
open Run (Mirrors)

section

variable {snapshot : Nat → Run Value} {verdict : Nat → Except Fault Value}

theorem Conversion.permitted_mirrors (snapshots : Snapshots snapshot verdict)
    (permissions : Value) (permitted : permissions.Settled) (data : Option Value)
    (settled : ∀ found, data = some found → found.Settled) {made plain : List (Text × Value)}
    (alike : List.Forall₂ FieldLike made plain) :
    Mirrors (Like Settled)
      (do
        let permissions ←
          fieldUnlessNull "permissions" (form ⟨Run.enclose, snapshot⟩) permissions
        record ⟨Run.enclose, snapshot⟩ (made ++ permissions ++ optionalField "data" data))
      (do
        let permissions ← fieldUnlessNull "permissions" (form ⟨pure, verdict⟩) permissions
        record ⟨pure, verdict⟩ (plain ++ permissions ++ optionalField "data" data)) := by
  have formed := form_mirrors snapshots permissions permitted
  apply (fieldUnlessNull_mirrors "permissions" permissions formed).bind
  intro _ _ permissions
  exact record_mirrors
    (List.rel_append (List.rel_append alike permissions) (fieldLike_optional "data" data settled))

theorem IndexParams.form_mirrors (snapshots : Snapshots snapshot verdict) (params : IndexParams)
    (settled : params.Settled) :
    Mirrors (Like Value.Settled) (params.form ⟨Run.enclose, snapshot⟩)
      (params.form ⟨pure, verdict⟩) := by
  rw [IndexParams.form, IndexParams.form]
  apply (literalField_mirrors "name" params.name).bind
  intro _ _ name
  apply (literalField_mirrors "active" params.active).bind
  intro _ _ active
  apply (literalField_mirrors "unique" params.unique).bind
  intro _ _ unique
  apply (literalField_mirrors "serialized" params.serialized).bind
  intro _ _ serialized
  apply (formsField_mirrors snapshots "terms" params.terms settled.terms).bind
  intro _ _ terms
  apply (formsField_mirrors snapshots "values" params.values settled.values).bind
  intro _ _ values
  have source : FieldLike ("source", params.source) ("source", params.source) :=
    ⟨rfl, .itself settled.source⟩
  have always := List.Forall₂.cons name (.cons source (.cons active (.cons unique
    (.cons serialized .nil))))
  have listed := List.rel_append (List.rel_append always terms) values
  have rest := fun {made plain} (partitions : List.Forall₂ FieldLike made plain) =>
    permitted_mirrors snapshots params.permissions settled.permissions params.data settled.data
      (List.rel_append listed partitions)
  cases params.partitions with
  | none => exact rest .nil
  | some count =>
    exact (literalField_mirrors "partitions" (.int count)).bind fun _ _ partitions =>
      rest (.cons partitions .nil)

theorem ClassParams.form_mirrors (snapshots : Snapshots snapshot verdict) (params : ClassParams)
    (settled : params.Settled) :
    Mirrors (Like Value.Settled) (params.form ⟨Run.enclose, snapshot⟩)
      (params.form ⟨pure, verdict⟩) := by
  have history := fieldUnlessNull_mirrors "history_days" params.historyDays
    (@literal_mirrors snapshot verdict params.historyDays)
  have ttl := fieldUnlessNull_mirrors "ttl_days" params.ttlDays
    (@literal_mirrors snapshot verdict params.ttlDays)
  rw [ClassParams.form, ClassParams.form]
  apply (literalField_mirrors "name" params.name).bind
  intro _ _ name
  apply history.bind
  intro _ _ history
  apply ttl.bind
  intro _ _ ttl
  exact permitted_mirrors snapshots params.permissions settled.permissions params.data settled.data
    (List.rel_append (.cons name history) ttl)

theorem Builder.form_mirrors (snapshots : Snapshots snapshot verdict) (builder : Builder)
    (settled : builder.Settled) :
    Mirrors (Like Value.Settled) (builder.form ⟨Run.enclose, snapshot⟩)
      (builder.form ⟨pure, verdict⟩) := by
  cases builder with
  | indexValue source reverse =>
    apply (sourceField_mirrors source).bind
    intro _ _ field
    apply (literalField_mirrors "reverse" reverse).bind
    intro _ _ reverse
    exact record_mirrors (.cons field (.cons reverse .nil))
  | indexParams params => exact params.form_mirrors snapshots settled
  | classParams params => exact params.form_mirrors snapshots settled
  | indexPermission read =>
    cases read with
    | null => exact record_mirrors .nil
    | _ => exact record_mirrors (.cons ⟨rfl, .itself settled⟩ .nil)

/-- The ways to get a node: conversion, and the function calls that have a verb of their own. -/
inductive Making where
  | convert (value : Value)
  | createIndex (params : Value)
  | createClass (params : Value)
  | createDatabase (name apiVersion data : Value)
  | get (reference : Value)
  | delete (reference : Value)

namespace Making

def through {m : Type → Type} [Monad m] [MonadExcept Fault m] (conversion : Conversion m) :
    Making → m Value
  | .convert value => conversion.expr value
  | .createIndex params => Construct.newIndex conversion params
  | .createClass params => Construct.newClass conversion params
  | .createDatabase name apiVersion data =>
    Construct.newDatabase conversion name apiVersion data
  | .get reference => Construct.newGet conversion reference
  | .delete reference => Construct.newDelete conversion reference

def Settled : Making → Prop
  | .convert value | .createIndex value | .createClass value | .get value | .delete value =>
    value.Settled
  | .createDatabase name apiVersion data => name.Settled ∧ apiVersion.Settled ∧ data.Settled

theorem call_mirrors (construct : Construct) {made plain : Value}
    (like : Like Value.Settled made plain) :
    Mirrors (Like Value.Settled) (construct.call ⟨Run.enclose, snapshot⟩ made)
      (construct.call ⟨pure, verdict⟩ plain) :=
  enclose_mirrors settled_stable (like.query construct construct.verb)

theorem through_mirrors (snapshots : Snapshots snapshot verdict) (making : Making)
    (settled : making.Settled) :
    Mirrors (Like Value.Settled) (making.through ⟨Run.enclose, snapshot⟩)
      (making.through ⟨pure, verdict⟩) := by
  cases making with
  | convert value => exact expr_mirrors snapshots value settled
  | createIndex value | createClass value =>
    exact (form_mirrors snapshots value settled).bind fun _ _ => call_mirrors _
  | get value | delete value =>
    exact (expr_mirrors snapshots value settled).bind fun _ _ => call_mirrors _
  | createDatabase name apiVersion data =>
    have mapped := mapping_mirrors snapshots data settled.2.2
    have versioned := expr_mirrors snapshots apiVersion settled.2.1
    apply (fieldUnlessNull_mirrors "data" data mapped).bind
    intro _ _ data
    apply (expr_mirrors snapshots name settled.1).bind
    intro made plain name
    apply (fieldUnlessNull_mirrors "api_version" apiVersion versioned).bind
    intro _ _ version
    have named : FieldLike ("name", made) ("name", plain) := ⟨rfl, name⟩
    have fields := List.rel_append (.cons named version) data
    exact (record_mirrors fields).bind fun _ _ => call_mirrors _

end Making

end

/-- Snapshots from a settled store are alike, however many builders are within one another. -/
theorem Store.snapshots (store : Store) (settled : store.Settled) (fuel : Nat) :
    Snapshots (store.snapshotWithin Run.enclose fuel) (store.snapshotWithin pure fuel) := by
  induction fuel with
  | zero => exact fun _ => .fault _
  | succ fuel ih =>
    intro handle
    rw [snapshotWithin, snapshotWithin]
    cases found : store.builders[handle]? with
    | none => exact .fault _
    | some builder =>
      exact builder.form_mirrors ih (settled builder (List.mem_of_getElem? found))

end QueryWire
