import QueryWire.Builder
import QueryWire.Proofs.Expr.Snapshot

/-!
Setters and the other acts of a program, and what they preserve: the builders in the store never
hold a node that changes when it is read.
-/

namespace QueryWire

open Value (collect_yields display_still)
open Run (Yields YieldsIn Still)

theorem userData_yields (argument : Value) (settled : argument.Settled) (store : Store)
    (kept : store.Settled) : YieldsIn store Value.Settled (userData argument) := by
  have mapped : Yields Value.Settled ((store.conversion Run.enclose).mapping argument) :=
    (Conversion.mapping_mirrors (store.snapshots kept _) argument settled).yields
      fun _ _ like => like.made_good
  cases argument with
  | object fields => exact Yields.result _ settled store
  | _ => exact mapped store

theorem checkPartitions_still (argument : Value) : Still (checkPartitions argument) := by
  cases argument with
  | int count =>
    rw [checkPartitions]
    split
    · exact .result _
    · exact (Still.lift _).bind fun _ => .fault _
  | _ => exact (display_still _).bind fun _ => .fault _

theorem IndexParams.set_yields (params : IndexParams) (settled : params.Settled) (argument : Value)
    (given : argument.Settled) (setter : Setter) (store : Store) (kept : store.Settled) :
    YieldsIn store IndexParams.Settled (params.set argument setter) := by
  obtain ⟨source, terms, values, permissions, data⟩ := settled
  cases setter with
  | active | unique | serialized =>
    exact Yields.result _ ⟨source, terms, values, permissions, data⟩ store
  | terms =>
    refine (collect_yields argument given store).bind fun items each => Yields.result _ ?_ _
    refine ⟨source, ?_, values, permissions, data⟩
    rintro _ ⟨⟩
    exact each
  | values =>
    refine (collect_yields argument given store).bind fun items each => Yields.result _ ?_ _
    refine ⟨source, terms, ?_, permissions, data⟩
    rintro _ ⟨⟩
    exact each
  | partitions =>
    exact ((checkPartitions_still argument).spares store).bind fun _ _ =>
      Yields.result _ ⟨source, terms, values, permissions, data⟩ _
  | permissions => exact Yields.result _ ⟨source, terms, values, given, data⟩ store
  | data =>
    refine (userData_yields argument given store kept).bind fun _ holds => Yields.result _ ?_ _
    refine ⟨source, terms, values, permissions, ?_⟩
    rintro _ ⟨⟩
    exact holds
  | _ => exact Yields.fault _ store

theorem ClassParams.set_yields (params : ClassParams) (settled : params.Settled) (argument : Value)
    (given : argument.Settled) (setter : Setter) (store : Store) (kept : store.Settled) :
    YieldsIn store ClassParams.Settled (params.set argument setter) := by
  obtain ⟨permissions, data⟩ := settled
  cases setter with
  | historyDays | ttlDays => exact Yields.result _ ⟨permissions, data⟩ store
  | permissions => exact Yields.result _ ⟨given, data⟩ store
  | data =>
    refine (userData_yields argument given store kept).bind fun _ holds => Yields.result _ ?_ _
    refine ⟨permissions, ?_⟩
    rintro _ ⟨⟩
    exact holds
  | _ => exact Yields.fault _ store

theorem Builder.set_yields (builder : Builder) (settled : builder.Settled) (argument : Value)
    (given : argument.Settled) (setter : Setter) (store : Store) (kept : store.Settled) :
    YieldsIn store Builder.Settled (builder.set argument setter) := by
  cases builder with
  | indexParams params =>
    rw [Builder.set, map_eq_pure_bind]
    exact (params.set_yields settled argument given setter store kept).bind fun params holds =>
      Yields.result (Builder.indexParams params) holds _
  | classParams params =>
    rw [Builder.set, map_eq_pure_bind]
    exact (params.set_yields settled argument given setter store kept).bind fun params holds =>
      Yields.result (Builder.classParams params) holds _
  | indexValue source reverse =>
    cases setter with
    | reverse => exact Yields.result _ trivial store
    | _ => exact Yields.fault _ store
  | indexPermission read =>
    cases setter with
    | read => exact Yields.result (Builder.indexPermission argument) given store
    | _ => exact Yields.fault _ store

namespace Run

theorem run_builderAt (handle : Nat) (store : Store) :
    ExceptT.run (builderAt handle) store =
      ExceptT.run (match store.builders[handle]? with
        | some builder => pure builder
        | none => throw .noAttribute : Run Builder) store :=
  rfl

theorem run_newIndexParams (name source : Value) (store : Store) :
    ExceptT.run (newIndexParams name source) store =
      ExceptT.run ((store.conversion enclose).expr source >>= fun source =>
        allocate (.indexParams { name, source })) store :=
  rfl

theorem builderAt_yields (handle : Nat) (store : Store) (kept : store.Settled) :
    YieldsIn store Builder.Settled (builderAt handle) := by
  rw [YieldsIn, leaves, outcome, run_builderAt]
  cases found : store.builders[handle]? with
  | none =>
    refine ⟨rfl, ?_⟩
    intro _ done
    cases done
  | some builder =>
    refine ⟨rfl, ?_⟩
    rintro _ ⟨⟩
    exact kept builder (List.mem_of_getElem? found)

theorem settled_of_same (store after : Store) (kept : store.Settled)
    (same : after.builders = store.builders) : after.Settled := by
  rw [Store.Settled, same]
  exact kept

theorem allocate_settled (builder : Builder) (settled : builder.Settled) (store : Store)
    (kept : store.Settled) : ((allocate builder).leaves store).Settled :=
  List.forall_mem_append.mpr ⟨kept, List.forall_mem_singleton.mpr settled⟩

theorem adjust_settled (handle : Nat) (setter : Setter) (argument : Value)
    (given : argument.Settled) (store : Store) (kept : store.Settled) :
    ((adjust handle setter argument).leaves store).Settled := by
  have changed : YieldsIn store Builder.Settled
      (do (← builderAt handle).set argument setter) := by
    have found := builderAt_yields handle store kept
    exact found.bind fun builder settled =>
      builder.set_yields settled argument given setter _ (settled_of_same store _ kept found.1)
  have shape : adjust handle setter argument =
      (do (← builderAt handle).set argument setter) >>= setBuilder handle := by
    rw [adjust, bind_assoc]
  rw [shape, leaves_bind]
  have after := settled_of_same store _ kept changed.1
  cases done : outcome (do (← builderAt handle).set argument setter) store with
  | error fault => exact after
  | ok builder =>
    intro found member
    rcases List.mem_or_eq_of_mem_set member with old | rfl
    · exact after found old
    · exact changed.2 found done

end Run

end QueryWire
