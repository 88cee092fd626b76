import QueryWire.Builder
import QueryWire.Proofs.Expr.Frame
import QueryWire.Proofs.Expr.Snapshot
import QueryWire.Proofs.Expr.Wire

/-!
How a serialization ends that gives no text. It ends in its own failure, or in a fault of three
kinds that it lets through: an attribute is missing, a form on the wire is missing, or builders
stand within one another without end. For a node that is settled it is known when: the first thing
that is wrong with it is a part that is no node or has no form, or a refused key cannot be shown.
-/

namespace QueryWire

namespace Fault

variable {fault : Fault}

theorem Escapes.unchanged (escapes : fault.Escapes) : serializationFault fault = fault := by
  obtain ⟨kind, among, same⟩ := escapes
  cases fault with
  | failure cause => rfl
  | refused found message | ambient found message =>
    cases same
    simp only [escapingKinds, List.mem_cons, List.not_mem_nil, or_false] at among
    rcases among with rfl | rfl | rfl <;> rfl

theorem not_escapes_serialization (message : Text) : ¬(serialization message).Escapes := by
  rintro ⟨kind, -, same⟩
  nomatch same

theorem Reported.not_escapes (reported : fault.Reported) : ¬fault.Escapes := by
  intro escapes
  obtain ⟨message, same⟩ := reported
  rw [escapes.unchanged] at same
  exact not_escapes_serialization message (same ▸ escapes)

theorem Usual.escapes_iff (usual : fault.Usual) :
    (serializationFault fault).Escapes ↔ fault.Escapes := by
  obtain reported | escapes := usual
  · obtain ⟨message, same⟩ := id reported
    rw [same]
    exact iff_of_false (not_escapes_serialization message) reported.not_escapes
  · rw [escapes.unchanged]

theorem Usual.reports (usual : fault.Usual) :
    (∃ message, serializationFault fault = serialization message) ∨
      (serializationFault fault).Escapes := by
  obtain reported | escapes := usual
  · exact .inl reported
  · rw [escapes.unchanged]
    exact .inr escapes

end Fault

namespace Run

def tame : Habit := ending Fault.Usual fun _ usual => usual

/-- In the empty store, changing nothing and failing only at an integer that is too long. -/
def lone : Trait where
  Holds run := run.leaves .empty = .empty ∧
    ∀ fault, run.outcome .empty = .error fault → fault = .tooManyDigits
  result _ := ⟨rfl, nofun⟩
  bind {_ _ run next} first others := by
    rw [leaves_bind, outcome_bind]
    cases done : run.outcome .empty with
    | error fault =>
      refine ⟨first.1, ?_⟩
      rintro _ ⟨⟩
      exact first.2 fault done
    | ok value =>
      dsimp only [Except.bind]
      rw [first.1]
      exact others value
  tooManyDigits := by
    refine ⟨rfl, ?_⟩
    rintro _ ⟨⟩
    rfl

theorem throw_injective {α : Type} {first second : Fault}
    (same : (throw first : Run α) = throw second) : first = second :=
  Except.error.inj (congrArg (outcome · .empty) same)

theorem raise_ne_throw {α : Type} (refusal : Refusal) {fault : Fault} (escapes : fault.Escapes) :
    (refusal.raise : Run α) ≠ throw fault := by
  intro same
  have outcomes := congrArg (outcome · .empty) same
  simp only [Refusal.raise, outcome_bind, outcome_throw] at outcomes
  -- Where there are no builders, showing the key cannot be what goes wrong in this way.
  have shows : lone.Holds refusal.key.display :=
    Value.displayWith_holds lone _ [] refusal.key (.inr fun _ _ _ => lone.result _)
  cases shown : refusal.key.display.outcome .empty with
  | ok content =>
    rw [shown] at outcomes
    cases outcomes
    exact Fault.not_escapes_serialization _ escapes
  | error cause =>
    rw [shown] at outcomes
    cases outcomes
    rw [shows.2 fault shown] at escapes
    exact Fault.Reported.not_escapes ⟨_, rfl⟩ escapes

theorem Fixed.throw_of_bind {α β : Type} {run : Run α} {next : α → Run β} {fault : Fault}
    (first : Fixed run) (escapes : fault.Escapes) (done : run >>= next = throw fault) :
    run = throw fault ∨ ∃ value, run = pure value ∧ next value = throw fault := by
  obtain ⟨value, rfl⟩ | ⟨cause, rfl⟩ | ⟨refused, rfl⟩ := first
  · rw [pure_bind] at done
    exact .inr ⟨value, rfl, done⟩
  · rw [throw_bind] at done
    rw [throw_injective done]
    exact .inl rfl
  · rw [refused.raise_bind] at done
    exact (raise_ne_throw refused escapes done).elim

end Run

open Run (Fixed)

namespace Value

def parts? : Value → Option (List Value)
  | .list items | .tuple items => some items
  | _ => none

mutual

/-- The first thing that is wrong with a node is a part that is no node, or one without a form on
the wire. All that comes before it has plain data. -/
inductive Stray : Value → Prop
  | alien (value : Value) : value.isNode = false → Stray value
  | bare (identity : Nat) : Stray (.bare identity)
  | array {held : Value} {items : List Value} :
    held.parts? = some items → StrayItem items → Stray (.array held)
  | object {held : Value} {fields : List Value} :
    held.parts? = some fields → StrayField [] fields → Stray (.object held)
  | parent (id : Value) {parent : Value} : parent ≠ .null → Stray parent → Stray (.ref id parent)
  | argument (construct : Construct) (verb : Value) {argument : Value} :
    Stray argument → Stray (.query construct verb argument)
  | level {value : Value} : Stray value → Stray (.level value)

inductive StrayItem : List Value → Prop
  | here {item : Value} (items : List Value) : Stray item → StrayItem (item :: items)
  | later {item plain : Value} {items : List Value} :
    tree pure item = pure plain → StrayItem items → StrayItem (item :: items)

inductive StrayField : List (Text × Value) → List Value → Prop
  | here {seen : List (Text × Value)} {field key value : Value} {name : Text}
    (fields : List Value) : field.parts? = some [key, value] → checkKey seen key = pure name →
      Stray value → StrayField seen (field :: fields)
  | later {seen : List (Text × Value)} {field key value plain : Value} {name : Text}
    {fields : List Value} : field.parts? = some [key, value] → checkKey seen key = pure name →
      tree pure value = pure plain → StrayField (seen ++ [(name, plain)]) fields →
      StrayField seen (field :: fields)

end

theorem tree_array {held : Value} {items : List Value} (parts : held.parts? = some items) :
    tree pure (.array held) = (do
      let plains ← (steps pure items).mapM (·.2)
      return .list plains) := by
  cases held with
  | list _ | tuple _ =>
    cases parts
    rfl
  | _ => nomatch parts

theorem tree_object {held : Value} {fields : List Value} (parts : held.parts? = some fields) :
    tree pure (.object held) = (do
      let members ← objectFields (pure ()) [] (pairSteps pure fields)
      return textDict [("object", textDict members)]) := by
  cases held with
  | list _ | tuple _ =>
    cases parts
    rfl
  | _ => nomatch parts

theorem objectFields_cons (seen : List (Text × Value)) {field key value : Value}
    (fields : List Value) (parts : field.parts? = some [key, value]) :
    objectFields (pure ()) seen (pairSteps pure (field :: fields)) = (do
      let name ← checkKey seen key
      let plain ← tree pure value
      objectFields (pure ()) (seen ++ [(name, plain)]) (pairSteps pure fields)) := by
  cases field with
  | list _ | tuple _ =>
    cases parts
    rw [pairSteps, itemSteps, objectFields, pure_bind, unpackStep_steps, pure_bind]
  | _ => nomatch parts

mutual

/-- A stray part ends the computation of the plain data, with a fault that is let through. -/
theorem Stray.thrown {value : Value} (stray : Stray value) :
    ∃ fault : Fault, fault.Escapes ∧ tree pure value = throw fault := by
  match stray with
  | .alien value other =>
    have missing : Fault.noAttribute.Escapes := ⟨.attributeError, by decide, rfl⟩
    cases value with
    | bare _ | literal _ | array _ | object _ | ref _ _ | query _ _ _ | level _ => nomatch other
    | _ => exact ⟨.noAttribute, missing, rfl⟩
  | .bare identity => exact ⟨_, ⟨.notImplementedError, by decide, rfl⟩, rfl⟩
  | .array parts inside =>
    obtain ⟨fault, escapes, thrown⟩ := inside.thrown
    refine ⟨fault, escapes, ?_⟩
    rw [tree_array parts, thrown, Run.throw_bind]
  | .object parts inside =>
    obtain ⟨fault, escapes, thrown⟩ := inside.thrown
    refine ⟨fault, escapes, ?_⟩
    rw [tree_object parts, thrown, Run.throw_bind]
  | .parent id below inside =>
    obtain ⟨fault, escapes, thrown⟩ := inside.thrown
    refine ⟨fault, escapes, ?_⟩
    rw [tree_ref pure id _ below, thrown, Run.throw_bind]
  | .argument construct verb inside =>
    obtain ⟨fault, escapes, thrown⟩ := inside.thrown
    refine ⟨fault, escapes, ?_⟩
    rw [tree, thrown, Run.throw_bind]
  | .level inside =>
    rw [tree]
    exact inside.thrown

theorem StrayItem.thrown {items : List Value} (stray : StrayItem items) :
    ∃ fault : Fault, fault.Escapes ∧ (steps pure items).mapM (·.2) = throw fault := by
  match stray with
  | .here items inside =>
    obtain ⟨fault, escapes, thrown⟩ := inside.thrown
    refine ⟨fault, escapes, ?_⟩
    rw [steps, List.mapM_cons, thrown, Run.throw_bind]
  | .later planned others =>
    obtain ⟨fault, escapes, thrown⟩ := others.thrown
    refine ⟨fault, escapes, ?_⟩
    rw [steps, List.mapM_cons, planned, pure_bind, thrown, Run.throw_bind]

theorem StrayField.thrown {seen : List (Text × Value)} {fields : List Value}
    (stray : StrayField seen fields) :
    ∃ fault : Fault, fault.Escapes ∧
      objectFields (pure ()) seen (pairSteps pure fields) = throw fault := by
  match stray with
  | .here fields parts accepted inside =>
    obtain ⟨fault, escapes, thrown⟩ := inside.thrown
    refine ⟨fault, escapes, ?_⟩
    rw [objectFields_cons seen fields parts, accepted, pure_bind, thrown, Run.throw_bind]
  | .later parts accepted planned others =>
    obtain ⟨fault, escapes, thrown⟩ := others.thrown
    refine ⟨fault, escapes, ?_⟩
    rw [objectFields_cons seen _ parts, accepted, pure_bind, planned, pure_bind, thrown]

end

theorem checkKey_not_throw (seen : List (Text × Value)) (key : Value) {fault : Fault}
    (escapes : fault.Escapes) : checkKey seen key ≠ throw fault := by
  cases key with
  | text content =>
    rw [checkKey]
    split
    · exact Run.raise_ne_throw ⟨"Duplicate object key: ", .text content⟩ escapes
    · exact fun same => Run.not_throw_eq_pure fault content same.symm
  | _ => exact Run.raise_ne_throw ⟨"Object key must be a string, got ", _⟩ escapes

variable {fault : Fault}

mutual

/-- Nothing else ends it in such a fault. -/
theorem stray_of_tree (escapes : fault.Escapes) (value : Value) (settled : value.Settled)
    (done : tree pure value = throw fault) : Stray value := by
  match value with
  | .literal value => exact (Run.not_throw_eq_pure fault value done.symm).elim
  | .array (.list items) | .array (.tuple items) =>
    obtain thrown | ⟨plains, -, last⟩ := (mapM_fixed items settled).throw_of_bind escapes done
    · exact .array rfl (stray_of_mapM escapes items settled thrown)
    · exact (Run.not_throw_eq_pure fault _ last.symm).elim
  | .object (.list fields) | .object (.tuple fields) =>
    obtain thrown | ⟨members, -, last⟩ :=
      (objectFields_fixed [] fields settled).throw_of_bind escapes done
    · exact .object rfl (stray_of_objectFields escapes [] fields settled thrown)
    · exact (Run.not_throw_eq_pure fault _ last.symm).elim
  | .ref id parent =>
    by_cases root : parent = .null
    · subst root
      exact (Run.not_throw_eq_pure fault _ done.symm).elim
    · rw [tree_ref pure id parent root] at done
      obtain thrown | ⟨plain, -, last⟩ := (tree_fixed parent settled).throw_of_bind escapes done
      · exact .parent id root (stray_of_tree escapes parent settled thrown)
      · exact (Run.not_throw_eq_pure fault _ last.symm).elim
  | .query construct verb argument =>
    obtain thrown | ⟨plain, -, last⟩ := (tree_fixed argument settled).throw_of_bind escapes done
    · exact .argument construct verb (stray_of_tree escapes argument settled thrown)
    · cases hashed : verb.checkHashable with
      | error cause =>
        rw [hashed] at last
        have same : cause = fault := Run.throw_injective last
        exact ((same ▸ verb.checkHashable_reported cause hashed).not_escapes escapes).elim
      | ok _ =>
        rw [hashed] at last
        exact (Run.not_throw_eq_pure fault _ last.symm).elim
  | .level value => exact .level (stray_of_tree escapes value settled done)
  | .bare identity => exact .bare identity
  | .null | .bool _ | .int _ | .float _ | .text _ | .bytes _ | .list _ | .tuple _ | .set _
  | .dict _ | .view _ | .duration _ | .url _ | .response _ | .errorDetail .. | .errors _
  | .fieldSource _ | .bindingSource _ | .term .. | .builder .. | .cursor .. | .foreign ..
  | .unknown _ | .failure .. =>
    exact .alien _ rfl

theorem stray_of_mapM (escapes : fault.Escapes) (items : List Value) (settled : SettledItems items)
    (done : (steps pure items).mapM (·.2) = throw fault) : StrayItem items := by
  match items with
  | [] => exact (Run.not_throw_eq_pure fault [] done.symm).elim
  | item :: items =>
    rw [steps, List.mapM_cons] at done
    obtain thrown | ⟨plain, planned, done⟩ := (tree_fixed item settled.1).throw_of_bind escapes done
    · exact .here items (stray_of_tree escapes item settled.1 thrown)
    · obtain thrown | ⟨plains, -, last⟩ := (mapM_fixed items settled.2).throw_of_bind escapes done
      · exact .later planned (stray_of_mapM escapes items settled.2 thrown)
      · exact (Run.not_throw_eq_pure fault _ last.symm).elim

theorem stray_of_objectFields (escapes : fault.Escapes) (seen : List (Text × Value))
    (fields : List Value) (held : HeldItems fields)
    (done : objectFields (pure ()) seen (pairSteps pure fields) = throw fault) :
    StrayField seen fields := by
  match fields with
  | [] => exact (Run.not_throw_eq_pure fault seen done.symm).elim
  | .list [key, value] :: fields | .tuple [key, value] :: fields =>
    rw [objectFields_cons seen fields rfl] at done
    obtain thrown | ⟨name, accepted, done⟩ := (checkKey_fixed seen key).throw_of_bind escapes done
    · exact (checkKey_not_throw seen key escapes thrown).elim
    obtain thrown | ⟨plain, planned, done⟩ :=
      (tree_fixed value held.1.2.1).throw_of_bind escapes done
    · exact .here fields rfl accepted (stray_of_tree escapes value held.1.2.1 thrown)
    · exact .later rfl accepted planned
        (stray_of_objectFields escapes (seen ++ [(name, plain)]) fields held.2 done)
  | .list [] :: _ | .list [_] :: _ | .list (_ :: _ :: _ :: _) :: _ | .tuple [] :: _
  | .tuple [_] :: _ | .tuple (_ :: _ :: _ :: _) :: _ =>
    rw [← Run.throw_injective done] at escapes
    exact (Fault.Reported.not_escapes ⟨_, rfl⟩ escapes).elim

end

def EscapesIn (value : Value) (store : Store) : Prop :=
  ∃ fault, (serialize value).outcome store = .error fault ∧ fault.Escapes

theorem converted_tame (value : Value) (store : Store) :
    Tame ((store.expr value).bind fun node => node.written.outcome store) := by
  have ends := value.converted_holds Run.tame store
  rw [Run.outcome_bind] at ends
  change Tame (Run.outcome (liftM (store.expr value) >>= written) store) at ends
  rw [Run.outcome_bind] at ends
  cases converted : store.expr value <;> rwa [converted] at ends

theorem escapesIn_iff (value : Value) (store : Store) :
    value.EscapesIn store ↔ ∃ fault : Fault, fault.Escapes ∧
      ((store.expr value).bind fun node => node.written.outcome store) = .error fault := by
  have tame := value.converted_tame store
  rw [EscapesIn, outcome_serialize]
  cases ended : (store.expr value).bind fun node => node.written.outcome store with
  | ok content =>
    constructor
    · rintro ⟨_, ⟨⟩, -⟩
    · rintro ⟨_, -, ⟨⟩⟩
  | error cause =>
    have same := (tame cause ended).escapes_iff
    constructor
    · rintro ⟨_, ⟨⟩, escapes⟩
      exact ⟨cause, same.mp escapes, rfl⟩
    · rintro ⟨_, escapes, ⟨⟩⟩
      exact ⟨_, rfl, same.mpr escapes⟩

/-- The writing of a settled node ends so exactly if the node is stray, or a key that it refuses
cannot be shown. -/
theorem written_escapes_iff (node : Value) (settled : node.Settled) (store : Store) :
    (∃ fault : Fault, fault.Escapes ∧ node.written.outcome store = .error fault) ↔
      node.Stray ∨ ∃ refusal : Refusal, node.tree pure = refusal.raise ∧ ¬refusal.Shown store := by
  constructor
  · rintro ⟨fault, escapes, ended⟩
    obtain ⟨plain, planned⟩ | ⟨cause, planned⟩ | ⟨refusal, planned⟩ := tree_fixed node settled
    · rw [written, planned, pure_bind] at ended
      cases rendered : plain.toJson with
      | ok json =>
        rw [rendered] at ended
        cases ended
      | error cause =>
        rw [rendered] at ended
        cases ended
        exact ((plain.toJson_reported _ rendered).not_escapes escapes).elim
    · rw [written, planned, Run.throw_bind] at ended
      cases ended
      exact .inl (stray_of_tree escapes node settled planned)
    · refine .inr ⟨refusal, planned, fun shown => ?_⟩
      rw [written, planned, refusal.raise_bind, refusal.outcome_raise] at ended
      cases display : refusal.key.display.outcome store with
      | ok content =>
        rw [display] at ended
        cases ended
        exact Fault.not_escapes_serialization _ escapes
      | error cause =>
        rw [display] at ended
        cases ended
        exact (shown _ display).not_escapes escapes
  · rintro (stray | ⟨refusal, planned, hidden⟩)
    · obtain ⟨fault, escapes, thrown⟩ := stray.thrown
      refine ⟨fault, escapes, ?_⟩
      rw [written, thrown, Run.throw_bind]
      rfl
    · obtain ⟨fault, failed, unreported⟩ : ∃ fault, refusal.key.display.outcome store =
          .error fault ∧ ¬fault.Reported := by
        simpa only [Refusal.Shown, not_forall, exists_prop] using hidden
      -- What keeps the key from being shown is a usual fault all the same.
      have usual := refusal.key.display_holds Run.tame store fault failed
      refine ⟨fault, usual.resolve_left unreported, ?_⟩
      rw [written, planned, refusal.raise_bind, refusal.outcome_raise, failed]

end Value

theorem Store.expr_settled (store : Store) (kept : store.Settled) (value node : Value)
    (settled : value.Settled) (converted : store.expr value = .ok node) : node.Settled := by
  have mirrors :=
    Conversion.expr_mirrors (store.snapshots kept store.builders.length) value settled
  obtain ⟨-, ⟨made, plain, -, same, like⟩ | ⟨fault, -, same⟩⟩ := mirrors store
  · rw [expr, conversion, same] at converted
    exact Except.ok.inj converted ▸ like.plain_good
  · rw [expr, conversion, same] at converted
    cases converted

namespace Value

/-- However a serialization ends, it is with a text, with its own failure, or with a fault that it
lets through. Where nothing holds a one-shot sequence in a node, the last of these is so exactly if
the conversion fails like that, or makes a node that is stray, or one with a key that is refused and
cannot be shown. -/
theorem serialize_ends (value : Value) (store : Store) :
    ((∃ content, (serialize value).outcome store = .ok content) ∨
      (∃ message, (serialize value).outcome store = .error (.serialization message)) ∨
      value.EscapesIn store) ∧
    (store.Settled → value.Settled →
      (value.EscapesIn store ↔
        (∃ fault : Fault, fault.Escapes ∧ store.expr value = .error fault) ∨
        ∃ node, store.expr value = .ok node ∧ (node.Stray ∨
          ∃ refusal : Refusal, node.tree pure = refusal.raise ∧ ¬refusal.Shown store))) := by
  constructor
  · have tame := value.converted_tame store
    rw [EscapesIn, outcome_serialize]
    cases ended : (store.expr value).bind fun node => node.written.outcome store with
    | ok content => exact .inl ⟨content, rfl⟩
    | error cause =>
      obtain ⟨message, reported⟩ | escapes := (tame cause ended).reports
      · exact .inr (.inl ⟨message, congrArg _ reported⟩)
      · exact .inr (.inr ⟨_, rfl, escapes⟩)
  · intro kept settled
    rw [escapesIn_iff]
    cases converted : store.expr value with
    | error cause =>
      constructor
      · rintro ⟨_, escapes, ⟨⟩⟩
        exact .inl ⟨cause, escapes, rfl⟩
      · rintro (⟨_, escapes, ⟨⟩⟩ | ⟨node, made, -⟩)
        · exact ⟨cause, escapes, rfl⟩
        · nomatch made
    | ok node =>
      have inside := store.expr_settled kept value node settled converted
      rw [Except.bind, node.written_escapes_iff inside store]
      constructor
      · exact fun stops => .inr ⟨node, rfl, stops⟩
      · rintro (⟨fault, -, stopped⟩ | ⟨_, ⟨⟩, stops⟩)
        · nomatch stopped
        · exact stops

def mislabeled : Run Value := do
  let permission ← Run.newIndexPermission
  Run.adjust 0 .read (.text "public")
  return permission

/-- Its form has the text for a node, so its serialization ends in a fault that it lets through. -/
theorem serialize_ends_mislabeled :
    (mislabeled.leaves .empty).Settled ∧
      (Value.builder .indexPermission 0 []).EscapesIn (mislabeled.leaves .empty) := by
  have kept : (mislabeled.leaves .empty).Settled := by
    intro builder member
    rw [List.mem_singleton.mp member]
    trivial
  obtain ⟨-, escapes⟩ :=
    serialize_ends (.builder .indexPermission 0 []) (mislabeled.leaves .empty)
  have stray : (Value.object (.tuple [.tuple [.text "read", .text "public"]])).Stray :=
    .object rfl (.here [] rfl rfl (.alien (.text "public") rfl))
  exact ⟨kept, (escapes kept trivial).mpr (.inr ⟨_, rfl, .inl stray⟩)⟩

/-- It is no failure of the serialization. -/
theorem mislabeled_lets_through :
    Run.outcome (do serialize (← mislabeled)) .empty = .error .noAttribute ∧
      ∀ message, Fault.noAttribute ≠ .serialization message :=
  ⟨rfl, nofun⟩

end Value

end QueryWire
