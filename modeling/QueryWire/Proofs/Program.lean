import QueryWire.Proofs.Builder
import QueryWire.Proofs.Expr.Serialize

/-!
Programs that make builders, share and change them, and make a node from them at some point. What
the node is serialized to later is what it was serialized to at first, whatever happens to builders
in between, but for one leak: a refused key is shown in the message of the failure, and where there
is a builder in it, showing it may end in another fault once that builder is changed.
-/

namespace QueryWire

open Value (Like)
open Run (MirrorsIn Spares Yields)

namespace Making

def run (making : Making) : Run Value := do making.through (← Run.conversion)

/-- A node is made as it would be on the wire, up to identities, and no builder changes by it. -/
theorem run_mirrors (making : Making) (settled : making.Settled) (store : Store)
    (kept : store.Settled) :
    MirrorsIn store (Like Value.Settled) making.run (making.through (store.conversion pure)) :=
  making.through_mirrors (store.snapshots kept store.builders.length) settled store

end Making

/-- What a program does step by step. An act that fails leaves the changes it made before that. -/
inductive Act where
  | term (source : Value)
  | indexValue (source : Value)
  | indexPermission
  | indexParams (name source : Value)
  | classParams (name : Value)
  /-- Calls a setter on the builder with a handle. -/
  | set (handle : Nat) (setter : Setter) (argument : Value)
  | make (making : Making)
  /-- Anything else: making, reading and showing other values. -/
  | other (run : Run Unit)

namespace Act

def after (store : Store) : Act → Store
  | .term source => (Run.newTerm source).leaves store
  | .indexValue source => (Run.newIndexValue source).leaves store
  | .indexPermission => Run.newIndexPermission.leaves store
  | .indexParams name source => (Run.newIndexParams name source).leaves store
  | .classParams name => (Run.newClassParams name).leaves store
  | .set handle setter argument => (Run.adjust handle setter argument).leaves store
  | .make making => making.run.leaves store
  | .other run => run.leaves store

/-- Nodes are given tuples or lists only, and what is not about builders leaves them alone. -/
def Settled : Act → Prop
  | .indexParams _ source => source.Settled
  | .set _ _ argument => argument.Settled
  | .make making => making.Settled
  | .other run => Spares run
  | .term _ | .indexValue _ | .indexPermission | .classParams _ => True

theorem newIndexParams_settled (name source : Value) (given : source.Settled) (store : Store)
    (kept : store.Settled) : ((Run.newIndexParams name source).leaves store).Settled := by
  have converted : Yields Value.Settled ((store.conversion Run.enclose).expr source) :=
    (Conversion.expr_mirrors (store.snapshots kept _) source given).yields
      fun _ _ like => like.made_good
  obtain ⟨same, results⟩ := converted store
  have later := Run.settled_of_same store _ kept same
  rw [Run.leaves, Run.run_newIndexParams, ← Run.leaves, Run.leaves_bind]
  cases done : ((store.conversion Run.enclose).expr source).outcome store with
  | error fault => exact later
  | ok source =>
    have settled := IndexParams.new_settled name source (results source done)
    exact Run.allocate_settled (.indexParams _) settled _ later

theorem after_settled (act : Act) (settled : act.Settled) (store : Store) (kept : store.Settled) :
    (act.after store).Settled := by
  cases act with
  | term source => exact kept
  | indexValue source => exact Run.allocate_settled (.indexValue source _) trivial store kept
  | indexPermission => exact Run.allocate_settled (.indexPermission .null) trivial store kept
  | indexParams name source => exact newIndexParams_settled name source settled store kept
  | classParams name =>
    exact Run.allocate_settled (.classParams _) (ClassParams.new_settled name) store kept
  | set handle setter argument =>
    exact Run.adjust_settled handle setter argument settled store kept
  | make making =>
    exact Run.settled_of_same store _ kept (making.run_mirrors settled store kept).1
  | other run => exact Run.settled_of_same store _ kept (settled store).1

theorem foldl_settled (acts : List Act) (settled : ∀ act ∈ acts, act.Settled) (store : Store)
    (kept : store.Settled) : (acts.foldl after store).Settled := by
  induction acts generalizing store with
  | nil => exact kept
  | cons act acts ih =>
    obtain ⟨here, rest⟩ := List.forall_mem_cons.mp settled
    exact ih rest (act.after store) (act.after_settled here store kept)

end Act

structure Program where
  acts : List Act
  making : Making
  acts_settled : ∀ act ∈ acts, act.Settled
  making_settled : making.Settled

namespace Program

def store (program : Program) : Store := program.acts.foldl Act.after .empty

def made (program : Program) : Except Fault Value := program.making.run.outcome program.store

def created (program : Program) : Store := program.making.run.leaves program.store

def later (program : Program) (further : List Act) : Store :=
  further.foldl Act.after program.created

theorem store_settled (program : Program) : program.store.Settled :=
  Act.foldl_settled program.acts program.acts_settled .empty nofun

theorem made_settled (program : Program) (node : Value) (done : program.made = .ok node) :
    node.Settled := by
  have mirrors :=
    program.making.run_mirrors program.making_settled program.store program.store_settled
  exact (mirrors.yields fun _ _ like => like.made_good).2 node done

theorem serialize_call_of_builder (program : Program) (construct : Construct) (kind : BuilderKind)
    (handle : Nat) (around : List Nat) (content : Text)
    (calls : program.making.through (program.store.conversion pure) =
      ((program.store.conversion pure).snapshot handle >>=
        construct.call (program.store.conversion pure) : Except Fault Value))
    (done : (serialize (.builder kind handle around)).outcome program.store = .ok content) :
    ∃ node, program.made = .ok node ∧ (serialize node).outcome program.created =
      .ok ("\x7b" ++ (Json.renderText construct.verb ++ ": " ++ content) ++ "\x7d") := by
  have converted : program.store.expr (.builder kind handle around) =
      (program.store.conversion pure).snapshot handle := rfl
  rw [Value.outcome_serialize, converted] at done
  cases snapshot : (program.store.conversion pure : Conversion (Except Fault)).snapshot handle with
  | error fault =>
    rw [snapshot] at done
    nomatch done
  | ok form =>
    have mirrors := program.store.snapshots program.store_settled program.store.builders.length
    obtain ⟨_, _, like⟩ := (mirrors handle program.store).ok snapshot
    have written : form.written.outcome program.store = .ok content := by
      rw [snapshot] at done
      change (form.written.outcome program.store).mapError serializationFault = _ at done
      cases found : form.written.outcome program.store <;> rw [found] at done <;> cases done
      rfl
    obtain ⟨plain, json, planned, jsoned, _⟩ :=
      Value.tree_of_written form like.plain_good program.store content written
    -- What can be written has no builder in it, so the program gets the very form of the wire.
    have free := Value.free_of_tree form like.plain_good plain planned ⟨json, jsoned⟩
    rw [snapshot] at calls
    obtain ⟨node, made, alike⟩ :=
      (program.making.run_mirrors program.making_settled program.store program.store_settled).ok
        calls
    have same : node = .query construct (.text construct.verb) form := by
      refine alike.same ?_
      have text : (Value.text construct.verb).enclosure? = none := rfl
      rw [Value.enclosure?, text, free, Option.or_none, Option.map_none]
    subst same
    exact ⟨_, made,
      Value.serialize_call construct form like.plain_good program.store _ content written⟩

/-- At its creation the call of a builder is written with what the builder is written as. Whatever
is done afterwards, a node answers as it did then exactly if the key that is refused in it, should
there be one, ends in the same category of faults as then. A key with no builder in it does, and a
text never changes. -/
theorem snapshot_exact (program : Program) (further : List Act) :
    (∀ kind handle around content,
      (serialize (.builder kind handle around)).outcome program.store = .ok content →
        (program.making = .createIndex (.builder kind handle around) →
          ∃ node, program.made = .ok node ∧ (serialize node).outcome program.created =
            .ok ("\x7b\"create_index\": " ++ content ++ "\x7d")) ∧
        (program.making = .createClass (.builder kind handle around) →
          ∃ node, program.made = .ok node ∧ (serialize node).outcome program.created =
            .ok ("\x7b\"create_class\": " ++ content ++ "\x7d"))) ∧
    ∀ node, program.made = .ok node → node.isNode = true →
      (SameAnswer ((serialize node).outcome program.created)
          ((serialize node).outcome (program.later further)) ↔
        ∀ refusal : Refusal, node.tree pure = refusal.raise →
          (refusal.reported program.created).category =
            (refusal.reported (program.later further)).category) ∧
      (∀ content, (serialize node).outcome program.created = .ok content →
        (serialize node).outcome (program.later further) = .ok content) ∧
      ∀ refusal : Refusal, node.tree pure = refusal.raise → refusal.key.enclosure? = none →
        refusal.reported program.created = refusal.reported (program.later further) := by
  refine ⟨fun kind handle around content done => ⟨fun making => ?_, fun making => ?_⟩, ?_⟩
  · have calls := congrArg (·.through (program.store.conversion (m := Except Fault) pure)) making
    obtain ⟨node, made, text⟩ :=
      program.serialize_call_of_builder .createIndex kind handle around content calls done
    exact ⟨node, made, text⟩
  · have calls := congrArg (·.through (program.store.conversion (m := Except Fault) pure)) making
    obtain ⟨node, made, text⟩ :=
      program.serialize_call_of_builder .createClass kind handle around content calls done
    exact ⟨node, made, text⟩
  · intro node made isNode
    have settled := program.made_settled node made
    exact ⟨node.sameAnswer_iff isNode settled _ _, node.serialize_settled isNode settled _ _,
      fun refusal _ free => refusal.reported_of_free free _ _⟩

def indexed : Program where
  acts := [.indexValue (.bindingSource (.text "b")), .indexParams (.text "i") (.text "c"),
    .set 1 .values (.list [.builder .indexValue 0 []])]
  making := .createIndex (.builder .indexParams 1 [])
  acts_settled := by
    simp only [List.forall_mem_cons]
    exact ⟨trivial, trivial, ⟨trivial, trivial⟩, nofun⟩
  making_settled := trivial

def indexedText : Text :=
  "\x7b\"object\": \x7b\"name\": \"i\", \"source\": \"c\", \"active\": false, " ++
    "\"unique\": false, \"serialized\": false, \"values\": [\x7b\"object\": " ++
    "\x7b\"binding\": \"b\", \"reverse\": false\x7d\x7d]\x7d\x7d"

theorem indexed_unchanged :
    ∃ node, indexed.made = .ok node ∧
      (serialize node).outcome indexed.created =
        .ok ("\x7b\"create_index\": " ++ indexedText ++ "\x7d") ∧
      (serialize node).outcome (indexed.later [.set 0 .reverse (.bool true)]) =
        .ok ("\x7b\"create_index\": " ++ indexedText ++ "\x7d") := by
  obtain ⟨texts, answers⟩ := snapshot_exact indexed [.set 0 .reverse (.bool true)]
  obtain ⟨node, made, text⟩ := (texts .indexParams 1 [] indexedText rfl).1 rfl
  have isNode : node.isNode = true := by
    cases made
    rfl
  exact ⟨node, made, text, (answers node made isNode).2.1 _ text⟩

def keyed : Program where
  acts := [.indexValue (.bindingSource (.text "b"))]
  making := .convert (.dict [(.builder .indexValue 0 [], .int 1)])
  acts_settled := List.forall_mem_singleton.mpr trivial
  making_settled := ⟨trivial, trivial, trivial⟩

/-- The refusal of the key is a failure of the serialization at first. Once the index value is
reversed by a list of errors it cannot be shown, and that is another fault. -/
theorem keyed_leaks :
    ∃ node, keyed.made = .ok node ∧ node.isNode = true ∧
      (∃ message, (serialize node).outcome keyed.created = .error (.serialization message)) ∧
      (serialize node).outcome (keyed.later [.set 0 .reverse (.errors (.list [.int 5]))]) =
        .error .noAttribute :=
  ⟨_, rfl, rfl, ⟨_, rfl⟩, rfl⟩

end Program

end QueryWire
