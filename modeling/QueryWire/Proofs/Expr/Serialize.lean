import QueryWire.Proofs.Expr.Written

/-!
Serialization of settled nodes in two stores. The answer is the same in both, whatever was done to
builders in between, unless a key is refused whose showing ends in different faults.
-/

namespace QueryWire

/-- What a fault is caught by: its kind, or the name of the failure that it is. -/
def Fault.category : Fault → FaultKind ⊕ String
  | .failure cause => .inr cause.name
  | .refused kind _ | .ambient kind _ => .inl kind

def SameAnswer : Except Fault Text → Except Fault Text → Prop
  | .ok first, .ok second => first = second
  | .error first, .error second => first.category = second.category
  | _, _ => False

theorem SameAnswer.refl (answer : Except Fault Text) : SameAnswer answer answer := by
  cases answer <;> rfl

def Run.report (run : Run Text) : Run Text :=
  tryCatch run fun fault => throw (serializationFault fault)

theorem Run.outcome_report (run : Run Text) (store : Store) :
    run.report.outcome store = (run.outcome store).mapError serializationFault := by
  rw [report, outcome_tryCatch]
  cases run.outcome store <;> rfl

theorem Run.leaves_report (run : Run Text) (store : Store) :
    run.report.leaves store = run.leaves store := by
  unfold report leaves ExceptT.run
  simp only [tryCatch, tryCatchThe, MonadExceptOf.tryCatch, ExceptT.tryCatch, ExceptT.mk, bind,
    StateT.bind]
  cases run store with
  | mk result after => cases result <;> rfl

namespace Value

def written (node : Value) : Run Text := do
  let plain ← node.tree pure
  return (← plain.toJson).render

theorem outcome_serialize (value : Value) (store : Store) :
    (serialize value).outcome store =
      ((store.expr value).bind fun node => node.written.outcome store).mapError
        serializationFault := by
  rw [serialize, ← Run.report, Run.outcome_report]
  change ((liftM (store.expr value) >>= written : Run Text).outcome store).mapError _ = _
  rw [Run.outcome_bind]
  cases store.expr value <;> rfl

theorem outcome_serialize_node (node : Value) (isNode : node.isNode = true) (store : Store) :
    (serialize node).outcome store =
      (node.written.outcome store).mapError serializationFault := by
  have itself : store.expr node = .ok node := expr_of_isNode _ node isNode
  rw [outcome_serialize, itself]
  rfl

theorem tree_of_written (node : Value) (settled : node.Settled) (store : Store) (content : Text)
    (done : node.written.outcome store = .ok content) :
    ∃ plain json, node.tree pure = pure plain ∧ plain.toJson = .ok json ∧
      json.render = content := by
  rw [written] at done
  obtain ⟨plain, planned⟩ | ⟨fault, planned⟩ | ⟨refusal, planned⟩ := tree_fixed node settled
  · rw [planned, pure_bind] at done
    cases found : plain.toJson with
    | error fault =>
      rw [found] at done
      nomatch done
    | ok json =>
      rw [found] at done
      exact ⟨plain, json, planned, found, Except.ok.inj done⟩
  · rw [planned] at done
    nomatch done
  · rw [planned, refusal.raise_bind, refusal.outcome_raise] at done
    nomatch done

theorem serialize_call (construct : Construct) (node : Value) (settled : node.Settled)
    (before after : Store) (content : Text) (done : node.written.outcome before = .ok content) :
    (serialize (.query construct (.text construct.verb) node)).outcome after =
      .ok ("\x7b" ++ (Json.renderText construct.verb ++ ": " ++ content) ++ "\x7d") := by
  obtain ⟨plain, json, planned, jsoned, rfl⟩ := tree_of_written node settled before content done
  have verb : checkHashable (.text construct.verb) = .ok () := rfl
  have call : tree pure (.query construct (.text construct.verb) node) =
      pure (.dict [(.text construct.verb, plain)]) := by
    rw [tree, planned, pure_bind, verb]
    rfl
  have written : toJson (.dict [(.text construct.verb, plain)]) =
      .ok (.object [(construct.verb, json)]) := by
    rw [toJson, toJsonMembers, jsoned]
    rfl
  rw [outcome_serialize_node _ rfl, Value.written, call, pure_bind, written]
  rfl

theorem outcome_of_raise (node : Value) (isNode : node.isNode = true) (refusal : Refusal)
    (refused : node.tree pure = refusal.raise) (store : Store) :
    (serialize node).outcome store = .error (refusal.reported store) := by
  rw [outcome_serialize_node node isNode, written, refused, refusal.raise_bind,
    refusal.outcome_raise, Refusal.reported]
  cases refusal.key.display.outcome store <;> rfl

theorem outcome_constant (node : Value) (isNode : node.isNode = true) (settled : node.Settled)
    (accepted : ∀ refusal : Refusal, node.tree pure ≠ refusal.raise) (before after : Store) :
    (serialize node).outcome before = (serialize node).outcome after := by
  rw [outcome_serialize_node node isNode, outcome_serialize_node node isNode, written]
  obtain ⟨plain, done⟩ | ⟨fault, done⟩ | ⟨refusal, done⟩ := tree_fixed node settled
  · rw [done, pure_bind]
    cases plain.toJson <;> rfl
  · rw [done]
    rfl
  · exact (accepted refusal done).elim

/-- Two serializations of a settled node answer the same exactly if the refusal of a key, should
there be one, is reported in the same category of faults both times. -/
theorem sameAnswer_iff (node : Value) (isNode : node.isNode = true) (settled : node.Settled)
    (before after : Store) :
    SameAnswer ((serialize node).outcome before) ((serialize node).outcome after) ↔
      ∀ refusal : Refusal, node.tree pure = refusal.raise →
        (refusal.reported before).category = (refusal.reported after).category := by
  constructor
  · intro same refusal refused
    rw [outcome_of_raise node isNode refusal refused, outcome_of_raise node isNode refusal refused]
      at same
    exact same
  · intro same
    by_cases refuses : ∃ refusal : Refusal, node.tree pure = refusal.raise
    · obtain ⟨refusal, refused⟩ := refuses
      rw [outcome_of_raise node isNode refusal refused,
        outcome_of_raise node isNode refusal refused]
      exact same refusal refused
    · have accepted : ∀ refusal : Refusal, node.tree pure ≠ refusal.raise :=
        fun refusal refused => refuses ⟨refusal, refused⟩
      rw [outcome_constant node isNode settled accepted before after]
      exact .refl _

/-- A text that a settled node was written as is what it is always written as. -/
theorem serialize_settled (node : Value) (isNode : node.isNode = true) (settled : node.Settled)
    (before after : Store) (content : Text) (done : (serialize node).outcome before = .ok content) :
    (serialize node).outcome after = .ok content := by
  rw [← done]
  refine outcome_constant node isNode settled (fun refusal refused => ?_) after before
  rw [outcome_of_raise node isNode refusal refused] at done
  nomatch done

end Value

theorem Refusal.reported_of_free (refusal : Refusal) (free : refusal.key.enclosure? = none)
    (before after : Store) : refusal.reported before = refusal.reported after := by
  rw [reported, reported]
  obtain ⟨shown, steady⟩ | steady := refusal.key.display_steady free <;> rw [steady] <;> rfl

end QueryWire
