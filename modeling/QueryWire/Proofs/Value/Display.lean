import QueryWire.Proofs.Run
import QueryWire.Value.Display

/-!
Showing values. What is shown is put together from the texts of its parts, so a property of
computations that survives that has only to be checked for the builders in a value. Without any
builder the store does not matter, and only an integer that is too long can be in the way.
-/

namespace QueryWire

namespace Run

/-- A property of computations that showing a value has, if showing the builders in it does. -/
structure Trait where
  Holds : ∀ {α : Type}, Run α → Prop
  result : ∀ {α : Type} (value : α), Holds (pure value)
  bind : ∀ {α β : Type} {run : Run α} {next : α → Run β},
    Holds run → (∀ value, Holds (next value)) → Holds (run >>= next)
  tooManyDigits : ∀ {α : Type}, Holds (throw .tooManyDigits : Run α)

theorem Trait.map (kind : Trait) {α β : Type} {run : Run α} (make : α → β)
    (first : kind.Holds run) : kind.Holds (do return make (← run)) :=
  kind.bind first fun value => kind.result (make value)

/-- A computation that gives the same result in every store, or stops at an integer that has too
many digits. -/
def Steady {α : Type} (run : Run α) : Prop :=
  (∃ result, run = pure result) ∨ run = throw .tooManyDigits

def steady : Trait where
  Holds := Steady
  result value := .inl ⟨value, rfl⟩
  tooManyDigits := .inr rfl
  bind first others := by
    obtain ⟨value, rfl⟩ | rfl := first
    · rw [pure_bind]
      exact others value
    · exact .inr rfl

end Run

open Run (Trait Steady)

namespace Value

/-- A value with no builder in it has no identity, so it is never taken for one being shown. -/
theorem showing_of_free (opened : List Nat) (value : Value) (again : Text)
    (body : List Nat → Run Text) (free : value.enclosure? = none) :
    showing opened value again body = body opened := by
  have absent : value.identity? = none := by
    unfold identity?
    rw [free]
    split <;> rfl
  rw [showing, absent]

theorem free_of_deeper {enclosure : Option Enclosure}
    (free : enclosure.map Enclosure.deeper = none) : enclosure = none :=
  Option.map_eq_none_iff.mp free

theorem free_of_or {first second : Option Enclosure} (free : first.or second = none) :
    first = none ∧ second = none :=
  Option.or_eq_none_iff.mp free

def Showable (kind : Trait) (builders : BuilderDisplay) (first : Option Enclosure) : Prop :=
  first = none ∨ ∀ opened sort handle, kind.Holds (builders opened sort handle)

namespace Showable

variable {kind : Trait} {builders : BuilderDisplay} {first second : Option Enclosure}

theorem part (able : Showable kind builders (first.map Enclosure.deeper)) :
    Showable kind builders first :=
  able.imp_left free_of_deeper

theorem left (able : Showable kind builders (first.or second)) : Showable kind builders first :=
  able.imp_left fun free => (free_of_or free).1

theorem right (able : Showable kind builders (first.or second)) : Showable kind builders second :=
  able.imp_left fun free => (free_of_or free).2

end Showable

section

variable (kind : Trait)

theorem displayInt_holds (n : Int) : kind.Holds (liftM (displayInt n)) := by
  rw [displayInt]
  split
  · exact kind.result _
  · exact kind.tooManyDigits

theorem showing_holds (opened : List Nat) (value : Value) (again : Text)
    (body : List Nat → Run Text) (inner : ∀ opened, kind.Holds (body opened)) :
    kind.Holds (showing opened value again body) := by
  rw [showing]
  split
  · exact inner opened
  · split
    · exact kind.result again
    · exact inner _

variable (builders : BuilderDisplay)

mutual

theorem displayWith_holds (opened : List Nat) (value : Value)
    (able : Showable kind builders value.enclosure?) :
    kind.Holds (displayWith builders opened value) := by
  rw [displayWith]
  refine showing_holds kind opened value _ _ fun opened => ?_
  match value with
  | .null | .bool _ | .float _ | .text _ | .bytes _ | .duration _ | .url _ | .bare _ | .cursor _ _
  | .foreign .. | .unknown _ | .failure _ (.badRequest ..) | .failure _ (.notFound ..)
  | .failure _ (.database ..) => exact kind.result _
  | .int value => exact displayInt_holds kind value
  | .tuple [] | .set [] => exact kind.result _
  | .tuple [item] => exact kind.map _ (displayWith_holds opened item able.part.left)
  | .list items | .set (item :: items) | .tuple (item :: second :: items) =>
    exact kind.map _ (displayItems_holds opened _ able.part)
  | .dict entries | .view entries =>
    exact kind.map _ (displayEntries_holds opened entries able.part)
  | .literal value | .array value | .object value | .level value | .response value
  | .errors value | .fieldSource value | .bindingSource value =>
    exact kind.map _ (displayWith_holds opened value able.part)
  | .ref id parent =>
    exact kind.bind (displayWith_holds opened id able.part.left) fun _ =>
      kind.map _ (displayWith_holds opened parent able.part.right)
  | .query construct verb argument =>
    exact kind.bind (displayWith_holds opened verb able.part.left) fun _ =>
      kind.map _ (displayWith_holds opened argument able.part.right)
  | .errorDetail code description position =>
    exact kind.bind (displayWith_holds opened code able.part.left) fun _ =>
      kind.bind (displayWith_holds opened description able.part.right.left) fun _ =>
        kind.map _ (displayWith_holds opened position able.part.right.right)
  | .term _ source => exact kind.map _ (displayWith_holds opened source able)
  | .builder sort handle around =>
    obtain free | shown := able
    · nomatch free
    · exact shown opened sort handle
  | .failure _ (.plain _ message code) =>
    exact kind.map _ (displayWith_holds opened message able.left)
  | .failure _ (.unauthorized message) | .failure _ (.emptyResponse message) =>
    exact kind.map _ (displayWith_holds opened message able)

theorem displayItems_holds (opened : List Nat) (items : List Value)
    (able : Showable kind builders (enclosureOfItems? items)) :
    kind.Holds (displayItems builders opened items) := by
  match items with
  | [] => exact kind.result _
  | item :: items =>
    exact kind.bind (displayWith_holds opened item able.left) fun _ =>
      kind.map _ (displayItems_holds opened items able.right)

theorem displayEntries_holds (opened : List Nat) (entries : List (Value × Value))
    (able : Showable kind builders (enclosureOfEntries? entries)) :
    kind.Holds (displayEntries builders opened entries) := by
  match entries with
  | [] => exact kind.result _
  | (key, value) :: entries =>
    exact kind.bind (displayWith_holds opened key able.left.left) fun _ =>
      kind.bind (displayWith_holds opened value able.left.right) fun _ =>
        kind.map _ (displayEntries_holds opened entries able.right)

end

end

theorem plain_int (n : Int) : (Value.int n).plain = liftM (displayInt n) := by
  change (Value.int n).displayWith (displayBuilder displayDepth) [] = _
  rw [displayWith, showing_of_free [] (.int n) _ _ rfl]

theorem display_steady (value : Value) (free : value.enclosure? = none) : Steady value.display :=
  displayWith_holds Run.steady _ [] value (.inl free)

end Value

end QueryWire
