import QueryWire.Expr.Wire
import QueryWire.Proofs.Value.Display

/-!
Looking through a value: running a loop over it, and showing it in the quoted or in the plain form.
All that this does is to look at builders, to take items from one-shot sequences and to end in a
fault of a few kinds; so it has every property of computations that these have. In particular it
changes nothing but how far one-shot sequences are read.
-/

namespace QueryWire

def Confined {α : Type} (good : Fault → Prop) (verdict : Except Fault α) : Prop :=
  ∀ fault, verdict = .error fault → good fault

namespace Confined

variable {α β : Type} {good : Fault → Prop}

theorem ok (value : α) : Confined good (.ok value) := nofun

theorem error {fault : Fault} (holds : good fault) :
    Confined good (.error fault : Except Fault α) := by
  rintro _ ⟨⟩
  exact holds

theorem bind {verdict : Except Fault α} {next : α → Except Fault β} (first : Confined good verdict)
    (others : ∀ value, Confined good (next value)) : Confined good (verdict >>= next) := by
  cases verdict with
  | error fault => exact error (first fault rfl)
  | ok value => exact others value

theorem map {verdict : Except Fault α} (make : α → β) (first : Confined good verdict) :
    Confined good (do return make (← verdict)) :=
  first.bind fun value => ok (make value)

theorem mapM (items : List α) (body : α → Except Fault β)
    (each : ∀ item, Confined good (body item)) : Confined good (items.mapM body) := by
  induction items with
  | nil => exact ok []
  | cons item items ih =>
    rw [List.mapM_cons]
    exact (each item).bind fun _ => ih.map _

theorem weaken {fine : Fault → Prop} {verdict : Except Fault α} (confined : Confined good verdict)
    (enough : ∀ fault, good fault → fine fault) : Confined fine verdict :=
  fun fault failed => enough fault (confined fault failed)

end Confined

namespace Fault

/-- Faults that a serialization turns into its own failure, or that are such a failure already. -/
def Reported (fault : Fault) : Prop :=
  ∃ message, serializationFault fault = .serialization message

def escapingKinds : List FaultKind := [.attributeError, .notImplementedError, .recursionError]

def Escapes (fault : Fault) : Prop := ∃ kind ∈ escapingKinds, fault.kind? = some kind

def Usual (fault : Fault) : Prop := fault.Reported ∨ fault.Escapes

theorem reported_typeError (message : Text) : (ambient .typeError message).Reported := ⟨_, rfl⟩

theorem reported_valueError (message : Text) : (ambient .valueError message).Reported := ⟨_, rfl⟩

theorem escapes_noAttribute : noAttribute.Escapes := ⟨.attributeError, by decide, rfl⟩

theorem escapes_tooDeep : tooDeep.Escapes := ⟨.recursionError, by decide, rfl⟩

end Fault

abbrev Tame {α : Type} (verdict : Except Fault α) : Prop := Confined Fault.Usual verdict

namespace Run

/-- A property of computations that looking through values has. -/
structure Habit extends Trait where
  /-- It may go by all of the store but the number of identities. -/
  looks : ∀ {α : Type} {next : Store → Run α},
    (∀ store identities, next { store with identities } = next store) →
      (∀ store, Holds (next store)) → Holds (get >>= next)
  takes : ∀ handle, Holds (advance handle)
  stops : ∀ {α : Type} {fault : Fault}, fault.Usual → Holds (throw fault : Run α)

variable {α : Type}

theorem Habit.lift (habit : Habit) {verdict : Except Fault α} (tame : Tame verdict) :
    habit.Holds (liftM verdict) := by
  cases verdict with
  | error fault => exact habit.stops (tame fault rfl)
  | ok value => exact habit.result value

def still : Habit where
  Holds := Still
  result := Still.result
  tooManyDigits := Still.fault _
  bind := Still.bind
  looks _ each := fun store => each store store
  takes _ := fun _ => rfl
  stops _ := Still.fault _

def ending (good : Fault → Prop) (enough : ∀ fault, fault.Usual → good fault) : Habit where
  Holds run := ∀ store, Confined good (run.outcome store)
  result _ := fun _ => .ok _
  tooManyDigits := fun _ => .error (enough _ (.inl (Fault.reported_valueError _)))
  bind first others := by
    intro store
    rw [outcome_bind]
    exact (first store).bind fun value => others value _
  looks _ each := fun store => each store store
  takes _ := fun _ => .ok ()
  stops usual := fun _ => .error (enough _ usual)

def blind : Habit where
  Holds run := ∀ store identities,
    run.outcome { store with identities } = run.outcome store ∧
      run.leaves { store with identities } = { run.leaves store with identities }
  result _ := fun _ _ => ⟨rfl, rfl⟩
  tooManyDigits := fun _ _ => ⟨rfl, rfl⟩
  bind {_ _ run next} first others := by
    intro store identities
    obtain ⟨same, left⟩ := first store identities
    rw [outcome_bind, outcome_bind, leaves_bind, leaves_bind, same, left]
    cases run.outcome store with
    | error fault => exact ⟨rfl, rfl⟩
    | ok value => exact others value _ identities
  looks {_ next} overlooks each := by
    intro store identities
    change (next { store with identities }).outcome { store with identities } = _ ∧
      (next { store with identities }).leaves { store with identities } = _
    rw [overlooks store identities]
    exact each store store identities
  takes _ := fun _ _ => ⟨rfl, rfl⟩
  stops _ := fun _ _ => ⟨rfl, rfl⟩

end Run

open Run (Still Habit)

namespace Iteration

variable {α β : Type}

section

variable (habit : Habit) (body : α → Run β)

theorem mapM_holds (items : List α) (each : ∀ item ∈ items, habit.Holds (body item)) :
    habit.Holds (items.mapM body) := by
  induction items with
  | nil => exact habit.result []
  | cons item items ih =>
    obtain ⟨here, rest⟩ := List.forall_mem_cons.mp each
    rw [List.mapM_cons]
    exact habit.bind here fun _ => habit.map _ (ih rest)

theorem eachTaken_holds (handle : Nat) (items : List (α × Nat))
    (each : ∀ item ∈ items, habit.Holds (body item.1)) :
    habit.Holds (eachTaken handle body items) := by
  induction items with
  | nil => exact habit.result []
  | cons item items ih =>
    obtain ⟨here, rest⟩ := List.forall_mem_cons.mp each
    have taken : habit.Holds (Run.taken handle) :=
      habit.looks (fun _ _ => rfl) fun _ => habit.result _
    rw [eachTaken]
    refine habit.bind taken fun count => ?_
    split
    · exact ih rest
    · refine habit.bind (habit.takes handle) fun _ => ?_
      exact habit.bind here fun _ => habit.map _ (ih rest)

/-- A loop has a habit if each of its turns has it. -/
theorem forEach_holds (iteration : Iteration α)
    (each : ∀ item ∈ iteration.items, habit.Holds (body item)) :
    habit.Holds (iteration.forEach body) := by
  rw [forEach]
  cases iteration.cursor with
  | none => exact mapM_holds habit body iteration.items each
  | some handle =>
    refine eachTaken_holds habit body handle _ fun item member => each item.1 ?_
    exact List.fst_mem_of_mem_zipIdx member

theorem take_holds (iteration : Iteration α) : habit.Holds iteration.take := by
  rw [take]
  cases iteration.cursor with
  | none => exact habit.result ()
  | some handle => exact habit.takes handle

end

theorem outcome_eachTaken (handle place : Nat) (items : List α) (store : Store)
    (reached : place ≤ store.taken.getD handle 0 ∨ store.taken.length ≤ handle) :
    Run.outcome (eachTaken handle pure (items.zipIdx place)) store =
      .ok (items.drop (store.taken.getD handle 0 - place)) := by
  induction items generalizing place store with
  | nil => rw [List.zipIdx_nil, eachTaken, Run.outcome_pure, List.drop_nil]
  | cons item items ih =>
    have looks : Run.outcome (Run.taken handle) store = .ok (store.taken.getD handle 0) := rfl
    have leaves : Run.leaves (Run.taken handle) store = store := rfl
    rw [List.zipIdx_cons, eachTaken, Run.outcome_bind, looks, leaves, Except.bind]
    split
    case isTrue passed =>
      have more : store.taken.getD handle 0 - place =
          store.taken.getD handle 0 - (place + 1) + 1 := by omega
      rw [ih (place + 1) store (.inl passed), more, List.drop_succ_cons]
    case isFalse due =>
      have none : store.taken.getD handle 0 - place = 0 := by omega
      have advances : Run.outcome (Run.advance handle) store = .ok () := rfl
      let later : Store := { store with taken := store.taken.modify handle (· + 1) }
      have leaves : Run.leaves (Run.advance handle) store = later := rfl
      have here : place + 1 ≤ later.taken.getD handle 0 ∨ later.taken.length ≤ handle := by
        simp only [later, List.length_modify, List.getD_eq_getElem?_getD, List.getElem?_modify]
          at reached ⊢
        grind
      have past : later.taken.getD handle 0 ≤ place + 1 := by
        simp only [later, List.getD_eq_getElem?_getD, List.getElem?_modify] at due ⊢
        grind
      rw [Run.outcome_bind, advances, leaves, Except.bind, pure_bind, Run.outcome_bind,
        ih (place + 1) later here, Nat.sub_eq_zero_of_le past, none]
      rfl

theorem outcome_forEach_pure (iteration : Iteration α) (store : Store) :
    Run.outcome (iteration.forEach pure) store = .ok (iteration.remaining store) := by
  rw [forEach, remaining]
  cases iteration.cursor with
  | none =>
    dsimp only
    rw [List.mapM_pure, List.map_id', Run.outcome_pure]
  | some handle => exact outcome_eachTaken handle 0 iteration.items store (.inl (Nat.zero_le _))

theorem mem_of_mem_remaining (iteration : Iteration α) (store : Store) (item : α)
    (left : item ∈ iteration.remaining store) : item ∈ iteration.items := by
  rw [remaining] at left
  cases cursor : iteration.cursor with
  | none => rwa [cursor] at left
  | some handle =>
    rw [cursor] at left
    exact List.mem_of_mem_drop left

end Iteration

namespace Value

theorem collect_still (value : Value) : Still value.collect :=
  (Still.lift _).bind fun iteration => iteration.forEach_holds Run.still pure fun _ _ => .result _

theorem outcome_collect (value : Value) (store : Store) :
    value.collect.outcome store =
      value.iteration.map fun iteration => iteration.remaining store := by
  rw [collect]
  cases value.iteration with
  | error cause => rfl
  | ok iteration => exact iteration.outcome_forEach_pure store

theorem errorLines_tame (builders : BuilderDisplay) (opened : List Nat) (value : Value) :
    Tame (errorLines builders opened value) := by
  intro fault stopped
  match value with
  | .errors details => exact errorLines_tame builders opened details fault stopped
  | .null | .bool _ | .int _ | .float _ | .duration _ | .url _ | .bare _ | .literal _ | .array _
  | .object _ | .ref .. | .query .. | .level _ | .response _ | .errorDetail .. | .fieldSource _
  | .bindingSource _ | .term .. | .builder .. | .foreign .. | .unknown _ | .failure .. =>
    cases stopped
    exact .inl (Fault.reported_typeError _)

section

variable (habit : Habit)

def Shows (builders : BuilderDisplay) : Prop :=
  ∀ opened kind handle, habit.Holds (builders opened kind handle)

variable {habit} {builders : BuilderDisplay}

mutual

theorem plainWith_holds (shows : Shows habit builders) (opened : List Nat) (value : Value) :
    habit.Holds (plainWith builders opened value) := by
  match value with
  | .text _ | .url _ | .duration _ | .failure _ (.badRequest ..) | .failure _ (.notFound ..)
  | .failure _ (.database ..) =>
    rw [plainWith]
    exact habit.result _
  | .view entries =>
    refine showing_holds habit.toTrait opened _ _ _ fun opened => habit.toTrait.map _ ?_
    exact displayEntries_holds habit.toTrait builders opened entries (.inr shows)
  | .failure _ (.plain _ message _) | .failure _ (.unauthorized message)
  | .failure _ (.emptyResponse message) =>
    rw [plainWith]
    exact plainWith_holds shows opened message
  | .errors details =>
    rw [plainWith]
    cases found : errorLines builders opened details with
    | error cause => exact habit.stops (errorLines_tame builders opened details cause found)
    | ok lines =>
      have each := errorLines_holds shows opened details lines found
      exact habit.map _ (lines.forEach_holds habit id each)
  | .null | .bool _ | .int _ | .float _ | .bytes _ | .list _ | .tuple _ | .set _ | .dict _ | .bare _
  | .literal _ | .array _ | .object _ | .ref .. | .query .. | .level _ | .response _
  | .errorDetail .. | .fieldSource _ | .bindingSource _ | .term .. | .builder .. | .cursor ..
  | .foreign .. | .unknown _ =>
    exact displayWith_holds habit.toTrait builders opened _ (.inr shows)

theorem errorLines_holds (shows : Shows habit builders) (opened : List Nat) (value : Value)
    (lines : Iteration (Run Text))
    (found : errorLines builders opened value = .ok lines) :
    ∀ line ∈ lines.items, habit.Holds line := by
  match value with
  | .list items | .tuple items | .set items | .cursor _ items =>
    cases found
    exact itemLines_holds shows opened items
  | .dict entries | .view entries =>
    cases found
    exact keyLines_holds shows opened entries
  | .errors details => exact errorLines_holds shows opened details lines found
  | .text _ | .bytes _ =>
    cases found
    intro line member
    obtain ⟨_, _, rfl⟩ := List.mem_map.mp member
    exact habit.stops (.inr Fault.escapes_noAttribute)
  | .null | .bool _ | .int _ | .float _ | .duration _ | .url _ | .bare _ | .literal _ | .array _
  | .object _ | .ref .. | .query .. | .level _ | .response _ | .errorDetail .. | .fieldSource _
  | .bindingSource _ | .term .. | .builder .. | .foreign .. | .unknown _ | .failure .. =>
    nomatch found

theorem itemLines_holds (shows : Shows habit builders) (opened : List Nat) (items : List Value) :
    ∀ line ∈ itemLines builders opened items, habit.Holds line := by
  match items with
  | [] => nofun
  | item :: items =>
    rw [itemLines]
    exact List.forall_mem_cons.mpr
      ⟨errorLine_holds shows opened item, itemLines_holds shows opened items⟩

theorem keyLines_holds (shows : Shows habit builders) (opened : List Nat)
    (entries : List (Value × Value)) :
    ∀ line ∈ keyLines builders opened entries, habit.Holds line := by
  match entries with
  | [] => nofun
  | (key, value) :: entries =>
    rw [keyLines]
    exact List.forall_mem_cons.mpr
      ⟨errorLine_holds shows opened key, keyLines_holds shows opened entries⟩

theorem errorLine_holds (shows : Shows habit builders) (opened : List Nat) (value : Value) :
    habit.Holds (errorLine builders opened value) := by
  match value with
  | .errorDetail code description _ =>
    rw [errorLine]
    refine habit.bind (plainWith_holds shows opened code) fun _ => ?_
    exact habit.map _ (plainWith_holds shows opened description)
  | .failure _ (.plain _ _ code) | .failure _ (.badRequest _ code _)
  | .failure _ (.notFound _ code _) =>
    rw [errorLine]
    exact habit.bind (plainWith_holds shows opened code) fun _ =>
      habit.stops (.inr Fault.escapes_noAttribute)
  | .null | .bool _ | .int _ | .float _ | .text _ | .bytes _ | .list _ | .tuple _ | .set _
  | .dict _ | .view _ | .duration _ | .url _ | .bare _ | .literal _ | .array _ | .object _ | .ref ..
  | .query .. | .level _ | .response _ | .errors _ | .fieldSource _ | .bindingSource _ | .term ..
  | .builder .. | .cursor .. | .foreign .. | .unknown _ | .failure _ (.unauthorized _)
  | .failure _ (.emptyResponse _) | .failure _ (.database ..) =>
    exact habit.stops (.inr Fault.escapes_noAttribute)

end

end

theorem displayBuilder_holds (habit : Habit) (fuel : Nat) :
    Shows habit (displayBuilder fuel) := by
  induction fuel with
  | zero => exact fun _ _ _ => habit.stops (.inr Fault.escapes_tooDeep)
  | succ fuel ih =>
    intro opened kind handle
    rw [displayBuilder]
    refine habit.looks (fun _ _ => rfl) fun store => ?_
    split
    · refine habit.bind (displayWith_holds habit.toTrait _ opened _ (.inr ih)) fun _ => ?_
      exact habit.map _ (plainWith_holds ih opened _)
    · exact habit.result _

theorem display_holds (habit : Habit) (value : Value) : habit.Holds value.display :=
  displayWith_holds habit.toTrait _ [] value (.inr (displayBuilder_holds habit displayDepth))

theorem plain_holds (habit : Habit) (value : Value) : habit.Holds value.plain :=
  plainWith_holds (displayBuilder_holds habit displayDepth) [] value

theorem display_still (value : Value) : Still value.display := value.display_holds Run.still

end Value

end QueryWire
