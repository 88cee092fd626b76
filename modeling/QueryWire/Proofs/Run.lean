import QueryWire.Store

/-!
What a computation over the store comes to when it is run in some store. One that does not look at
the store is equal to its result or to its fault, so most proofs are about equal computations and
turn to stores at their end.
-/

namespace QueryWire

/-- A chain of computations that comes to a result has come to one at its first part. -/
theorem ok_of_bind {ε α β : Type} {first : Except ε α} {next : α → Except ε β} {result : β}
    (done : first >>= next = .ok result) :
    ∃ value, first = .ok value ∧ next value = .ok result := by
  cases first with
  | error fault => nomatch done
  | ok value => exact ⟨value, rfl, done⟩

section Loops

variable {ε α β : Type} {body : α → Except ε β}

theorem mapM_congr (items : List α) (body turn : α → Except ε β)
    (each : ∀ item ∈ items, body item = turn item) : items.mapM body = items.mapM turn := by
  induction items with
  | nil => rfl
  | cons item items ih =>
    obtain ⟨here, rest⟩ := List.forall_mem_cons.mp each
    rw [List.mapM_cons, List.mapM_cons, here, ih rest]

theorem mapM_total (items : List α) (body : α → Except ε β)
    (each : ∀ item ∈ items, ∃ result, body item = .ok result) :
    ∃ results, items.mapM body = .ok results := by
  induction items with
  | nil => exact ⟨[], rfl⟩
  | cons item items ih =>
    obtain ⟨here, rest⟩ := List.forall_mem_cons.mp each
    obtain ⟨first, done⟩ := here
    obtain ⟨others, more⟩ := ih rest
    rw [List.mapM_cons, done, more]
    exact ⟨first :: others, rfl⟩

/-- Where a loop over some items comes to its end, every item has a result, and there are no other
results. -/
theorem ok_of_mapM {items : List α} {results : List β} (done : items.mapM body = .ok results) :
    (∀ item ∈ items, ∃ result, body item = .ok result) ∧
      ∀ result ∈ results, ∃ item ∈ items, body item = .ok result := by
  induction items generalizing results with
  | nil =>
    cases done
    exact ⟨nofun, nofun⟩
  | cons item items ih =>
    rw [List.mapM_cons] at done
    obtain ⟨first, here, done⟩ := ok_of_bind done
    obtain ⟨others, there, done⟩ := ok_of_bind done
    cases done
    obtain ⟨results, origins⟩ := ih there
    refine ⟨List.forall_mem_cons.mpr ⟨⟨first, here⟩, results⟩,
      List.forall_mem_cons.mpr ⟨⟨item, .head _, here⟩, ?_⟩⟩
    intro result member
    obtain ⟨origin, among, same⟩ := origins result member
    exact ⟨origin, .tail _ among, same⟩

theorem error_of_mapM {items : List α} {fault : ε} (failed : items.mapM body = .error fault) :
    ∃ item ∈ items, body item = .error fault := by
  induction items with
  | nil => nomatch failed
  | cons item items ih =>
    rw [List.mapM_cons] at failed
    cases here : body item with
    | error cause =>
      rw [here] at failed
      cases failed
      exact ⟨item, .head _, here⟩
    | ok first =>
      rw [here] at failed
      cases there : items.mapM body with
      | error cause =>
        rw [there] at failed
        cases failed
        obtain ⟨origin, among, same⟩ := ih there
        exact ⟨origin, .tail _ among, same⟩
      | ok others =>
        rw [there] at failed
        nomatch failed

end Loops

theorem ok_of_mapError {ε δ α : Type} {verdict : Except ε α} {report : ε → δ} {result : α}
    (done : verdict.mapError report = .ok result) : verdict = .ok result := by
  cases verdict with
  | error fault => nomatch done
  | ok value => exact congrArg _ (Except.ok.inj done)

theorem toOption_eq_some_iff {ε α : Type} {verdict : Except ε α} {value : α} :
    verdict.toOption = some value ↔ verdict = .ok value := by
  cases verdict <;> simp [Except.toOption]

theorem toOption_eq_none_iff {ε α : Type} {verdict : Except ε α} :
    verdict.toOption = none ↔ ∃ fault, verdict = .error fault := by
  cases verdict <;> simp [Except.toOption]

theorem cases_of_map_eq {ε α β γ : Type} {first : Except ε α} {second : Except ε β}
    {view : α → γ} {look : β → γ} (same : second.map look = first.map view) :
    (∃ fault, first = .error fault ∧ second = .error fault) ∨
      ∃ value other, first = .ok value ∧ second = .ok other ∧ look other = view value := by
  cases first with
  | error fault =>
    cases second with
    | error cause =>
      cases same
      exact .inl ⟨fault, rfl, rfl⟩
    | ok other => nomatch same
  | ok value =>
    cases second with
    | error cause => nomatch same
    | ok other => exact .inr ⟨value, other, rfl, rfl, Except.ok.inj same⟩

namespace Run

variable {α β : Type}

def outcome (run : Run α) (store : Store) : Except Fault α := (ExceptT.run run store).1

/-- The store that a computation leaves behind, also where it fails. -/
def leaves (run : Run α) (store : Store) : Store := (ExceptT.run run store).2

@[simp] theorem outcome_pure (result : α) (store : Store) :
    outcome (pure result) store = .ok result := rfl

@[simp] theorem outcome_throw (fault : Fault) (store : Store) :
    outcome (throw fault : Run α) store = .error fault := rfl

theorem run_bind (run : Run α) (next : α → Run β) (store : Store) :
    ExceptT.run (run >>= next) store =
      match outcome run store with
      | .ok result => ExceptT.run (next result) (leaves run store)
      | .error fault => (.error fault, leaves run store) := by
  unfold outcome leaves ExceptT.run
  simp only [bind, ExceptT.bind, ExceptT.mk, StateT.bind, ExceptT.bindCont]
  cases run store with
  | mk result after => cases result <;> rfl

theorem outcome_bind (run : Run α) (next : α → Run β) (store : Store) :
    outcome (run >>= next) store =
      (outcome run store).bind fun result => outcome (next result) (leaves run store) := by
  rw [outcome, run_bind]
  cases outcome run store <;> rfl

theorem leaves_bind (run : Run α) (next : α → Run β) (store : Store) :
    leaves (run >>= next) store =
      match outcome run store with
      | .ok result => leaves (next result) (leaves run store)
      | .error _ => leaves run store := by
  rw [leaves, run_bind]
  cases outcome run store <;> rfl

theorem outcome_tryCatch (run : Run α) (handler : Fault → Run α) (store : Store) :
    outcome (tryCatch run handler) store =
      match outcome run store with
      | .ok result => .ok result
      | .error fault => outcome (handler fault) (leaves run store) := by
  unfold outcome leaves ExceptT.run
  simp only [tryCatch, tryCatchThe, MonadExceptOf.tryCatch, ExceptT.tryCatch, ExceptT.mk, bind,
    StateT.bind]
  cases run store with
  | mk result after => cases result <;> rfl

theorem throw_bind (fault : Fault) (next : α → Run β) :
    (throw fault : Run α) >>= next = throw fault := rfl

theorem lift_ok (result : α) : (liftM (Except.ok result : Except Fault α) : Run α) = pure result :=
  rfl

theorem outcome_lift (verdict : Except Fault α) (store : Store) :
    outcome (liftM verdict : Run α) store = verdict := by
  cases verdict <;> rfl

/-- In one store a computation leaves every builder as it is, and its result is good. -/
def YieldsIn (store : Store) (good : α → Prop) (run : Run α) : Prop :=
  (leaves run store).builders = store.builders ∧
    ∀ result, outcome run store = .ok result → good result

theorem YieldsIn.bind {store : Store} {good : α → Prop} {fine : β → Prop} {run : Run α}
    {next : α → Run β} (first : YieldsIn store good run)
    (others : ∀ value, good value → YieldsIn (leaves run store) fine (next value)) :
    YieldsIn store fine (run >>= next) := by
  rw [YieldsIn, leaves_bind, outcome_bind]
  cases done : outcome run store with
  | error fault => exact ⟨first.1, nofun⟩
  | ok value =>
    obtain ⟨same, results⟩ := others value (first.2 value done)
    exact ⟨same.trans first.1, results⟩

def Yields (good : α → Prop) (run : Run α) : Prop := ∀ store, YieldsIn store good run

namespace Yields

variable {good : α → Prop} {fine : β → Prop}

theorem result (value : α) (holds : good value) : Yields good (pure value) := by
  intro store
  refine ⟨rfl, ?_⟩
  rintro _ ⟨⟩
  exact holds

theorem fault (fault : Fault) : Yields good (throw fault) :=
  fun _ => ⟨rfl, nofun⟩

theorem bind {run : Run α} {next : α → Run β} (first : Yields good run)
    (others : ∀ value, good value → Yields fine (next value)) : Yields fine (run >>= next) :=
  fun store => (first store).bind fun value holds => others value holds _

theorem weaken {better : α → Prop} {run : Run α} (yields : Yields good run)
    (enough : ∀ value, good value → better value) : Yields better run :=
  fun store => ⟨(yields store).1, fun value done => enough value ((yields store).2 value done)⟩

end Yields

abbrev Spares (run : Run α) : Prop := Yields (fun _ => True) run

/-- A computation that changes nothing but how far one-shot sequences are read. -/
def Still (run : Run α) : Prop :=
  ∀ store, leaves run store = { store with taken := (leaves run store).taken }

namespace Still

theorem result (value : α) : Still (pure value) := fun _ => rfl

theorem fault (cause : Fault) : Still (throw cause : Run α) := fun _ => rfl

theorem lift (verdict : Except Fault α) : Still (liftM verdict) := by
  cases verdict with
  | error cause => exact fault cause
  | ok value => exact result value

theorem bind {run : Run α} {next : α → Run β} (first : Still run)
    (others : ∀ value, Still (next value)) : Still (run >>= next) := by
  intro store
  rw [leaves_bind]
  cases outcome run store with
  | error cause => exact first store
  | ok value =>
    dsimp only
    rw [others value (leaves run store), first store]

theorem spares {run : Run α} (still : Still run) : Spares run := by
  intro store
  refine ⟨?_, fun _ _ => trivial⟩
  rw [still store]

end Still

end Run

end QueryWire
