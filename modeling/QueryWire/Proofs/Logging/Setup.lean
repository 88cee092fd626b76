import QueryWire.Proofs.Logging.Delivery
import QueryWire.Proofs.Logging.Level

/-!
What one call to set the log up comes to. It puts its handler in the place of the handlers there are
before it looks at the level, so the handler is left behind where the level is refused. A call with
a level sets it, and then ends as the record that announces it does.
-/

namespace QueryWire

/-- A level at which setting it is itself written into the log. -/
def Threshold.Verbose (threshold : Threshold) : Prop :=
  threshold.toInt ≠ 0 ∧ threshold.toInt ≤ debugLevel

namespace Logging

variable [Platform]

def configure (logging : Logging) (level propagate : Value) (store : Store) : Logged :=
  ((logging.setup level propagate).run store).1

def streaming (logging : Logging) : Logging := { logging with handlers := [.stream] }

def leveled (logging : Logging) (level : Threshold) (propagate : Value) : Logging :=
  { logging.streaming with level, propagate, decided := [] }

section Call

variable (logging : Logging) {level : Value} (propagate : Value) (store : Store)

omit [Platform] in
theorem installHandler_of_handlers (held : logging.handlers ≠ []) :
    logging.installHandler = .ok logging.streaming := by
  have met : (logging.packageHandlers .package).isEmpty = false := by
    rw [packageHandlers, logging.isWithinPackage_package, if_pos rfl, List.isEmpty_eq_false_iff]
    exact held
  rw [installHandler, hasHandlers, met]
  rfl

theorem configure_of_refused (held : logging.handlers ≠ []) {fault : Fault}
    (refused : (readLevel level).outcome store = .error fault) :
    logging.configure level propagate store =
      { logging := logging.streaming, verdict := .error fault } := by
  unfold Run.outcome ExceptT.run at refused
  unfold configure setup
  rw [logging.installHandler_of_handlers held]
  simp only [StateT.run, bind, StateT.bind, ExceptT.run]
  cases ran : readLevel level store with
  | mk verdict later =>
    rw [ran] at refused
    cases refused
    rfl

theorem configure_of_read (held : logging.handlers ≠ []) {threshold : Threshold}
    (read : (readLevel level).outcome store = .ok threshold) :
    ∃ message emission, logging.configure level propagate store =
      { (logging.leveled threshold propagate).send .package debugLevel message with emission } := by
  unfold Run.outcome ExceptT.run at read
  unfold configure setup
  rw [logging.installHandler_of_handlers held]
  simp only [StateT.run, bind, StateT.bind, ExceptT.run]
  cases ran : readLevel level store with
  | mk verdict later =>
    rw [ran] at read
    cases read
    dsimp only [StateT.bind]
    cases shown : level.plain later with
    | mk text last =>
      cases text with
      -- A level that is too long to be shown goes through the flag, though nothing is written.
      | error fault => exact ⟨[], {}, rfl⟩
      | ok text => exact ⟨_, _, rfl⟩

omit [Platform] in
theorem reaches_debug_iff (threshold : Threshold) :
    (logging.leveled threshold propagate).reaches .package debugLevel = true ↔
      threshold.Verbose := by
  rw [reaches_iff, effectiveLevel, isWithinPackage_package, Bool.true_and]
  change 0 < debugLevel ∧ (if decide (threshold.toInt ≠ 0) = true then threshold
    else .number warningLevel).toInt ≤ debugLevel ↔ _
  by_cases zero : threshold.toInt = 0
  · rw [if_neg (by simp [zero])]
    exact ⟨fun late => absurd late.2 (by decide), fun verbose => absurd zero verbose.1⟩
  · rw [if_pos (by simp [zero])]
    exact ⟨fun reached => ⟨zero, reached.2⟩, fun verbose => ⟨by decide, verbose.2⟩⟩

/-- What a call with a level leaves. It fails where its own record is handed on and the flag does
not say whether. -/
theorem configure_leaves (held : logging.handlers ≠ []) {threshold : Threshold}
    (means : level.MeansLevel threshold) :
    let logged := logging.configure level propagate store
    (∃ decided, logged.logging = { logging.leveled threshold propagate with decided } ∧
      ∀ logger sent verdict, ((logger, sent), verdict) ∈ decided →
        verdict = (logging.leveled threshold propagate).reaches logger sent) ∧
    ∀ fault, logged.verdict = .error fault ↔
      threshold.Verbose ∧ propagate.truth = .error fault := by
  obtain ⟨message, emission, same⟩ :=
    logging.configure_of_read propagate store held (readLevel_ok_iff.mpr means)
  dsimp only
  rw [same]
  constructor
  · refine ⟨_, send_logging _, ?_⟩
    intro logger sent verdict member
    cases List.mem_singleton.mp member
    rfl
  · intro fault
    rw [← logging.reaches_debug_iff propagate]
    refine (send_error_iff _ (Numeral.fits_of_small debugLevel (by decide))).trans ?_
    rw [isWithinPackage_package]
    exact ⟨fun failed => ⟨failed.1, failed.2.2⟩, fun failed => ⟨failed.1, rfl, failed.2⟩⟩

end Call

theorem refused_or_means (level : Value) (store : Store) :
    (∃ fault, (readLevel level).outcome store = .error fault) ∨
      ∃ threshold, level.MeansLevel threshold := by
  cases read : (readLevel level).outcome store with
  | error fault => exact .inl ⟨fault, rfl⟩
  | ok threshold => exact .inr ⟨threshold, readLevel_ok_iff.mp read⟩

theorem configure_handlers (logging : Logging) (held : logging.handlers ≠ [])
    (level propagate : Value) (store : Store) :
    (logging.configure level propagate store).logging.handlers = [.stream] := by
  obtain ⟨fault, refused⟩ | ⟨threshold, means⟩ := refused_or_means level store
  · rw [logging.configure_of_refused propagate store held refused]
    rfl
  · obtain ⟨⟨decided, same, -⟩, -⟩ := logging.configure_leaves propagate store held means
    rw [same]
    rfl

end Logging

end QueryWire
