import QueryWire.Proofs.Logging.Hierarchy
import QueryWire.Proofs.Number.Decimal

/-!
What becomes of a record. One that is accepted and meets the stream handler on its way up is written
by it in one line, whatever else becomes of it, and one that does not pass the package logger is not
handled there; of a level that is too long to be named there is no record. What was found once about
a level is what would be found again, for all loggers whose place does not hang on others.
-/

namespace QueryWire.Logging

variable (logging : Logging) {logger : Logger} {level : Int} {message : Text}

section Level

theorem effectiveLevel_of_within (within : logging.isWithinPackage logger = true) :
    logging.effectiveLevel logger = logging.effectiveLevel .package := by
  rw [effectiveLevel, effectiveLevel, within, logging.isWithinPackage_package]

theorem effectiveLevel_of_without (without : logging.isWithinPackage logger = false) :
    logging.effectiveLevel logger = .number warningLevel := by
  rw [effectiveLevel, without]
  rfl

theorem reaches_iff :
    logging.reaches logger level = true ↔
      0 < level ∧ (logging.effectiveLevel logger).toInt ≤ level := by
  rw [reaches, Bool.and_eq_true, decide_eq_true_iff, decide_eq_true_iff]

theorem reaches_iff_of_without (without : logging.isWithinPackage logger = false) :
    logging.reaches logger level = true ↔ warningLevel ≤ level := by
  rw [reaches_iff, effectiveLevel_of_without logging without]
  constructor
  · exact fun reached => reached.2
  · intro reached
    change (30 : Int) ≤ level at reached
    exact ⟨by omega, reached⟩

end Level

section Send

theorem send_logging :
    (logging.send logger level message).logging =
      { logging with
        decided := ((logger, level), logging.accepts logger level) :: logging.decided } := by
  rw [send]
  cases logging.accepts logger level with
  | false => rfl
  | true =>
    dsimp only
    cases Numeral.fits level <;> rfl

theorem send_of_accepted (accepted : logging.accepts logger level = true)
    (fits : Numeral.fits level = true) :
    (logging.send logger level message).emission =
        (logging.deliver logger level message).1 ∧
      (logging.send logger level message).verdict =
        (logging.deliver logger level message).2 := by
  rw [send, accepted, fits]
  exact ⟨rfl, rfl⟩

theorem send_of_long (accepted : logging.accepts logger level = true)
    (long : Numeral.fits level = false) :
    (logging.send logger level message).emission = {} ∧
      (logging.send logger level message).verdict = .error .tooManyDigits := by
  rw [send, accepted, long]
  exact ⟨rfl, rfl⟩

theorem send_of_rejected (rejected : logging.accepts logger level = false) :
    (logging.send logger level message).emission = {} ∧
      (logging.send logger level message).verdict = .ok () := by
  rw [send, rejected]
  exact ⟨rfl, rfl⟩

theorem stderr_of_within (within : logging.isWithinPackage logger = true)
    (streams : logging.handlers = [.stream]) (accepted : logging.accepts logger level = true)
    (fits : Numeral.fits level = true) :
    (logging.send logger level message).emission.stderr = streamLine logger level message := by
  have met : logging.packageHandlers logger = [.stream] := by
    rw [packageHandlers, within, streams]
    rfl
  rw [(logging.send_of_accepted accepted fits).1, deliver, met]
  cases logging.reachesRoot logger with
  | error fault => exact List.append_nil _
  | ok upward =>
    dsimp only
    split
    · exact List.append_nil _
    · exact List.append_nil _

theorem emission_of_without (without : logging.isWithinPackage logger = false)
    (accepted : logging.accepts logger level = true) (fits : Numeral.fits level = true) :
    (logging.send logger level message).emission =
      if logging.rootHandler then { root := [rootLine logger level message] }
      else if warningLevel ≤ level then { stderr := message ++ "\n" }
      else {} := by
  have unmet : logging.packageHandlers logger = [] := by
    rw [packageHandlers, without]
    rfl
  have upward : logging.reachesRoot logger = .ok true := by
    rw [reachesRoot, without]
    rfl
  rw [(logging.send_of_accepted accepted fits).1, deliver, unmet, upward]
  cases logging.rootHandler with
  | true => rfl
  | false =>
    by_cases serious : warningLevel ≤ level
    · rw [if_neg Bool.false_ne_true, if_pos serious]
      simp [serious]
    · rw [if_neg Bool.false_ne_true, if_neg serious]
      simp [serious]

theorem length_lt_streamLine (logger : Logger) (level : Int) (message : Text) :
    (message ++ "\n" : Text).length < (streamLine logger level message).length := by
  have opening : ("TIME [" : Text).length = 6 := by decide
  rw [streamLine]
  simp only [List.length_append, opening]
  omega

/-- Where the stream handler is the only one of the package, an accepted record comes to its line
exactly if it passes the package logger. -/
theorem stderr_eq_iff (streams : logging.handlers = [.stream])
    (accepted : logging.accepts logger level = true) (fits : Numeral.fits level = true) :
    (logging.send logger level message).emission.stderr = streamLine logger level message ↔
      logging.isWithinPackage logger = true := by
  refine ⟨fun written => ?_, fun within => logging.stderr_of_within within streams accepted fits⟩
  by_contra outside
  have longer := length_lt_streamLine logger level message
  rw [← written,
    logging.emission_of_without (Bool.eq_false_iff.mpr outside) accepted fits] at longer
  split at longer
  next => nomatch longer
  next =>
    split at longer
    next => exact Nat.lt_irrefl _ longer
    next => nomatch longer

/-- Sending a record fails where it is to be handed on and the flag does not say whether. -/
theorem send_error_iff (fits : Numeral.fits level = true) {fault : Fault} :
    (logging.send logger level message).verdict = .error fault ↔
      logging.accepts logger level = true ∧ logging.isWithinPackage logger = true ∧
        logging.propagate.truth = .error fault := by
  cases accepted : logging.accepts logger level with
  | false =>
    rw [(logging.send_of_rejected accepted).2]
    exact ⟨nofun, fun failed => Bool.false_ne_true failed.1 |>.elim⟩
  | true =>
    have delivered : (logging.deliver logger level message).2 = .error fault ↔
        logging.reachesRoot logger = .error fault := by
      rw [deliver]
      cases logging.reachesRoot logger with
      | error cause => simp
      | ok upward =>
        dsimp only
        split
        · simp
        · split <;> simp
    rw [(logging.send_of_accepted accepted fits).2, delivered, reachesRoot]
    cases logging.isWithinPackage logger <;> simp

end Send

section Decided

/-- Whether a logger that has a place of its own accepts a level is decided by the level of the
package. -/
theorem reaches_congr {logging other : Logging} {logger : Logger} (level : Int)
    (placed : logger.Governed ∨ logger.Foreign) (present : packageName ∈ logging.known)
    (kept : packageName ∈ other.known) (same : other.level = logging.level) :
    other.reaches logger level = logging.reaches logger level := by
  have within : other.isWithinPackage logger = logging.isWithinPackage logger := by
    obtain governed | foreign := placed
    · rw [isWithinPackage_of_governed _ kept governed, isWithinPackage_of_governed _ present governed]
    · rw [isWithinPackage_of_foreign _ foreign, isWithinPackage_of_foreign _ foreign]
  rw [reaches, reaches, effectiveLevel, effectiveLevel, within, same]

/-- What was found about the loggers that have a place of their own is what would be found again. -/
def Coherent : Prop :=
  ∀ logger level verdict, ((logger, level), verdict) ∈ logging.decided →
    logger.Governed ∨ logger.Foreign → verdict = logging.reaches logger level

theorem accepts_of_coherent (coherent : logging.Coherent)
    (placed : logger.Governed ∨ logger.Foreign) :
    logging.accepts logger level = logging.reaches logger level := by
  rw [accepts]
  cases found : logging.decided.lookup (logger, level) with
  | none => rfl
  | some verdict =>
    obtain ⟨before, after, same, -⟩ := List.lookup_eq_some_iff.mp found
    have member : ((logger, level), verdict) ∈ logging.decided := by
      rw [same]
      exact List.mem_append_right _ (List.mem_cons_self ..)
    exact coherent logger level verdict member placed

end Decided

end QueryWire.Logging
