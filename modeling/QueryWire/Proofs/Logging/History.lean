import QueryWire.Proofs.Logging.Setup

/-!
Logs that are set up any number of times, with other uses in between. From the first call on the
package logger has one handler, which writes to the error stream, also where a call fails. A call
that is refused its level keeps the level and the flag, but has put its handler in the place of the
silent one by then. So a failure leaves the log as it was only if it had been set up before.
-/

namespace QueryWire.Logging

structure Sound (logging : Logging) : Prop where
  present : packageName ∈ logging.known
  held : logging.handlers ≠ []
  coherent : logging.Coherent

/-- What is done with a log, one thing after the other: loggers are asked for, records are sent, the
log is set up, and a handler is put on the root or removed. -/
inductive Leads [Platform] (start : Logging) : Logging → Prop
  | here : Leads start start
  | asked {logging next : Logging} {name : Value} {logger : Logger} (led : Leads start logging)
      (found : logging.logger name = .ok (next, logger)) : Leads start next
  | sent {logging : Logging} (led : Leads start logging) (logger : Logger) (level : Int)
      (message : Text) : Leads start (logging.send logger level message).logging
  | configured {logging : Logging} (led : Leads start logging) (level propagate : Value)
      (store : Store) : Leads start (logging.configure level propagate store).logging
  | collected {logging : Logging} (led : Leads start logging) (rootHandler : Bool) :
      Leads start { logging with rootHandler }

theorem known_of_asked {logging next : Logging} {name : Value} {logger : Logger}
    (found : logging.logger name = .ok (next, logger)) :
    ∃ known, next = { logging with known } ∧ logging.known ⊆ known := by
  have remembered (asked : Logger) :
      ∃ known, logging.remember asked = { logging with known } ∧ logging.known ⊆ known := by
    cases asked with
    | root => exact ⟨_, rfl, List.Subset.refl _⟩
    | named name => exact ⟨_, rfl, List.subset_cons_self name _⟩
  cases name with
  | null =>
    cases found
    exact remembered .package
  | text name =>
    cases found
    exact remembered (.ofName name)
  | _ =>
    obtain ⟨truth, -, found⟩ := ok_of_bind found
    cases truth with
    | true => cases found
    | false =>
      cases found
      exact ⟨_, rfl, List.Subset.refl _⟩

namespace Sound

theorem initial : Sound .initial where
  present := List.mem_cons_self ..
  held := List.cons_ne_nil _ _
  coherent := nofun

variable {logging : Logging} (sound : Sound logging)

include sound

/-- What was found stays right as long as the level and the findings stay. -/
theorem transfer {other : Logging} (known : logging.known ⊆ other.known)
    (held : other.handlers ≠ []) (level : other.level = logging.level)
    (decided : other.decided = logging.decided) : Sound other where
  present := known sound.present
  held := held
  coherent := by
    intro logger sent verdict member placed
    rw [decided] at member
    rw [reaches_congr sent placed sound.present (known sound.present) level]
    exact sound.coherent logger sent verdict member placed

theorem asked {next : Logging} {name : Value} {logger : Logger}
    (found : logging.logger name = .ok (next, logger)) : Sound next := by
  obtain ⟨known, rfl, kept⟩ := known_of_asked found
  exact sound.transfer kept sound.held rfl rfl

theorem sent (logger : Logger) (level : Int) (message : Text) :
    Sound (logging.send logger level message).logging := by
  rw [send_logging]
  refine ⟨sound.present, sound.held, ?_⟩
  intro other sent verdict member placed
  -- The new finding is an old one, or was made with the level as it is.
  rcases List.mem_cons.mp member with same | earlier
  · cases same
    exact logging.accepts_of_coherent sound.coherent placed
  · exact sound.coherent other sent verdict earlier placed

theorem configured [Platform] (level propagate : Value) (store : Store) :
    Sound (logging.configure level propagate store).logging := by
  obtain ⟨fault, refused⟩ | ⟨threshold, means⟩ := refused_or_means level store
  · rw [logging.configure_of_refused propagate store sound.held refused]
    exact sound.transfer (List.Subset.refl _) (List.cons_ne_nil _ _) rfl rfl
  · obtain ⟨⟨decided, same, found⟩, -⟩ :=
      logging.configure_leaves propagate store sound.held means
    rw [same]
    exact ⟨sound.present, List.cons_ne_nil _ _,
      fun logger sent verdict member _ => found logger sent verdict member⟩

theorem collected (rootHandler : Bool) : Sound { logging with rootHandler } :=
  sound.transfer (List.Subset.refl _) sound.held rfl rfl

/-- A governed logger is within the package, and accepts what reaches the level of the package. -/
theorem governs {logger : Logger} (governed : logger.Governed) :
    logging.isWithinPackage logger = true ∧
      ∀ level, logging.accepts logger level = true ↔
        0 < level ∧ (logging.effectiveLevel .package).toInt ≤ level := by
  have within := logging.isWithinPackage_of_governed sound.present governed
  refine ⟨within, fun level => ?_⟩
  rw [logging.accepts_of_coherent sound.coherent (.inl governed), reaches_iff,
    logging.effectiveLevel_of_within within]

end Sound

section

variable [Platform]

namespace Leads

variable {start after : Logging}

theorem sound (led : Leads start after) (sound : Sound start) : Sound after := by
  induction led with
  | here => exact sound
  | asked led found ih => exact ih.asked found
  | sent led logger level message ih => exact ih.sent logger level message
  | configured led level propagate store ih => exact ih.configured level propagate store
  | collected led rootHandler ih => exact ih.collected rootHandler

theorem trans {middle : Logging} (led : Leads start middle) (further : Leads middle after) :
    Leads start after := by
  induction further with
  | here => exact led
  | asked _ found ih => exact ih.asked found
  | sent _ logger level message ih => exact ih.sent logger level message
  | configured _ level propagate store ih => exact ih.configured level propagate store
  | collected _ rootHandler ih => exact ih.collected rootHandler

theorem streams (led : Leads start after) (sound : Sound start)
    (streams : start.handlers = [.stream]) : after.handlers = [.stream] := by
  induction led with
  | here => exact streams
  | asked led found ih =>
    obtain ⟨known, rfl, -⟩ := known_of_asked found
    exact ih
  | sent led logger level message ih =>
    rw [send_logging]
    exact ih
  | configured led level propagate store ih =>
    exact configure_handlers _ (led.sound sound).held level propagate store
  | collected led rootHandler ih => exact ih

end Leads

/-- Some call has set the log up before, whether it failed or not. -/
def Configured (logging : Logging) : Prop :=
  ∃ before level propagate store, Leads .initial before ∧
    Leads (before.configure level propagate store).logging logging

namespace Configured

variable {logging : Logging}

theorem sound (configured : Configured logging) : Sound logging := by
  obtain ⟨before, level, propagate, store, reached, led⟩ := configured
  exact led.sound ((reached.sound .initial).configured level propagate store)

theorem streams (configured : Configured logging) : logging.handlers = [.stream] := by
  obtain ⟨before, level, propagate, store, reached, led⟩ := configured
  have sound : Sound before := reached.sound .initial
  exact led.streams (sound.configured level propagate store)
    (before.configure_handlers sound.held level propagate store)

theorem lasts {after : Logging} (configured : Configured logging) (led : Leads logging after) :
    Configured after := by
  obtain ⟨before, level, propagate, store, reached, earlier⟩ := configured
  exact ⟨before, level, propagate, store, reached, earlier.trans led⟩

end Configured

theorem silent_or_configured {logging : Logging} (reached : Leads .initial logging) :
    logging.handlers = [.silent] ∨ Configured logging := by
  induction reached with
  | here => exact .inl rfl
  | asked led found ih =>
    obtain silent | configured := ih
    · obtain ⟨known, rfl, -⟩ := known_of_asked found
      exact .inl silent
    · exact .inr (configured.lasts (.asked .here found))
  | sent led logger level message ih =>
    obtain silent | configured := ih
    · rw [send_logging]
      exact .inl silent
    · exact .inr (configured.lasts (.sent .here logger level message))
  | configured led level propagate store ih =>
    exact .inr ⟨_, level, propagate, store, led, .here⟩
  | collected led rootHandler ih =>
    exact ih.imp_right fun configured => configured.lasts (.collected .here rootHandler)

/-- From the first call on, whether calls fail or not, the stream handler is the only handler of the
package, and writes each record in one line that the package logger or one below it accepts; of a
level that is too long to be named there is no record. Among these loggers are all loggers whose
names go on with a single dot, and they accept what reaches the level of the package. A call that
does not fail has set the level and the flag. -/
theorem handled_once {before : Logging} (reached : Leads .initial before)
    (level propagate : Value) (store : Store) :
    let logged := before.configure level propagate store
    (logged.verdict = .ok () →
      level.MeansLevel logged.logging.level ∧ logged.logging.propagate = propagate) ∧
    ∀ after, Leads logged.logging after →
      after.handlers = [.stream] ∧
      (∀ logger : Logger, logger.Governed → after.isWithinPackage logger = true ∧
        ∀ level, after.accepts logger level = true ↔
          0 < level ∧ (after.effectiveLevel .package).toInt ≤ level) ∧
      ∀ logger level message, after.isWithinPackage logger = true →
        after.accepts logger level = true →
          (after.send logger level message).emission.stderr =
            if Numeral.fits level then streamLine logger level message else [] := by
  intro logged
  have sound : Sound before := reached.sound .initial
  constructor
  · intro returned
    obtain ⟨fault, refused⟩ | ⟨threshold, means⟩ := refused_or_means level store
    · have failed : logged.verdict = .error fault :=
        congrArg Logged.verdict (before.configure_of_refused propagate store sound.held refused)
      rw [failed] at returned
      cases returned
    · obtain ⟨⟨decided, same, -⟩, -⟩ :=
        before.configure_leaves propagate store sound.held means
      change level.MeansLevel (before.configure level propagate store).logging.level ∧
        (before.configure level propagate store).logging.propagate = propagate
      rw [same]
      exact ⟨means, rfl⟩
  · intro after led
    have configured : Configured after := ⟨before, level, propagate, store, reached, led⟩
    refine ⟨configured.streams, fun logger governed => configured.sound.governs governed, ?_⟩
    intro logger level message within accepted
    cases fits : Numeral.fits level with
    | true => exact after.stderr_of_within within configured.streams accepted fits
    | false => exact congrArg Emission.stderr (after.send_of_long accepted fits).1

end

def informed : Logging := (initial.configure (.text "INFO") (.bool false) .empty).logging

/-- Records of the client are written once. -/
theorem informed_handled_once :
    Leads .initial .initial ∧
      (initial.configure (.text "INFO") (.bool false) .empty).verdict = .ok () ∧
      (Value.text "INFO").MeansLevel informed.level ∧ informed.handlers = [.stream] ∧
      informed.accepts (.named "faunaquery.client") 20 = true ∧
      (informed.send (.named "faunaquery.client") 20 "m").emission.stderr =
        "TIME [INFO] faunaquery.client: m\n" := by
  obtain ⟨set, handled⟩ := handled_once .here (.text "INFO") (.bool false) .empty
  obtain ⟨streams, -, once⟩ := handled informed .here
  have returned : (initial.configure (.text "INFO") (.bool false) .empty).verdict = .ok () := rfl
  have accepted : informed.accepts (.named "faunaquery.client") 20 = true := by decide
  refine ⟨.here, returned, (set returned).1, streams, accepted, ?_⟩
  rw [once (.named "faunaquery.client") 20 "m" (by decide) accepted,
    if_pos (Numeral.fits_of_small 20 (by decide))]
  decide

/-- A dot right behind the one after the name of the package keeps a logger out of it. -/
theorem doubled_dot_bare :
    informed.logger (.text "faunaquery..x") =
        .ok (informed.remember (.named "faunaquery..x"), .named "faunaquery..x") ∧
      (informed.remember (.named "faunaquery..x")).accepts (.named "faunaquery..x") 30 = true ∧
      ((informed.remember (.named "faunaquery..x")).send (.named "faunaquery..x") 30
        "m").emission.stderr = "m\n" ∧
      streamLine (.named "faunaquery..x") 30 "m" = "TIME [WARNING] faunaquery..x: m\n" := by
  refine ⟨rfl, ?_, ?_, ?_⟩ <;> decide +kernel

section

variable [Platform]

theorem streaming_eq_iff {logging : Logging} (reached : Leads .initial logging) :
    logging.streaming = logging ↔ Configured logging := by
  constructor
  · intro same
    obtain silent | configured := silent_or_configured reached
    · have handlers : [Handler.stream] = logging.handlers := congrArg Logging.handlers same
      rw [silent] at handlers
      cases handlers
    · exact configured
  · intro configured
    rw [streaming, ← configured.streams]

/-- A call fails if its argument is no level, and where its own record is handed on and the flag
does not say whether. Without a level it leaves nothing but its handler, so it leaves the log as it
was exactly if the log has been set up before; handlers are told apart by their kind alone, so that
a new handler on the error stream counts as the old one. With a level it sets what it was told. -/
theorem failure_exact {before : Logging} (reached : Leads .initial before)
    (level propagate : Value) (store : Store) :
    let logged := before.configure level propagate store
    ((∃ fault, logged.verdict = .error fault) ↔
      (¬∃ threshold, level.MeansLevel threshold) ∨
        ∃ threshold, level.MeansLevel threshold ∧ threshold.Verbose ∧
          ∃ fault, propagate.truth = .error fault) ∧
    ((¬∃ threshold, level.MeansLevel threshold) →
      logged.logging = { before with handlers := [.stream] } ∧
        (logged.logging = before ↔ Configured before)) ∧
    ∀ threshold, level.MeansLevel threshold →
      logged.logging.handlers = [.stream] ∧ logged.logging.level = threshold ∧
        logged.logging.propagate = propagate := by
  have sound : Sound before := reached.sound .initial
  dsimp only
  obtain ⟨fault, refused⟩ | ⟨threshold, means⟩ := refused_or_means level store
  · have meaningless : ¬∃ threshold, level.MeansLevel threshold := by
      rintro ⟨threshold, means⟩
      rw [readLevel_ok_iff.mpr means] at refused
      cases refused
    rw [before.configure_of_refused propagate store sound.held refused]
    exact ⟨⟨fun _ => .inl meaningless, fun _ => ⟨fault, rfl⟩⟩,
      fun _ => ⟨rfl, streaming_eq_iff reached⟩,
      fun threshold means => (meaningless ⟨threshold, means⟩).elim⟩
  · obtain ⟨⟨decided, same, -⟩, ends⟩ :=
      before.configure_leaves propagate store sound.held means
    refine ⟨⟨?_, ?_⟩, fun meaningless => (meaningless ⟨threshold, means⟩).elim, ?_⟩
    · rintro ⟨fault, failed⟩
      obtain ⟨verbose, truth⟩ := (ends fault).mp failed
      exact .inr ⟨threshold, means, verbose, fault, truth⟩
    · rintro (meaningless | ⟨other, again, verbose, fault, truth⟩)
      · exact (meaningless ⟨threshold, means⟩).elim
      · cases again.unique means
        exact ⟨fault, (ends fault).mpr ⟨verbose, truth⟩⟩
    · intro other again
      cases again.unique means
      rw [same]
      exact ⟨rfl, rfl, rfl⟩

end

/-- A level that is refused right after import. -/
theorem failure_of_unknown_name :
    Leads .initial .initial ∧
      (∃ fault, (initial.configure (.text "LOUD") (.bool false) .empty).verdict = .error fault) ∧
      ((initial.configure (.text "LOUD") (.bool false) .empty).logging = initial ↔
        Configured .initial) := by
  obtain ⟨-, refused, -⟩ := failure_exact .here (.text "LOUD") (.bool false) .empty
  have meaningless : ¬∃ threshold, (Value.text "LOUD").MeansLevel threshold := by
    rintro ⟨threshold, means⟩
    have read : (readLevel (.text "LOUD")).outcome .empty = .ok threshold :=
      readLevel_ok_iff.mpr means
    cases read
  exact ⟨.here, ⟨_, rfl⟩, (refused meaningless).2⟩

/-- The handler that a refused level leaves writes what was kept silent before. -/
theorem refused_level_ends_silence :
    (∃ fault, (initial.configure (.text "LOUD") (.bool false) .empty).verdict = .error fault) ∧
      initial.handlers = [.silent] ∧
      (initial.configure (.text "LOUD") (.bool false) .empty).logging.handlers = [.stream] ∧
      (initial.send .package 30 "m").emission.stderr = [] ∧
      ((initial.configure (.text "LOUD") (.bool false) .empty).logging.send .package 30
        "m").emission.stderr = "TIME [WARNING] faunaquery: m\n" := by
  refine ⟨⟨_, rfl⟩, rfl, ?_, ?_, ?_⟩ <;> decide +kernel

end QueryWire.Logging
