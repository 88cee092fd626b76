import QueryWire.Proofs.Logging.History

/-!
Which of the loggers that are handed out a set-up log governs. Any name gets the logger of that very
name. Without a name, or with one that is the package's or goes on behind it with a single dot, the
logger accepts what the package accepts, and the stream handler of the package writes it once. With
a name that does not begin like the package's, the logger has nothing to do with the package.
-/

namespace QueryWire

namespace Logger

def asked : Option Text → Logger
  | none => .package
  | some name => ofName name

theorem governed_asked {name : Option Text}
    (inside : name = none ∨ name = some packageName ∨ ∃ below, name = some below ∧ Below below) :
    (asked name).Governed := by
  obtain rfl | rfl | ⟨below, rfl, isBelow⟩ := inside
  · exact .package
  · exact .package
  · have named : ofName below = .named below := by
      obtain ⟨rest, rfl, -⟩ := isBelow
      rfl
    rw [asked, named]
    exact .below below isBelow

theorem foreign_asked {name : Text} (different : name ≠ packageName)
    (outside : ∀ rest, name ≠ packageName ++ dot :: rest) : (asked (some name)).Foreign := by
  rw [asked, ofName]
  split
  · exact ⟨nofun, nofun⟩
  · refine ⟨fun same => different ?_, fun rest same => outside rest ?_⟩
    · exact Logger.named.inj same
    · exact Logger.named.inj same

end Logger

namespace Logging

/-- Once the log has been set up, an accepted record is written by the stream handler exactly if its
logger is within the package; of a level that is too long to be named there is no record. For all
names but those that go on behind the package's with two dots or more, the name alone decides
whether it is, and with it which level the logger accepts. -/
theorem governance_exact [Platform] {before : Logging} (reached : Leads .initial before)
    (level propagate : Value) (store : Store) {after : Logging}
    (led : Leads (before.configure level propagate store).logging after) (name : Option Text) :
    after.logger (name.elim .null .text) =
        .ok (after.remember (.asked name), .asked name) ∧
      (∀ sent message, after.accepts (.asked name) sent = true →
        if Numeral.fits sent then
          ((after.send (.asked name) sent message).emission.stderr =
              streamLine (.asked name) sent message ↔
            after.isWithinPackage (.asked name) = true)
        else (after.send (.asked name) sent message).emission = {}) ∧
      ((name = none ∨ name = some packageName ∨ ∃ below, name = some below ∧ Below below) →
        after.isWithinPackage (.asked name) = true ∧
          ∀ sent, after.accepts (.asked name) sent = true ↔
            0 < sent ∧ (after.effectiveLevel .package).toInt ≤ sent) ∧
      ∀ other, name = some other → other ≠ packageName →
        (∀ rest, other ≠ packageName ++ dot :: rest) →
        after.isWithinPackage (.asked name) = false ∧
          ∀ sent, after.accepts (.asked name) sent = true ↔ warningLevel ≤ sent := by
  have configured : Configured after := ⟨before, level, propagate, store, reached, led⟩
  have sound := configured.sound
  refine ⟨?_, ?_, ?_, ?_⟩
  · cases name <;> rfl
  · intro sent message accepted
    cases fits : Numeral.fits sent with
    | true => exact after.stderr_eq_iff configured.streams accepted fits
    | false => exact (after.send_of_long accepted fits).1
  · exact fun inside => sound.governs (Logger.governed_asked inside)
  · rintro other rfl different outside
    have foreign := Logger.foreign_asked different outside
    have without := after.isWithinPackage_of_foreign foreign
    refine ⟨without, fun sent => ?_⟩
    rw [after.accepts_of_coherent sound.coherent (.inr foreign),
      after.reaches_iff_of_without without]

/-- The client's logger is governed. -/
theorem informed_governs_client :
    Leads .initial .initial ∧
      Leads (initial.configure (.text "INFO") (.bool false) .empty).logging informed ∧
      informed.isWithinPackage (.asked (some "faunaquery.client")) = true ∧
      informed.accepts (.asked (some "faunaquery.client")) 20 = true ∧
      informed.accepts (.asked (some "faunaquery.client")) 19 = false := by
  obtain ⟨-, -, governed, -⟩ := governance_exact .here (.text "INFO") (.bool false) .empty
    (.here : Leads _ informed) (some "faunaquery.client")
  have below : Below "faunaquery.client" := ⟨"client", rfl, by decide⟩
  obtain ⟨within, accepts⟩ := governed (.inr (.inr ⟨_, rfl, below⟩))
  have threshold : (informed.effectiveLevel .package).toInt = 20 := by decide
  refine ⟨.here, .here, within, (accepts 20).mpr ?_, Bool.eq_false_iff.mpr fun accepted => ?_⟩
  · rw [threshold]
    decide
  · have reached := (accepts 19).mp accepted
    rw [threshold] at reached
    omega

/-- Another name gets a logger that the package's level and handler have no part in. -/
theorem stranger_ungoverned :
    informed.logger (.text "other") =
        .ok (informed.remember (.named "other"), .named "other") ∧
      ((informed.remember (.named "other")).effectiveLevel .package).toInt = 20 ∧
      (informed.remember (.named "other")).accepts (.named "other") 20 = false ∧
      (informed.remember (.named "other")).accepts (.named "other") 30 = true ∧
      ((informed.remember (.named "other")).send (.named "other") 30 "m").emission.stderr =
        "m\n" := by
  refine ⟨rfl, ?_, ?_, ?_, ?_⟩ <;> decide +kernel

end Logging

end QueryWire
