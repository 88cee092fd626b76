import QueryWire.Logging
import QueryWire.Proofs.Run

/-!
Which arguments are levels. A number and a flag are levels as they are; a text is one if it is the
name of a level, and so is a url that is written as such a name, since it equals that text. Nothing
else is, and what is no level is refused.
-/

namespace QueryWire

namespace Value

inductive MeansLevel : Value → Threshold → Prop
  | number (n : Int) : MeansLevel (.int n) (.number n)
  | flag (value : Bool) : MeansLevel (.bool value) (.flag value)
  | name (name : String) (n : Int) (listed : (name, n) ∈ levelNames) :
      MeansLevel (.text name) (.number n)
  | url (url : Url) (name : String) (n : Int) (listed : (name, n) ∈ levelNames)
      (written : url.toText = name) : MeansLevel (.url url) (.number n)

theorem eq_of_text_eq [Platform] {name : Text} {value : Value}
    (same : (text name).eq value = .ok true) :
    value = .text name ∨ ∃ url, value = .url url := by
  cases value with
  | text other =>
    have equal : decide (name = other) = true := Except.ok.inj same
    exact .inl (congrArg text (of_decide_eq_true equal).symm)
  | url url => exact .inr ⟨url, rfl⟩
  | _ => cases same

end Value

theorem levelOfName?_eq_some {name : Text} {n : Int} (found : levelOfName? name = some n) :
    ∃ listed, (listed, n) ∈ levelNames ∧ name = Text.ofString listed := by
  obtain ⟨⟨listed, level⟩, first, same⟩ := Option.map_eq_some_iff.mp found
  cases same
  have named := List.find?_some first
  exact ⟨listed, List.mem_of_find?_eq_some first, (eq_of_beq named).symm⟩

theorem levelOfName?_of_mem :
    ∀ entry ∈ levelNames, levelOfName? (Text.ofString entry.1) = some entry.2 := by decide

variable [Platform]

theorem urlEqText_of_mem (url : Url) :
    ∀ entry ∈ levelNames, url.toText = Text.ofString entry.1 →
      Value.urlEqText url (Text.ofString entry.1) = .ok true := by
  have read : ∀ entry ∈ levelNames,
      ((Value.readUrl (Text.ofString entry.1)).map Url.toText).toOption =
        some (Text.ofString entry.1) := List.map_inj_left.mp rfl
  intro entry listed written
  rw [Value.urlEqText, written]
  have found := read entry listed
  cases parsed : Value.readUrl (Text.ofString entry.1) with
  | error fault =>
    rw [parsed] at found
    nomatch found
  | ok other =>
    rw [parsed] at found
    have same : other.toText = Text.ofString entry.1 := Option.some.inj found
    exact congrArg Except.ok (decide_eq_true same)

namespace Logging

variable {level : Value} {store : Store} {threshold : Threshold}

theorem readLevelName_ok_iff :
    (readLevelName level).outcome store = .ok threshold ↔
      ∃ name n, (name, n) ∈ levelNames ∧ threshold = .number n ∧
        (level = .text name ∨ ∃ url : Url, level = .url url ∧ url.toText = name) := by
  constructor
  · intro read
    rw [readLevelName, Run.outcome_bind] at read
    obtain ⟨name, plain, read⟩ := ok_of_bind read
    rw [Run.outcome_bind, Run.outcome_lift] at read
    obtain ⟨equal, same, read⟩ := ok_of_bind read
    cases equal with
    | false =>
      rw [if_neg Bool.false_ne_true, Run.outcome_bind] at read
      obtain ⟨shown, -, read⟩ := ok_of_bind read
      nomatch read
    | true =>
      rw [if_pos rfl] at read
      cases found : levelOfName? name with
      | none =>
        rw [found] at read
        nomatch read
      | some n =>
        rw [found] at read
        cases read
        obtain ⟨listed, member, rfl⟩ := levelOfName?_eq_some found
        refine ⟨listed, n, member, rfl, ?_⟩
        rcases Value.eq_of_text_eq same with rfl | ⟨url, rfl⟩
        · exact .inl rfl
        · exact .inr ⟨url, rfl, Except.ok.inj plain⟩
  · rintro ⟨name, n, member, rfl, named⟩
    have found : levelOfName? name = some n := levelOfName?_of_mem (name, n) member
    have plain : level.plain.outcome store = .ok name := by
      obtain rfl | ⟨url, rfl, written⟩ := named
      · rfl
      · exact congrArg Except.ok written
    have same : (Value.text name).eq level = .ok true := by
      obtain rfl | ⟨url, rfl, written⟩ := named
      · exact congrArg Except.ok (decide_eq_true rfl)
      · exact urlEqText_of_mem url (name, n) member written
    rw [readLevelName, Run.outcome_bind, plain]
    change Run.outcome (liftM ((Value.text name).eq level) >>= _) _ = _
    rw [Run.outcome_bind, Run.outcome_lift, same]
    dsimp only [Except.bind]
    rw [if_pos rfl, found]
    rfl

/-- An argument is accepted as a level exactly if it is one. -/
theorem readLevel_ok_iff :
    (readLevel level).outcome store = .ok threshold ↔ level.MeansLevel threshold := by
  constructor
  · intro read
    cases level with
    | int n =>
      cases read
      exact .number n
    | bool value =>
      cases read
      exact .flag value
    | text content =>
      obtain ⟨name, n, listed, rfl, same | ⟨url, same, -⟩⟩ := readLevelName_ok_iff.mp read
      · cases same
        exact .name name n listed
      · cases same
    | url found =>
      obtain ⟨name, n, listed, rfl, same | ⟨url, same, written⟩⟩ := readLevelName_ok_iff.mp read
      · cases same
      · cases same
        exact .url found name n listed written
    | _ =>
      obtain ⟨name, n, -, -, same | ⟨url, same, -⟩⟩ := readLevelName_ok_iff.mp read
      · cases same
      · cases same
  · intro means
    cases means with
    | number n => rfl
    | flag value => rfl
    | name name n listed => exact readLevelName_ok_iff.mpr ⟨name, n, listed, rfl, .inl rfl⟩
    | url url name n listed written =>
      exact readLevelName_ok_iff.mpr ⟨name, n, listed, rfl, .inr ⟨url, rfl, written⟩⟩

end Logging

theorem Value.MeansLevel.unique {level : Value} {threshold other : Threshold}
    (means : level.MeansLevel threshold) (again : level.MeansLevel other) : threshold = other := by
  have read : (Logging.readLevel level).outcome .empty = .ok threshold :=
    Logging.readLevel_ok_iff.mpr means
  rw [Logging.readLevel_ok_iff.mpr again] at read
  exact (Except.ok.inj read).symm

end QueryWire
