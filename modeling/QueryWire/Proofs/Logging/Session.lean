import QueryWire.Logging.Session
import QueryWire.Proofs.Logging.History

/-!
Sessions with the log. Any step of a session that does not remove the handlers of the package leads
the log on as any use of it does. So a session shows the silent handler until the log is set up, and
the stream handler alone from then on.
-/

namespace QueryWire.Logging

variable [Platform]

namespace Session

theorem leads_setup (logging : Logging) (level propagate : Option Script) (store : Store) :
    Leads logging ((setup logging level propagate).run store).1.2.2 := by
  unfold setup
  simp only [StateT.run, bind, StateT.bind, ExceptT.run]
  split
  next verdict later ran =>
    cases verdict with
    | error fault => exact .here
    | ok arguments => exact .configured .here arguments.1 arguments.2 later

theorem leads_find {logging next : Logging} {name : Option Script} {logger : Logger} {store : Store}
    (found : (find logging name).outcome store = .ok (next, logger)) : Leads logging next := by
  rw [find, Run.outcome_bind] at found
  obtain ⟨value, -, found⟩ := ok_of_bind found
  rw [Run.outcome_lift] at found
  exact .asked .here found

theorem leads_use (logging : Logging) (name : Option Script) (record : Option (Int × Text))
    (store : Store) : Leads logging ((use logging name record).run store).1.2.2 := by
  unfold use
  simp only [StateT.run, bind, StateT.bind, ExceptT.run]
  cases ran : find logging name store with
  | mk verdict later =>
    cases verdict with
    | error fault => exact .here
    | ok found =>
      obtain ⟨next, logger⟩ := found
      have led : Leads logging next := leads_find (congrArg Prod.fst ran)
      dsimp only
      cases record with
      | none => exact led
      | some record =>
        have sent := led.sent logger record.1 record.2
        dsimp only
        cases (next.send logger record.1 record.2).verdict with
        | error fault => exact sent
        | ok done => exact sent

theorem leads_take (logging : Logging) (step : Step) (kept : step ≠ .clear) (store : Store) :
    Leads logging ((take logging step).run store).1.2.2 := by
  cases step with
  | setup level propagate => exact leads_setup logging level propagate store
  | get name => exact leads_use logging name none store
  | log name level message => exact leads_use logging name (some (level, message)) store
  | rootHandler on => exact .collected .here on
  | clear => exact (kept rfl).elim

theorem answer_leaves (logging : Logging) (step : Step) (store : Store) :
    let taken := (answer logging step).run store
    taken.1.2 = ((take logging step).run store).1.2.2 ∧
      taken.1.1.handlers = taken.1.2.handlers := by
  unfold answer
  simp only [StateT.run, bind, StateT.bind]
  cases take logging step store with
  | mk taken later =>
    obtain ⟨verdict, emission, next⟩ := taken
    cases verdict <;> exact ⟨rfl, rfl⟩

theorem leads_answer (logging : Logging) (step : Step) (kept : step ≠ .clear) (store : Store) :
    Leads logging ((answer logging step).run store).1.2 := by
  rw [(answer_leaves logging step store).1]
  exact leads_take logging step kept store

theorem run_cons (session : Session) (step : Step) (rest : List Step) :
    session.run (step :: rest) =
      let taken := (answer session.logging step).run session.store
      taken.1.1 :: run { store := taken.2, logging := taken.1.2 } rest := rfl

/-- Every step of a session leaves a log that its first log leads to. -/
theorem leads_run {steps : List Step} (kept : Step.clear ∉ steps) (session : Session) :
    ∀ answer ∈ session.run steps,
      ∃ after, Leads session.logging after ∧ answer.handlers = after.handlers := by
  induction steps generalizing session with
  | nil => exact List.forall_mem_nil _
  | cons step rest ih =>
    obtain ⟨first, others⟩ := List.ne_and_not_mem_of_not_mem_cons kept
    have led := leads_answer session.logging step (Ne.symm first) session.store
    rw [run_cons]
    intro answer member
    rcases List.mem_cons.mp member with rfl | later
    · exact ⟨_, led, (answer_leaves session.logging step session.store).2⟩
    · obtain ⟨after, further, same⟩ := ih others _ answer later
      exact ⟨after, led.trans further, same⟩

theorem run_pairwise {steps : List Step} (kept : Step.clear ∉ steps) (session : Session)
    (sound : Sound session.logging) :
    (session.run steps).Pairwise fun earlier later =>
      earlier.handlers = [.stream] → later.handlers = [.stream] := by
  induction steps generalizing session with
  | nil => exact .nil
  | cons step rest ih =>
    obtain ⟨first, others⟩ := List.ne_and_not_mem_of_not_mem_cons kept
    have lasting := (leads_answer session.logging step (Ne.symm first) session.store).sound sound
    rw [run_cons]
    refine .cons ?_ (ih others _ lasting)
    intro later member shown
    obtain ⟨after, led, same⟩ := leads_run others _ later member
    rw [(answer_leaves session.logging step session.store).2] at shown
    rw [same]
    exact led.streams lasting shown

end Session

/-- Every step of a session in which the handlers of the package are not removed shows the silent
handler or the stream handler alone, and after the stream handler never the silent one again. -/
theorem runSteps_handlers {steps : List Step} (kept : .clear ∉ steps) :
    (∀ answer ∈ runSteps steps, answer.handlers = [.silent] ∨ answer.handlers = [.stream]) ∧
      (runSteps steps).Pairwise fun earlier later =>
        earlier.handlers = [.stream] → later.handlers = [.stream] := by
  constructor
  · intro answer member
    obtain ⟨after, led, same⟩ := Session.leads_run kept {} answer member
    rw [same]
    exact (silent_or_configured led).imp_right Configured.streams
  · exact Session.run_pairwise kept {} .initial

end QueryWire.Logging
