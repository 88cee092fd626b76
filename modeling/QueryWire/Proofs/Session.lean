import QueryWire.Proofs.Run
import QueryWire.Session

/-!
What the steps of a session do to its settings and to its client. Settings are changed by the steps
that configure them, one part at a time, and a client is replaced by a build only; what fails
changes neither of them.
-/

namespace QueryWire

theorem Settings.run_build [Platform] (settings : Settings) (failing : Option Disruption)
    (store : Store) :
    (settings.build failing).run store =
      (settings.furnish failing (settings.endpoint.outcome store),
        settings.endpoint.leaves store) := rfl

theorem Settings.furnish_ok (settings : Settings) (failing : Option Disruption)
    (verdict : Except Fault Endpoint) (endpoint : Endpoint)
    (built : (settings.furnish failing verdict).endpoint = .ok endpoint) :
    verdict = .ok endpoint := by
  cases verdict with
  | error fault => nomatch built
  | ok found =>
    unfold furnish at built
    dsimp only at built
    split at built
    next => exact built
    next => exact built
    next => nomatch built
    next => nomatch built

theorem Settings.furnish_map {α : Type} (view : Endpoint → α) {settings other : Settings}
    (shared : other.transport = settings.transport) (failing : Option Disruption)
    {first second : Except Fault Endpoint} (same : second.map view = first.map view) :
    (other.furnish failing second).endpoint.map view =
        (settings.furnish failing first).endpoint.map view ∧
      (other.furnish failing second).transports =
        (settings.furnish failing first).transports := by
  obtain ⟨fault, rfl, rfl⟩ | ⟨endpoint, found, rfl, rfl, -⟩ := cases_of_map_eq same
  · exact ⟨rfl, rfl⟩
  · unfold furnish isFurnished
    rw [shared]
    dsimp only
    split
    · exact ⟨same, rfl⟩
    · exact ⟨same, rfl⟩
    · exact ⟨rfl, rfl⟩
    · exact ⟨rfl, rfl⟩

variable [Platform]

theorem Settings.endpoint_of_build (settings : Settings) (failing : Option Disruption)
    (store : Store) (endpoint : Endpoint)
    (built : ((settings.build failing).run store).1.endpoint = .ok endpoint) :
    settings.endpoint.outcome store = .ok endpoint := by
  rw [settings.run_build failing store] at built
  exact settings.furnish_ok failing _ endpoint built

theorem Settings.endpoint_inv (settings : Settings) (store : Store) (endpoint : Endpoint)
    (done : settings.endpoint.outcome store = .ok endpoint) :
    (checkUri settings.uri).outcome store = .ok endpoint.uri ∧
      endpoint.timeout = settings.timeout ∧
      ∃ later, (basicAuthorization settings.secret).outcome later = .ok endpoint.authorization := by
  rw [Settings.endpoint, Run.outcome_bind] at done
  obtain ⟨uri, checked, done⟩ := ok_of_bind done
  rw [Run.outcome_bind] at done
  obtain ⟨authorization, made, done⟩ := ok_of_bind done
  cases done
  exact ⟨checked, rfl, _, made⟩

namespace Session

variable (session : Session)

def after (steps : List Step) : Session :=
  steps.foldl (fun session step => (session.step step).2) session

theorem run_cons (step : Step) (steps : List Step) :
    session.run (step :: steps) = (session.step step).1 ::
      if (session.step step).2.isOver then [] else (session.step step).2.run steps := rfl

theorem configure_none (change : Settings → Run Settings) (absent : session.settings = none) :
    session.configure change = (missing, session) := by
  rw [configure, absent]

theorem configure_some (change : Settings → Run Settings) (settings : Settings)
    (held : session.settings = some settings) :
    session.configure change =
      match (change settings).outcome session.store with
      | .ok changed =>
        (.completed (.bool true), { session with
          store := (change settings).leaves session.store
          settings := some changed })
      | .error fault =>
        let shown := (Outcome.ofFault fault).run ((change settings).leaves session.store)
        (shown.1, { session with store := shown.2 }) := by
  rw [configure, held]
  unfold Run.outcome Run.leaves
  dsimp only [StateT.run]
  cases ExceptT.run (change settings) session.store with
  | mk result after => cases result <;> rfl

theorem configure_client (change : Settings → Run Settings) :
    (session.configure change).2.client = session.client := by
  cases held : session.settings with
  | none => rw [configure_none session change held]
  | some settings =>
    rw [configure_some session change settings held]
    cases (change settings).outcome session.store <;> rfl

theorem configure_settings (change : Settings → Run Settings) (changed : Settings)
    (configured : (session.configure change).2.settings = some changed) :
    session.settings = some changed ∨ ∃ settings, session.settings = some settings ∧
      (change settings).outcome session.store = .ok changed := by
  cases held : session.settings with
  | none =>
    rw [configure_none session change held] at configured
    exact .inl (held.symm.trans configured)
  | some settings =>
    rw [configure_some session change settings held] at configured
    cases done : (change settings).outcome session.store with
    | error fault =>
      rw [done] at configured
      exact .inl (held.symm.trans configured)
    | ok made =>
      rw [done] at configured
      cases configured
      exact .inr ⟨settings, rfl, done⟩

theorem build_some (blocking : Bool) (failing : Option Disruption) (settings : Settings)
    (held : session.settings = some settings) :
    session.build blocking failing =
      let built := (settings.build failing).run session.store
      match built.1.endpoint with
      | .ok endpoint =>
        ({ outcome := .completed (endpointPicture endpoint),
           transports := some built.1.transports },
          { session with store := built.2, client := some { endpoint, blocking } })
      | .error fault =>
        let shown := (Outcome.ofFault fault).run built.2
        ({ outcome := shown.1, transports := some built.1.transports },
          { session with store := shown.2 }) := by
  rw [build, held]
  rfl

theorem step_builder (script : Script) :
    session.step (.builder script) =
      match (script.eval []).outcome session.store with
      | .ok secret =>
        ({ outcome := .completed .null }, { session with
          store := (script.eval []).leaves session.store
          settings := some { secret } })
      | .error fault =>
        let shown := (Outcome.ofFault fault).run ((script.eval []).leaves session.store)
        ({ outcome := shown.1 }, { session with store := shown.2 }) := by
  unfold Run.outcome Run.leaves
  rw [step]
  dsimp only [StateT.run]
  cases ExceptT.run (script.eval []) session.store with
  | mk result after => cases result <;> rfl

def Step.change? : Step → Option (Settings → Run Settings)
  | .uri script => some fun settings => do return { settings with uri := ← script.eval [] }
  | .timeout script =>
    some fun settings => do settings.withTimeout (← Run.identity) (← script.eval [])
  | .transport provided => some fun settings => return { settings with transport := provided }
  | _ => none

theorem step_of_change (step : Step) (change : Settings → Run Settings)
    (configures : step.change? = some change) :
    session.step step =
      ({ outcome := (session.configure change).1 }, (session.configure change).2) := by
  cases step <;> cases configures <;> rfl

def prepared (script : Script) (reply : ReplyScript) : Run (Value × Reply) := do
  let value ← script.eval []
  return (value, ← reply.make)

theorem run_query (client : Client) (held : session.client = some client) (script : Script)
    (decoder : Decoder) (reply : ReplyScript) (store : Store) :
    (session.query script decoder reply).run store =
      match (prepared script reply).outcome store with
      | .ok made =>
        (client.query made.1 decoder made.2).run ((prepared script reply).leaves store)
      | .error fault => ({ result := .error fault }, (prepared script reply).leaves store) := by
  unfold Run.outcome Run.leaves
  rw [query, held]
  change (StateT.bind (prepared script reply).run _).run store = _
  simp only [StateT.run, StateT.bind, bind, ExceptT.run]
  cases prepared script reply store with
  | mk verdict after => cases verdict <;> rfl

omit [Platform] in
theorem withClient_some (client : Client) (held : session.client = some client)
    (answer : Picture) (change : Client → Client) :
    session.withClient answer change =
      ({ outcome := .completed answer }, { session with client := some (change client) }) := by
  rw [withClient, held]

omit [Platform] in
theorem withClient_fixed (client : Client) (held : session.client = some client)
    (answer : Picture) (change : Client → Client) (fixed : change client = client) :
    session.withClient answer change = ({ outcome := .completed answer }, session) := by
  rw [withClient_some session client held, fixed, ← held]

theorem step_client (step : Step) (kept : ∀ blocking failing, step ≠ .build blocking failing)
    (lasts : step ≠ .close) (quiet : ∀ script decoder reply, step ≠ .query script decoder reply) :
    (session.step step).2.client = session.client := by
  cases configures : step.change? with
  | some change =>
    rw [step_of_change session step change configures]
    exact configure_client session change
  | none =>
    cases step with
    | builder secret =>
      rw [step_builder]
      cases (secret.eval []).outcome session.store <;> rfl
    | build blocking failing => exact (kept blocking failing rfl).elim
    | query script decoder reply => exact (quiet script decoder reply rfl).elim
    | close => exact (lasts rfl).elim
    | enter =>
      change (session.withClient _ id).2.client = session.client
      rw [withClient]
      cases held : session.client with
      | none => exact held
      | some client => rfl
    | uri _ | timeout _ | transport _ => nomatch configures

theorem close_client : (session.step .close).2.client = session.client.map Client.close := by
  change (session.withClient _ Client.close).2.client = _
  rw [withClient]
  cases held : session.client with
  | none => exact held
  | some client => rfl

theorem step_query (script : Script) (decoder : Decoder) (reply : ReplyScript) :
    session.step (.query script decoder reply) =
      let queried := (session.query script decoder reply).run session.store
      let shown := (Outcome.ofResult queried.1.result).run queried.2
      ({ outcome := shown.1, trace := some queried.1.trace }, { session with
        store := shown.2
        client := session.client.map (·.receive queried.1)
        isOver := session.isOver || queried.1.isInterrupted }) := rfl

end Session
end QueryWire
