import QueryWire.Proofs.Session

/-!
A blocking client and one that is not answer alike for as long as they are open. Two sessions whose
clients differ in this alone take the same steps in the same way, up to and including the first
close; what tells the clients apart is only what they do with queries after that.
-/

namespace QueryWire

section

variable [Platform]

namespace Client

/-- Two clients that are the same, but that one may be blocking if they are open. -/
inductive Alike (client : Client) : Client → Prop
  | same : Alike client client
  | apart (opened : client.isOpen = true) (blocking : Bool) : Alike client { client with blocking }

theorem Alike.query_eq {client other : Client} (alike : Alike client other) (value : Value)
    (decoder : Decoder) (reply : Reply) :
    client.query value decoder reply = other.query value decoder reply := by
  cases alike with
  | same => rfl
  | apart opened blocking =>
    have awake (blocks : Bool) : (blocks && !client.isOpen) = false := by simp [opened]
    unfold query
    rw [awake, awake]
    rfl

omit [Platform] in
theorem Alike.receive {client other : Client} (alike : Alike client other) (report : Report) :
    Alike (client.receive report) (other.receive report) := by
  cases alike with
  | same => exact .same
  | apart opened blocking =>
    have still : (client.receive report).isOpen = true := opened
    exact .apart still blocking

end Client

namespace Session

/-- Two sessions that are the same, but that their clients are alike only. -/
structure Twins (session twin : Session) : Prop where
  store : twin.store = session.store
  settings : twin.settings = session.settings
  client : Option.Rel Client.Alike session.client twin.client
  isOver : twin.isOver = session.isOver

omit [Platform] in
theorem twins_self (session : Session) : Twins session session := by
  refine ⟨rfl, rfl, ?_, rfl⟩
  cases session.client with
  | none => exact .none
  | some client => exact .some .same

namespace Twins

variable {session twin : Session}

theorem configure (twins : Twins session twin) (change : Settings → Run Settings) :
    (session.configure change).1 = (twin.configure change).1 ∧
      Twins (session.configure change).2 (twin.configure change).2 := by
  cases held : session.settings with
  | none =>
    rw [configure_none session change held,
      configure_none twin change (twins.settings.trans held)]
    exact ⟨rfl, twins⟩
  | some settings =>
    rw [configure_some session change settings held,
      configure_some twin change settings (twins.settings.trans held), twins.store]
    cases (change settings).outcome session.store with
    | ok changed => exact ⟨rfl, rfl, rfl, twins.client, twins.isOver⟩
    | error fault => exact ⟨rfl, rfl, twins.settings, twins.client, twins.isOver⟩

theorem build (twins : Twins session twin) (blocking other : Bool) (failing : Option Disruption) :
    (session.build blocking failing).1 = (twin.build other failing).1 ∧
      Twins (session.build blocking failing).2 (twin.build other failing).2 := by
  cases held : session.settings with
  | none =>
    rw [Session.build, Session.build, twins.settings, held]
    exact ⟨rfl, twins⟩
  | some settings =>
    rw [build_some session blocking failing settings held,
      build_some twin other failing settings (twins.settings.trans held), twins.store]
    dsimp only
    cases ((settings.build failing).run session.store).1.endpoint with
    | ok endpoint => exact ⟨rfl, rfl, twins.settings, .some (.apart rfl other), twins.isOver⟩
    | error fault => exact ⟨rfl, rfl, twins.settings, twins.client, twins.isOver⟩

theorem query_eq (twins : Twins session twin) (script : Script) (decoder : Decoder)
    (reply : ReplyScript) :
    session.query script decoder reply = twin.query script decoder reply := by
  unfold Session.query
  refine bind_congr fun prepared => ?_
  obtain ⟨store, settings, client, isOver⟩ := session
  obtain ⟨_, _, _, _⟩ := twin
  obtain ⟨rfl, rfl, alike, rfl⟩ := twins
  cases alike with
  | none => rfl
  | some alike =>
    cases prepared with
    | ok made => exact alike.query_eq made.1 decoder made.2
    | error fault => rfl

theorem enter (twins : Twins session twin) :
    (session.step .enter).1 = (twin.step .enter).1 ∧
      Twins (session.step .enter).2 (twin.step .enter).2 := by
  obtain ⟨store, settings, client, isOver⟩ := session
  obtain ⟨_, _, _, _⟩ := twin
  obtain ⟨rfl, rfl, alike, rfl⟩ := twins
  cases alike with
  | none => exact ⟨rfl, rfl, rfl, .none, rfl⟩
  | some alike => exact ⟨rfl, rfl, rfl, .some alike, rfl⟩

theorem close (twins : Twins session twin) :
    (session.step .close).1 = (twin.step .close).1 := by
  obtain ⟨store, settings, client, isOver⟩ := session
  obtain ⟨_, _, _, _⟩ := twin
  obtain ⟨rfl, rfl, alike, rfl⟩ := twins
  cases alike <;> rfl

omit [Platform] in
theorem receive (twins : Twins session twin) (report : Report) :
    Option.Rel Client.Alike (session.client.map (·.receive report))
      (twin.client.map (·.receive report)) := by
  obtain ⟨store, settings, client, isOver⟩ := session
  obtain ⟨_, _, _, _⟩ := twin
  obtain ⟨rfl, rfl, alike, rfl⟩ := twins
  cases alike with
  | none => exact .none
  | some alike => exact .some (alike.receive report)

/-- Short of a close, every step of twins is answered alike, and leaves twins behind. -/
theorem step (twins : Twins session twin) (step : Step) (stays : step ≠ .close) :
    (session.step step).1 = (twin.step step).1 ∧
      Twins (session.step step).2 (twin.step step).2 := by
  cases configures : step.change? with
  | some change =>
    rw [step_of_change session step change configures, step_of_change twin step change configures]
    obtain ⟨same, after⟩ := twins.configure change
    rw [same]
    exact ⟨rfl, after⟩
  | none =>
    cases step with
    | builder secret =>
      rw [step_builder session secret, step_builder twin secret, twins.store]
      cases (secret.eval []).outcome session.store with
      | ok value => exact ⟨rfl, rfl, rfl, twins.client, twins.isOver⟩
      | error fault => exact ⟨rfl, rfl, twins.settings, twins.client, twins.isOver⟩
    | build blocking failing => exact twins.build blocking blocking failing
    | query script decoder reply =>
      rw [Session.step, Session.step, twins.store, twins.query_eq, twins.isOver]
      exact ⟨rfl, rfl, twins.settings, twins.receive _, rfl⟩
    | close => exact (stays rfl).elim
    | enter => exact twins.enter
    | uri _ | timeout _ | transport _ => cases configures

theorem run (twins : Twins session twin) (steps : List Step) (stays : .close ∉ steps) :
    session.run (steps ++ [.close]) = twin.run (steps ++ [.close]) := by
  induction steps generalizing session twin with
  | nil =>
    change session.run [.close] = twin.run [.close]
    rw [run_cons, run_cons, twins.close]
    exact congrArg _ ((ite_self _).trans (ite_self _).symm)
  | cons step steps ih =>
    obtain ⟨same, after⟩ := twins.step step fun closes => stays (closes ▸ .head _)
    have rest := ih after fun member => stays (.tail _ member)
    rw [List.cons_append, run_cons, run_cons, same, after.isOver, rest]

theorem after (twins : Twins session twin) (steps : List Step) (stays : .close ∉ steps) :
    Twins (session.after steps) (twin.after steps) := by
  induction steps generalizing session twin with
  | nil => exact twins
  | cons step steps ih =>
    obtain ⟨-, after⟩ := twins.step step fun closes => stays (closes ▸ .head _)
    exact ih after fun member => stays (.tail _ member)

end Twins

/-- From whatever state, a session goes on in the same way whether it builds a client that is
blocking or one that is not: every answer is the same until the client is closed, and so is the
answer to that. Each query on the way reports the same, and leaves the same store behind. -/
theorem blocking_agrees (session : Session) (failing : Option Disruption) (steps : List Step)
    (stays : .close ∉ steps) :
    session.run (.build true failing :: (steps ++ [.close])) =
        session.run (.build false failing :: (steps ++ [.close])) ∧
      ∀ script decoder reply,
        (session.after (.build true failing :: steps)).query script decoder reply =
          (session.after (.build false failing :: steps)).query script decoder reply := by
  obtain ⟨same, twins⟩ := (twins_self session).build true false failing
  constructor
  · have made : (session.step (.build true failing)).1 =
        (session.step (.build false failing)).1 := same
    have ends : (session.step (.build true failing)).2.isOver =
        (session.step (.build false failing)).2.isOver := twins.isOver.symm
    have rest : (session.step (.build true failing)).2.run (steps ++ [.close]) =
        (session.step (.build false failing)).2.run (steps ++ [.close]) := twins.run steps stays
    rw [run_cons, run_cons, made, ends, rest]
  · exact (twins.after steps stays).query_eq

end Session

end

namespace Session

def provided : Session where
  settings := some { secret := .text "secret", transport := some {} }

/-- Two queries that end badly, one of them before it is sent. -/
def badQueries : List Step := [
  .enter, .query (.constant (.text "a")) .response (.interrupted .stalled),
  .query (.constant (.bytes [])) .response (.interrupted .stalled)]

set_option maxRecDepth 4000 in
/-- The client is built either way, and answers the queries alike. -/
theorem provided_agrees :
    .close ∉ badQueries ∧
      (provided.build true none).2.client.map Client.blocking = some true ∧
      (provided.build false none).2.client.map Client.blocking = some false ∧
      provided.run (.build true none :: (badQueries ++ [.close])) =
        provided.run (.build false none :: (badQueries ++ [.close])) := by
  have stays : .close ∉ badQueries := by simp [badQueries]
  obtain ⟨same, -⟩ := blocking_agrees provided none badQueries stays
  exact ⟨stays, rfl, rfl, same⟩

end Session
end QueryWire
