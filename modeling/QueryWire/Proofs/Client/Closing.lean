import QueryWire.Proofs.Client.Query
import QueryWire.Proofs.Session

/-!
The stream of a response. It is closed once the query is over, whether it came to its end or was
broken off, whatever is reported for that, and whatever the decoder makes of its octets. No query of
a session leaves a stream open.
-/

namespace QueryWire

def Trace.Closed (trace : Trace) : Prop :=
  ∀ stream, trace.stream = some stream → stream.isOpen = false

theorem Trace.closed_of_none {trace : Trace} (absent : trace.stream = none) : trace.Closed := by
  intro stream found
  rw [absent] at found
  nomatch found

variable [Platform]

namespace Client

variable (client : Client) (value : Value) (decoder : Decoder) (reply : Reply) (store : Store)

theorem closed_exchange (opened : client.isOpen = true) (payload : Text) (request : Request)
    (made : client.endpoint.request client.cookies payload = .ok request) :
    (ExceptT.run (client.exchange payload decoder reply) {}).2.Closed := by
  rw [client.run_exchange decoder reply opened payload request made]
  intro stream found
  obtain ⟨handed, -, rfl⟩ := Option.map_eq_some_iff.mp found
  rfl

omit [Platform] in
theorem closed_refusal : (client.refusal value store).trace.Closed := by
  rw [refusal]
  split
  · exact Trace.closed_of_none rfl
  · cases (serialize value).outcome store <;> exact Trace.closed_of_none rfl

theorem closed_report : (client.report value decoder reply store).trace.Closed := by
  by_cases unsent : client.isOpen = false ∨ client.endpoint.uri.isSendable = false
  · rw [client.report_unsent value decoder reply store unsent]
    exact client.closed_refusal value store
  · obtain ⟨opened, sendable⟩ := not_or.mp unsent
    simp only [Bool.not_eq_false] at opened sendable
    rw [client.report_open value decoder reply store opened]
    cases serialized : (serialize value).outcome store with
    | error fault => exact Trace.closed_of_none rfl
    | ok payload =>
      obtain ⟨request, made, -⟩ := client.endpoint.request_of_serialize client.cookies sendable
        value store payload serialized
      exact client.closed_exchange decoder reply opened payload request made

end Client

namespace Session

variable (session : Session)

theorem trace_query_none (absent : session.client = none) (script : Script) (decoder : Decoder)
    (reply : ReplyScript) (store : Store) :
    ((session.query script decoder reply).run store).1.trace = {} := by
  rw [query, absent]
  change (((StateT.bind (prepared script reply).run _).run store).1 : Report).trace = _
  simp only [StateT.run, StateT.bind, ExceptT.run]
  cases prepared script reply store with
  | mk verdict after => cases verdict <;> rfl

theorem closed_query (script : Script) (decoder : Decoder) (reply : ReplyScript) (store : Store) :
    ((session.query script decoder reply).run store).1.trace.Closed := by
  cases held : session.client with
  | none =>
    rw [session.trace_query_none held]
    exact Trace.closed_of_none rfl
  | some client =>
    rw [session.run_query client held]
    cases (prepared script reply).outcome store with
    | error fault => exact Trace.closed_of_none rfl
    | ok made =>
      exact client.closed_report made.1 decoder made.2 ((prepared script reply).leaves store)

theorem trace_step (step : Step)
    (other : ∀ script decoder reply, step ≠ .query script decoder reply) :
    (session.step step).1.trace = none := by
  cases configures : step.change? with
  | some change => rw [session.step_of_change step change configures]
  | none =>
    cases step with
    | query script decoder reply => exact (other script decoder reply rfl).elim
    | builder secret =>
      rw [session.step_builder]
      cases (secret.eval []).outcome session.store <;> rfl
    | build blocking failing =>
      change (session.build blocking failing).1.trace = none
      cases held : session.settings with
      | none => rw [build, held]
      | some settings =>
        rw [session.build_some blocking failing settings held]
        dsimp only
        split <;> rfl
    | close =>
      change (session.withClient _ Client.close).1.trace = none
      rw [withClient]
      cases session.client <;> rfl
    | enter =>
      change (session.withClient _ id).1.trace = none
      rw [withClient]
      cases session.client <;> rfl
    | uri _ | timeout _ | transport _ => cases configures

theorem closed_step (step : Step) (trace : Trace)
    (left : (session.step step).1.trace = some trace) : trace.Closed := by
  by_cases asks : ∃ script decoder reply, step = .query script decoder reply
  · obtain ⟨script, decoder, reply, rfl⟩ := asks
    rw [session.step_query] at left
    cases left
    exact session.closed_query script decoder reply session.store
  · rw [session.trace_step step fun script decoder reply same =>
      asks ⟨script, decoder, reply, same⟩] at left
    nomatch left

theorem closed_run (steps : List Step) :
    ∀ answer ∈ session.run steps, ∀ trace, answer.trace = some trace → trace.Closed := by
  induction steps generalizing session with
  | nil => nofun
  | cons step steps ih =>
    intro answer member
    rw [session.run_cons] at member
    rcases List.mem_cons.mp member with rfl | later
    · exact session.closed_step step
    · split at later
      next => nomatch later
      next => exact ih (session.step step).2 answer later

/-- The stream that a response hands over is closed when the query is over, however the stream goes
on and whatever the decoder does. No query of a session leaves a stream open. -/
theorem streams_closed :
    (∀ (dispatch : Dispatch) (decoder : Decoder) (status : Int) (cookies : List Text)
        (stream : Stream),
      (dispatch.report decoder (.response status cookies (.stream stream))).trace.stream =
        some { stream with isOpen := false }) ∧
    ∀ (session : Session) (steps : List Step),
      ∀ answer ∈ session.run steps, ∀ trace, answer.trace = some trace → trace.Closed := by
  refine ⟨?_, closed_run⟩
  intro dispatch decoder status cookies stream
  obtain ⟨request, -, same⟩ :=
    dispatch.report_eq decoder (.response status cookies (.stream stream))
  rw [same]
  rfl

end Session

end QueryWire
